import PaletteSnap.Path

namespace PaletteSnap

inductive IoError where
  | notFound
  | notFolder
  | isFolder
  | nameTooLong
  | zeroByte
  | notUtf8
  | other (reason : String)
deriving DecidableEq, Repr

def IoError.message : IoError → String
  | .notFound => "No such file or directory (os error 2)"
  | .notFolder => "Not a directory (os error 20)"
  | .isFolder => "Is a directory (os error 21)"
  | .nameTooLong => "File name too long (os error 36)"
  | .zeroByte => "file name contained an unexpected NUL byte"
  | .notUtf8 => "stream did not contain valid UTF-8"
  | .other reason => reason

inductive Entry where
  | folder
  | file (content : List UInt8)
deriving DecidableEq, Repr

abbrev Location := List (List UInt8)

-- Files and folders, without links or permissions. The home is the working directory; like the
-- folders above it, it always exists.
structure FileTree where
  home : Location
  entries : List (Location × Entry)
deriving DecidableEq, Repr

namespace FileTree

def empty : FileTree :=
  ⟨[Text.encodeUtf8 "home"], []⟩

def get? (t : FileTree) (l : Location) : Option Entry :=
  if l <+: t.home then some .folder else t.entries.lookup l

def putIn (l : Location) (e : Entry) : List (Location × Entry) → List (Location × Entry)
  | [] => [(l, e)]
  | (k, old) :: rest => if k = l then (l, e) :: rest else (k, old) :: putIn l e rest

def fill (t : FileTree) (l : Location) (e : Entry) : FileTree :=
  { t with entries := putIn l e t.entries }

def put (t : FileTree) (l : Location) (e : Entry) : FileTree :=
  t.fill (t.home ++ l) e

theorem lookup_putIn (l m : Location) (e : Entry) (entries : List (Location × Entry)) :
    (putIn l e entries).lookup m = if m = l then some e else entries.lookup m := by
  induction entries with
  | nil =>
    by_cases h : m = l
    · simp [putIn, h]
    · simp [putIn, List.lookup_cons, h, show (m == l) = false by simpa using h]
  | cons p rest ih =>
    obtain ⟨k, old⟩ := p
    by_cases hk : k = l
    · by_cases hm : m = l
      · simp [putIn, hk, hm]
      · simp [putIn, hk, hm, List.lookup_cons, show (m == l) = false by simpa using hm]
    · by_cases hm : m = k
      · simp [putIn, hk, hm]
      · simp [putIn, hk, List.lookup_cons, show (m == k) = false by simpa using hm, ih]

theorem get?_fill (t : FileTree) {l : Location} (hl : ¬ l <+: t.home) (m : Location) (e : Entry) :
    (t.fill l e).get? m = if m = l then some e else t.get? m := by
  by_cases hm : m <+: t.home
  · have hne : m ≠ l := by
      rintro rfl
      exact hl hm
    simp [get?, fill, hm, hne]
  · simp [get?, fill, hm, lookup_putIn]

def maxName : Nat := 255

def maxPath : Nat := 4095

def walk (t : FileTree) (l : Location) (c : Path.Component) : Except IoError Location :=
  match t.get? l with
  | none => .error .notFound
  | some (.file _) => .error .notFolder
  | some .folder =>
    match c with
    | .root => .ok []
    | .here => .ok l
    | .up => .ok l.dropLast
    | .name n => if maxName < n.length then .error .nameTooLong else .ok (l ++ [n])

def steps (p : Path) : List Path.Component :=
  let step (piece : List UInt8) : Path.Component := (Path.component? piece).getD .here
  (if p.isAbsolute then [.root] else []) ++ ((Path.split p.bytes).filter (· ≠ [])).map step

def follow (t : FileTree) (p : Path) (steps : List Path.Component) : Except IoError Location :=
  if 0 ∈ p.bytes then .error .zeroByte
  else if p.bytes = [] then .error .notFound
  else if maxPath < p.bytes.length then .error .nameTooLong
  else steps.foldlM t.walk t.home

def asksFolder (p : Path) : Bool :=
  p.bytes.getLast? = some Path.slash

def read (t : FileTree) (p : Path) : Except IoError (List UInt8) :=
  match t.follow p (steps p) with
  | .error e => .error e
  | .ok l =>
    match t.get? l with
    | none => .error .notFound
    | some .folder => .error .isFolder
    | some (.file content) => if asksFolder p then .error .notFolder else .ok content

-- A write does not look for a name with a slash behind: it stops in the folder where the name would
-- be.
def writeSteps (p : Path) : List Path.Component :=
  if asksFolder p then (steps p).dropLast ++ [.here] else steps p

def target (t : FileTree) (p : Path) : Except IoError Location :=
  match t.follow p (writeSteps p) with
  | .error e => .error e
  | .ok l => if t.get? l = some .folder then .error .isFolder else .ok l

def write (t : FileTree) (p : Path) (content : List UInt8) : Except IoError FileTree :=
  match t.target p with
  | .error e => .error e
  | .ok l => .ok (t.fill l (.file content))

def listing (t : FileTree) : List (Path × List UInt8) :=
  let files := t.entries.filterMap fun (l, e) =>
    match e with
    | .file content =>
      if t.home <+: l then some (Path.join (l.drop t.home.length), content) else none
    | .folder => none
  (files.mergeSort fun a b => decide (a.1 ≤ b.1)).map fun (bytes, content) => (⟨bytes⟩, content)

end FileTree

end PaletteSnap
