import PaletteSnap.Text.Utf8

namespace PaletteSnap

structure Path where
  bytes : List UInt8
deriving DecidableEq, Repr

namespace Path

def slash : UInt8 := 0x2F

def dot : UInt8 := 0x2E

def ofText (text : String) : Path :=
  ⟨Text.encodeUtf8 text⟩

def toText (p : Path) : String :=
  Text.decodeLossy p.bytes

def split : List UInt8 → List (List UInt8)
  | [] => [[]]
  | b :: rest =>
    if b = slash then [] :: split rest
    else
      match split rest with
      | [] => [[b]]
      | piece :: pieces => (b :: piece) :: pieces

def join : List (List UInt8) → List UInt8
  | [] => []
  | [piece] => piece
  | piece :: pieces => piece ++ slash :: join pieces

theorem split_ne_nil (bytes : List UInt8) : split bytes ≠ [] := by
  cases bytes with
  | nil => simp [split]
  | cons b rest =>
    simp only [split]
    split
    · simp
    · split <;> simp

theorem join_nil_cons {pieces : List (List UInt8)} (h : pieces ≠ []) :
    join ([] :: pieces) = slash :: join pieces := by
  cases pieces with
  | nil => exact absurd rfl h
  | cons p ps => rfl

theorem join_cons_cons (b : UInt8) (piece : List UInt8) (pieces : List (List UInt8)) :
    join ((b :: piece) :: pieces) = b :: join (piece :: pieces) := by
  cases pieces <;> rfl

theorem join_split (bytes : List UInt8) : join (split bytes) = bytes := by
  induction bytes with
  | nil => rfl
  | cons b rest ih =>
    by_cases h : b = slash
    · rw [split, if_pos h, join_nil_cons (split_ne_nil rest), ih, h]
    · rw [split, if_neg h]
      cases hs : split rest with
      | nil => exact absurd hs (split_ne_nil rest)
      | cons p ps => rw [join_cons_cons, ← hs, ih]

def isAbsolute (p : Path) : Bool :=
  p.bytes.head? = some slash

inductive Component where
  | root
  | here
  | up
  | name (bytes : List UInt8)
deriving DecidableEq, Repr

-- The root, or a leading dot of a relative path.
def anchor (p : Path) : List UInt8 × List Component :=
  match split p.bytes with
  | [] :: _ :: _ => ([slash], [.root])
  | [0x2E] :: _ => ([dot], [.here])
  | _ => ([], [])

def pieces (p : Path) : List (List UInt8) :=
  split (p.bytes.drop p.anchor.1.length)

def ignorable (piece : List UInt8) : Bool :=
  piece = [] ∨ piece = [dot]

def component? (piece : List UInt8) : Option Component :=
  if ignorable piece then none
  else if piece = [dot, dot] then some .up
  else some (.name piece)

def components (p : Path) : List Component :=
  p.anchor.2 ++ p.pieces.filterMap component?

def Same (p q : Path) : Prop :=
  p.components = q.components

instance (p q : Path) : Decidable (Same p q) :=
  inferInstanceAs (Decidable (_ = _))

def fileName? (p : Path) : Option (List UInt8) :=
  match p.components.getLast? with
  | some (.name n) => some n
  | _ => none

def beforeLastDot? : List UInt8 → Option (List UInt8)
  | [] => none
  | b :: rest =>
    match beforeLastDot? rest with
    | some kept => some (b :: kept)
    | none => if b = dot then some [] else none

def stem (name : List UInt8) : List UInt8 :=
  match beforeLastDot? name with
  | none => name
  | some [] => name
  | some kept => kept

def fileStem? (p : Path) : Option (List UInt8) :=
  p.fileName?.map stem

def dropIgnorableEnd (pieces : List (List UInt8)) : List (List UInt8) :=
  (pieces.reverse.dropWhile ignorable).reverse

def parent (p : Path) : Path :=
  ⟨p.anchor.1 ++ join (dropIgnorableEnd (dropIgnorableEnd p.pieces).dropLast)⟩

def push (folder : Path) (name : List UInt8) : Path :=
  if name.head? = some slash then ⟨name⟩
  else if folder.bytes = [] ∨ folder.bytes.getLast? = some slash then ⟨folder.bytes ++ name⟩
  else ⟨folder.bytes ++ slash :: name⟩

def withFileName (p : Path) (name : List UInt8) : Path :=
  push (if p.fileName?.isSome then p.parent else p) name

end Path

end PaletteSnap
