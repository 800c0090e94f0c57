import PaletteSnap.Settings
import PaletteSnap.Text.Number
import PaletteSnap.Yaml.Document

namespace PaletteSnap.Settings

inductive Field where
  | tolerance | margin | verbose | indexed | suffix
deriving DecidableEq, Repr

def Field.ofName? : String → Option Field
  | "diff_threshold" => some tolerance
  | "level_threshold" => some margin
  | "verbose" => some verbose
  | "indexed_output" => some indexed
  | "output_suffix" => some suffix
  | _ => none

-- Numbers and truth values are plain, or blocks whose tag says what they are.
def isOfKind (kind : String) (v : Yaml.Scalar) : Bool :=
  v.style = .plain ||
    (v.style = .literal &&
      v.tag = some (Yaml.asciiBytes ("tag:yaml.org,2002:" ++ kind).toList))

-- A mark without digits after it leaves the text to be read as decimal, which then fails.
def markedNumber? : List Char → Option Nat
  | '0' :: 'x' :: digits => Text.digits? 16 digits
  | '0' :: 'o' :: digits => Text.digits? 8 digits
  | '0' :: 'b' :: digits => Text.digits? 2 digits
  | '0' :: _ :: _ => none
  | digits => Text.digits? 10 digits

def word? (v : Yaml.Scalar) : Option Nat :=
  if isOfKind "int" v then
    let text := match v.text.toList with
      | '+' :: rest => rest
      | text => text
    match markedNumber? text with
    | some n => if n ≤ Text.maxWord then some n else none
    | none => none
  else none

def flag? (v : Yaml.Scalar) : Option Bool :=
  if isOfKind "bool" v then
    match v.text with
    | "true" | "True" | "TRUE" => some true
    | "false" | "False" | "FALSE" => some false
    | _ => none
  else none

def set? (s : Settings) (f : Field) (v : Yaml.Scalar) : Option Settings :=
  match f with
  | .tolerance => (word? v).map fun n => { s with tolerance := n }
  | .margin => (word? v).map fun n => { s with margin := n }
  | .verbose => (flag? v).map fun b => { s with verbose := b }
  | .indexed => (flag? v).map fun b => { s with indexed := b }
  | .suffix => some { s with suffix := v.text }

def ofPairs? (d : Yaml.Document) :
    List Field → Settings → List (Yaml.Node × Yaml.Node) → Option Settings
  | _, s, [] => some s
  | seen, s, (key, value) :: rest => do
    let name ← d.scalar? key
    match Field.ofName? name.text with
    | none => ofPairs? d seen s rest
    | some f =>
      if f ∈ seen then none
      else
        let s ← s.set? f (← d.scalar? value)
        ofPairs? d (f :: seen) s rest

def ofDocument? (d : Yaml.Document) : Option Settings :=
  match d.root with
  | .mapping pairs => ofPairs? d [] {} pairs
  | .scalar v => if v.text = "" ∧ v.style = .plain then some {} else none
  | _ => none

def parseFault : String :=
  "not a mapping of known settings"

def ofYaml (text : String) : Except Cause Settings :=
  match (Yaml.Document.ofText? text).bind ofDocument? with
  | some s => .ok s
  | none => .error (.last parseFault)

def ofText (text : String) (yaml : String → Except Cause Settings := ofYaml) :
    Except Cause Settings :=
  if Text.trim text.toList = [] then .ok {} else yaml text

def ofText? (text : String) : Option Settings :=
  (ofText text).toOption

def ofFile (p : Path) (yaml : String → Except Cause Settings := ofYaml) :
    FileProgram (Except SettingsError Settings) := do
  match ← FileProgram.readText p with
  | .error e => return .error (.read p e)
  | .ok text => return (ofText text yaml).mapError (.parse p)

def load (named fromEnvironment : Option Path) (yaml : String → Except Cause Settings := ofYaml) :
    FileProgram (Except SettingsError Settings) :=
  match named.or fromEnvironment with
  | some p => ofFile p yaml
  | none => return .ok {}

end PaletteSnap.Settings
