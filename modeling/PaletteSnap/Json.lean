import PaletteSnap.Text.Hex

namespace PaletteSnap

inductive Json where
  | null
  | bool (value : Bool)
  | number (value : Nat)
  | text (value : String)
  | list (items : List Json)
  | record (fields : List (String × Json))

namespace Json

-- Control characters below a blank, the quote and the backslash are escaped, nothing else.
def escapeChar (c : Char) : List Char :=
  match c with
  | '"' => ['\\', '"']
  | '\\' => ['\\', '\\']
  | '\x08' => ['\\', 'b']
  | '\x0c' => ['\\', 'f']
  | '\n' => ['\\', 'n']
  | '\r' => ['\\', 'r']
  | '\t' => ['\\', 't']
  | c =>
    if c.toNat < 0x20 then
      ['\\', 'u', '0', '0', Text.hexDigit (c.toNat / 16), Text.hexDigit (c.toNat % 16)]
    else [c]

def quote (s : String) : List Char :=
  '"' :: s.toList.flatMap escapeChar ++ ['"']

structure Layout where
  colon : List Char
  line : Nat → List Char

namespace Layout

def compact : Layout :=
  ⟨[':'], fun _ => []⟩

def pretty : Layout :=
  ⟨[':', ' '], fun depth => '\n' :: List.replicate (2 * depth) ' '⟩

-- No entries leave the brackets together.
def block (layout : Layout) (opening closing : Char) (depth : Nat) :
    List (List Char) → List Char
  | [] => [opening, closing]
  | entry :: rest =>
    opening :: layout.line (depth + 1) ++ entry ++
      rest.flatMap (',' :: layout.line (depth + 1) ++ ·) ++ layout.line depth ++ [closing]

end Layout

mutual

def write (layout : Layout) (depth : Nat) : Json → List Char
  | null => "null".toList
  | bool b => (if b then "true" else "false").toList
  | number n => n.repr.toList
  | text s => quote s
  | list items => layout.block '[' ']' depth (writeItems layout (depth + 1) items)
  | record fields => layout.block '\x7b' '\x7d' depth (writeFields layout (depth + 1) fields)

def writeItems (layout : Layout) (depth : Nat) : List Json → List (List Char)
  | [] => []
  | j :: rest => j.write layout depth :: writeItems layout depth rest

def writeFields (layout : Layout) (depth : Nat) : List (String × Json) → List (List Char)
  | [] => []
  | (name, j) :: rest =>
    (quote name ++ layout.colon ++ j.write layout depth) :: writeFields layout depth rest

end

def compact (j : Json) : String :=
  String.ofList (j.write .compact 0)

def pretty (j : Json) : String :=
  String.ofList (j.write .pretty 0)

end Json

end PaletteSnap
