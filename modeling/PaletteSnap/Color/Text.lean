import PaletteSnap.Color
import PaletteSnap.Text.Blank
import PaletteSnap.Text.Hex
import PaletteSnap.Text.Quoted

namespace PaletteSnap.Color

def digits (c : Color) : List Char :=
  c.channels.flatMap Text.hexByte

def toChars (c : Color) : List Char :=
  '#' :: c.digits

def toText (c : Color) : String :=
  String.ofList c.toChars

inductive SyntaxError where
  | length
  | digits (found : List Char)
deriving DecidableEq, Repr

def SyntaxError.message : SyntaxError → String
  | .length => "invalid hex color length (expected 3 or 6 characters)"
  | .digits found => "invalid hex color: " ++ String.ofList (Text.quoted found)

def body (text : List Char) : List Char :=
  match Text.trim text with
  | '#' :: rest => rest
  | rest => rest

def channel (high low : Nat) : UInt8 :=
  UInt8.ofNat (16 * high + low)

def ofDigits? : List Nat → Option Color
  | [r, g, b] => some ⟨channel r r, channel g g, channel b b⟩
  | [r, r', g, g', b, b'] => some ⟨channel r r', channel g g', channel b b'⟩
  | _ => none

-- A wrong ASCII character is reported before a wrong length, any other character as a wrong length.
def ofChars (text : List Char) : Except SyntaxError Color :=
  let u := body text
  if u.all (·.toNat < 128) then
    match u.mapM Text.hexValue? with
    | none => .error (.digits u)
    | some ds =>
      match ofDigits? ds with
      | some c => .ok c
      | none => .error .length
  else .error .length

def ofText (text : String) : Except SyntaxError Color :=
  ofChars text.toList

end PaletteSnap.Color
