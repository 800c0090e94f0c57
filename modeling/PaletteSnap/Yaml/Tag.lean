import PaletteSnap.Text.Hex
import PaletteSnap.Text.Utf8
import PaletteSnap.Yaml.Token

namespace PaletteSnap.Yaml

def percentByte? : List Char → Option (UInt8 × List Char)
  | '%' :: a :: b :: rest => do
    let high ← Text.hexValue? a
    let low ← Text.hexValue? b
    return (UInt8.ofNat (16 * high + low), rest)
  | _ => none

def following? (lead : UInt8) : Option Nat :=
  if lead < 0x80 then some 0
  else if lead < 0xC0 then none
  else if lead < 0xE0 then some 1
  else if lead < 0xF0 then some 2
  else if lead < 0xF8 then some 3
  else none

def continuation? : Nat → List Char → Option (List UInt8 × List Char)
  | 0, rest => some ([], rest)
  | n + 1, text => do
    let (b, rest) ← percentByte? text
    if b.toNat / 64 = 2 then
      let (bs, rest) ← continuation? n rest
      return (b :: bs, rest)
    else none

def percentChar? (text : List Char) : Option (List UInt8 × List Char) := do
  let (lead, rest) ← percentByte? text
  let n ← following? lead
  let (bs, rest) ← continuation? n rest
  return (lead :: bs, rest)

def isTagChar (wide : Bool) (c : Char) : Bool :=
  isNameChar c || c ∈ ";/?:@&=+$.!~*'()".toList || (wide && c ∈ [',', '[', ']'])

def tagText? (wide : Bool) : Nat → Cursor → Option (TagText × Cursor)
  | 0, _ => none
  | fuel + 1, c =>
    match c.rest with
    | '%' :: _ => do
      let (bs, rest) ← percentChar? c.rest
      let (more, c) ← tagText? wide fuel (c.advance (c.rest.length - rest.length))
      return (bs ++ more, c)
    | ch :: _ =>
      if isTagChar wide ch then do
        let (more, c) ← tagText? wide fuel (c.advance 1)
        return (UInt8.ofNat ch.toNat :: more, c)
      else some ([], c)
    | [] => some ([], c)

def someTagText? (wide : Bool) (c : Cursor) : Option (TagText × Cursor) := do
  let (text, c) ← tagText? wide (c.rest.length + 1) c
  if text = [] then none else return (text, c)

def handle? (c : Cursor) : Option (List Char × Cursor) := do
  if c.peek ≠ some '!' then none
  else
    let (name, c) := (c.advance 1).span isNameChar
    if c.peek = some '!' then return ('!' :: name ++ ['!'], c.advance 1)
    else return ('!' :: name, c)

def isNamed (handle : List Char) : Bool :=
  1 < handle.length && handle.getLast? = some '!'

def asciiBytes (text : List Char) : List UInt8 :=
  text.map fun c => UInt8.ofNat c.toNat

def tag? (c : Cursor) : Option (String × TagText × Cursor) := do
  if c.rest.take 2 = ['!', '<'] then
    let (text, c) ← someTagText? true (c.advance 2)
    if c.peek = some '>' then return ("", text, c.advance 1) else none
  else
    let (handle, c) ← handle? c
    if isNamed handle then
      let (text, c) ← someTagText? false c
      return (String.ofList handle, text, c)
    else
      let (more, c) ← tagText? false (c.rest.length + 1) c
      let text := asciiBytes handle.tail ++ more
      return (if text = [] then ("", asciiBytes ['!'], c) else ("!", text, c))

def tagToken? (flow : Bool) (c : Cursor) : Option (Token × Cursor) := do
  let (handle, text, c) ← tag? c
  if c.spaceAfter 0 ∨ (flow ∧ c.peek = some ',') then return (.tag handle text, c) else none

def anchorName? (c : Cursor) : Option (String × Cursor) :=
  let (name, c) := (c.advance 1).span isNameChar
  if name ≠ [] ∧ (c.spaceAfter 0 ∨ c.peek.any (· ∈ "?:,]\x7d%@\x60".toList)) then
    some (String.ofList name, c)
  else none

def versionNumber? (c : Cursor) : Option (Nat × Cursor) := do
  let (digits, c) := c.span Char.isDigit
  if 9 < digits.length then none
  else
    let n ← Text.digits? 10 digits
    return (n, c)

def version? (c : Cursor) : Option (Token × Cursor) := do
  let (major, c) ← versionNumber? (c.skipWhile isBlank)
  if c.peek ≠ some '.' then none
  else
    let (minor, c) ← versionNumber? (c.advance 1)
    return (.version major minor, c)

def tagHandle? (c : Cursor) : Option (Token × Cursor) := do
  let (handle, c) ← handle? (c.skipWhile isBlank)
  if (handle ≠ ['!'] ∧ !isNamed handle) ∨ !c.peek.any isBlank then none
  else
    let (text, c) ← someTagText? true (c.skipWhile isBlank)
    if c.spaceAfter 0 then return (.tagHandle (String.ofList handle) text, c) else none

def directive? (c : Cursor) : Option (Token × Cursor) := do
  let (name, c) := (c.advance 1).span isNameChar
  if !c.spaceAfter 0 then none
  else
    let (t, c) ←
      match String.ofList name with
      | "YAML" => version? c
      | "TAG" => tagHandle? c
      | _ => none
    let c ← c.lineEnd?
    return (t, c)

end PaletteSnap.Yaml
