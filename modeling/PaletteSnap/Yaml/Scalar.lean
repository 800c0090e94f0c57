import PaletteSnap.Text.Number
import PaletteSnap.Yaml.Cursor

namespace PaletteSnap.Yaml

inductive Style where
  | plain | singleQuoted | doubleQuoted | literal | folded
deriving DecidableEq, Repr

inductive Gap where
  | blanks (text : List Char)
  | lines (first : Option Char) (more : List Char)
deriving DecidableEq, Repr

namespace Gap

def fold : Gap → List Char
  | blanks text => text
  | lines (some '\n') [] => [' ']
  | lines (some '\n') more => more
  | lines (some c) more => c :: more
  | lines none more => more

def isLines : Gap → Bool
  | blanks _ => false
  | lines _ _ => true

def read? (margin : Nat) : Nat → Gap → Cursor → Option (Gap × Cursor)
  | 0, _, _ => none
  | fuel + 1, g, c =>
    match c.lineBreak? with
    | some (b, c) =>
      match g with
      | blanks _ => read? margin fuel (lines (some b) []) c
      | lines first more => read? margin fuel (lines first (more ++ [b])) c
    | none =>
      match c.peek with
      | some ch =>
        if isBlank ch then
          match g with
          | blanks text => read? margin fuel (blanks (text ++ [ch])) (c.advance 1)
          | lines _ _ =>
            if ch = '\t' ∧ c.column < margin then none else read? margin fuel g (c.advance 1)
        else some (g, c)
      | none => some (g, c)

end Gap

def flowIndicators : List Char :=
  [',', '[', ']', '\x7b', '\x7d']

def plainWord? (flow : Bool) : List Char → Option (List Char)
  | [] => some []
  | c :: rest =>
    let next := rest.head?
    if isSpace c then some []
    else if flow ∧ c = ':' ∧ next.any (· ∈ '?' :: flowIndicators) then none
    else if (c = ':' ∧ next.all isSpace) ∨ (flow ∧ c ∈ flowIndicators) then some []
    else (plainWord? flow rest).map (c :: ·)

def plainFrom? (flow : Bool) (margin : Nat) :
    Nat → List Char → Gap → Cursor → Option (List Char × Bool × Cursor)
  | 0, _, _, _ => none
  | fuel + 1, text, g, c => do
    if c.atDocumentMarker ∨ c.peek = some '#' then return (text, g.isLines, c)
    else
      let word ← plainWord? flow c.rest
      if word = [] then return (text, g.isLines, c)
      else
        let text := text ++ g.fold ++ word
        let (g, c) ← Gap.read? margin (c.rest.length + 1) (.blanks []) (c.advance word.length)
        if g = .blanks [] ∨ (!flow ∧ c.column < margin) then return (text, g.isLines, c)
        else plainFrom? flow margin fuel text g c

def plain? (flow : Bool) (margin : Nat) (c : Cursor) : Option (List Char × Bool × Cursor) :=
  plainFrom? flow margin (c.rest.length + 1) [] (.blanks []) c

def escaped? : Char → Option Char
  | '0' => some '\x00'
  | 'a' => some '\x07'
  | 'b' => some '\x08'
  | 't' => some '\t'
  | '\t' => some '\t'
  | 'n' => some '\n'
  | 'v' => some '\x0b'
  | 'f' => some '\x0c'
  | 'r' => some '\r'
  | 'e' => some '\x1b'
  | ' ' => some ' '
  | '"' => some '"'
  | '/' => some '/'
  | '\\' => some '\\'
  | 'N' => some '\u0085'
  | '_' => some '\u00A0'
  | 'L' => some '\u2028'
  | 'P' => some '\u2029'
  | _ => none

def codeLength? : Char → Option Nat
  | 'x' => some 2
  | 'u' => some 4
  | 'U' => some 8
  | _ => none

def coded? (length : Nat) (text : List Char) : Option Char := do
  let digits := text.take length
  if digits.length < length then none
  else
    let n ← Text.digits? 16 digits
    if n.isValidChar then some (Char.ofNat n) else none

def escape? : List Char → Option (Char × Nat)
  | [] => none
  | c :: rest =>
    match codeLength? c with
    | some length => (coded? length rest).map (·, length + 1)
    | none => (escaped? c).map (·, 1)

inductive WordEnd where
  | quote | space | escapedBreak
deriving DecidableEq, Repr

def singleWord : Nat → List Char → Cursor → List Char × WordEnd × Cursor
  | 0, word, c => (word, .space, c)
  | fuel + 1, word, c =>
    match c.rest with
    | [] => (word, .space, c)
    | '\'' :: '\'' :: _ => singleWord fuel (word ++ ['\'']) (c.advance 2)
    | '\'' :: _ => (word, .quote, c)
    | ch :: _ =>
      if isSpace ch then (word, .space, c) else singleWord fuel (word ++ [ch]) (c.advance 1)

def doubleWord? : Nat → List Char → Cursor → Option (List Char × WordEnd × Cursor)
  | 0, _, _ => none
  | fuel + 1, word, c =>
    match c.rest with
    | [] => some (word, .space, c)
    | '"' :: _ => some (word, .quote, c)
    | '\\' :: rest =>
      match (c.advance 1).lineBreak? with
      | some (_, c) => some (word, .escapedBreak, c)
      | none => do
        let (ch, length) ← escape? rest
        doubleWord? fuel (word ++ [ch]) (c.advance (length + 1))
    | ch :: _ =>
      if isSpace ch then some (word, .space, c) else doubleWord? fuel (word ++ [ch]) (c.advance 1)

def quotedFrom? (style : Style) : Nat → List Char → Cursor → Option (List Char × Cursor)
  | 0, _, _ => none
  | fuel + 1, text, c => do
    if c.atDocumentMarker ∨ c.ended then none
    else
      let size := c.rest.length + 1
      let (word, wordEnd, c) ←
        if style = .singleQuoted then some (singleWord size [] c) else doubleWord? size [] c
      let text := text ++ word
      if wordEnd = .quote then return (text, c.advance 1)
      else
        let g := if wordEnd = .escapedBreak then Gap.lines none [] else .blanks []
        if c.peek = some (if style = .singleQuoted then '\'' else '"') then
          return (text, c.advance 1)
        else
          let (g, c) ← Gap.read? 0 (c.rest.length + 1) g c
          quotedFrom? style fuel (text ++ g.fold) c

def quoted? (style : Style) (c : Cursor) : Option (List Char × Cursor) :=
  quotedFrom? style (c.rest.length + 1) [] (c.advance 1)

inductive Chomping where
  | strip | clip | keep
deriving DecidableEq, Repr

def chomping? : Char → Option Chomping
  | '+' => some .keep
  | '-' => some .strip
  | _ => none

def increment? (c : Char) : Option Nat :=
  if '1' ≤ c ∧ c ≤ '9' then some (c.toNat - '0'.toNat) else none

def blockSigns (c : Cursor) : Chomping × Option Nat × Cursor :=
  match c.rest with
  | [] => (.clip, none, c)
  | a :: rest =>
    match chomping? a, increment? a with
    | some k, _ =>
      match rest.head?.bind increment? with
      | some n => (k, some n, c.advance 2)
      | none => (k, none, c.advance 1)
    | none, some n =>
      match rest.head?.bind chomping? with
      | some k => (k, some n, c.advance 2)
      | none => (.clip, some n, c.advance 1)
    | none, none => (.clip, none, c)

def blockBreaks? (indent : Option Nat) :
    Nat → Nat → List Char → Cursor → Option (Nat × List Char × Cursor)
  | 0, _, _, _ => none
  | fuel + 1, deepest, breaks, c =>
    let room := match indent with
      | some n => n - c.column
      | none => c.rest.length
    let c := c.advance ((c.rest.take room).takeWhile (· = ' ')).length
    let deepest := max deepest c.column
    if c.peek = some '\t' ∧ indent.all (c.column < ·) then none
    else
      match c.lineBreak? with
      | some (b, c) => blockBreaks? indent fuel deepest (breaks ++ [b]) c
      | none => some (deepest, breaks, c)

structure Block where
  text : List Char
  last : Option Char
  empty : List Char
  indented : Bool

-- Only folding drops breaks, and not beside a line that begins with a blank.
def Block.joint (b : Block) (style : Style) (indented : Bool) : List Char :=
  if style = .folded ∧ b.last = some '\n' ∧ !b.indented ∧ !indented then
    if b.empty = [] then [' '] else b.empty
  else b.last.toList ++ b.empty

def blockLines? (style : Style) (indent : Nat) : Nat → Block → Cursor → Option (Block × Cursor)
  | 0, _, _ => none
  | fuel + 1, b, c => do
    if c.column ≠ indent ∨ c.ended then return (b, c)
    else
      let indented := c.peek.any isBlank
      let (line, c) := c.span (!isBreak ·)
      let (last, c) := match c.lineBreak? with
        | some (br, c) => (some br, c)
        | none => (none, c)
      let text := b.text ++ b.joint style indented ++ line
      let (_, empty, c) ← blockBreaks? (some indent) (c.rest.length + 1) 0 [] c
      blockLines? style indent fuel ⟨text, last, empty, indented⟩ c

def block? (style : Style) (margin : Nat) (c : Cursor) : Option (List Char × Cursor) := do
  let (chomping, increment, c) := blockSigns (c.advance 1)
  let c ← c.lineEnd?
  let given := increment.map (margin - 1 + ·)
  let (deepest, breaks, c) ← blockBreaks? given (c.rest.length + 1) 0 [] c
  let indent := given.getD (max (max deepest margin) 1)
  let (b, c) ← blockLines? style indent (c.rest.length + 1) ⟨[], none, breaks, false⟩ c
  let tail := match chomping with
    | .strip => []
    | .clip => b.last.toList
    | .keep => b.last.toList ++ b.empty
  return (b.text ++ tail, c)

end PaletteSnap.Yaml
