import PaletteSnap.Yaml.Tag

namespace PaletteSnap.Yaml

structure Key where
  required : Bool
  place : Nat
  index : Nat
  line : Nat
  column : Nat
deriving Repr

-- A key must be followed by its colon on the same line, within 1024 bytes.
def Key.stale (k : Key) (c : Cursor) : Bool :=
  k.line < c.line || k.index + 1024 < c.index

-- Whether a node is a key shows only at the colon behind it. Its place is remembered, and the
-- tokens in front of it are put there when the colon comes.
structure Layout where
  cursor : Cursor
  tokens : List Token
  margins : List Nat
  keyAllowed : Bool
  key : Option Key
  outer : List (Option Key)

namespace Layout

def start (text : List Char) : Layout :=
  ⟨.start text, [], [], true, none, []⟩

def flow (l : Layout) : Bool :=
  !l.outer.isEmpty

def margin (l : Layout) : Nat :=
  l.margins.headD 0

def push (l : Layout) (t : Token) : Layout :=
  { l with tokens := t :: l.tokens }

def insert (l : Layout) (place : Nat) (t : Token) : Layout :=
  let later := l.tokens.length - place
  { l with tokens := l.tokens.take later ++ t :: l.tokens.drop later }

def advance (l : Layout) (n : Nat) : Layout :=
  { l with cursor := l.cursor.advance n }

def openBlock (l : Layout) (column place : Nat) (t : Token) : Layout :=
  if !l.flow ∧ l.margin ≤ column then
    { l.insert place t with margins := (column + 1) :: l.margins }
  else l

def openBlockHere (l : Layout) (t : Token) : Layout :=
  l.openBlock l.cursor.column l.tokens.length t

def closeBlocks (l : Layout) (limit : Nat) : Layout :=
  if l.flow then l
  else
    let closed := (l.margins.takeWhile (limit < ·)).length
    { l with
      margins := l.margins.drop closed
      tokens := List.replicate closed .blockEnd ++ l.tokens }

def dropKey? (l : Layout) : Option Layout :=
  if l.key.any (·.required) then none else some { l with key := none }

def saveKey? (l : Layout) : Option Layout :=
  if l.keyAllowed then do
    let l' ← l.dropKey?
    let required := !l.flow ∧ l.margin = l.cursor.column + 1
    let k : Key := ⟨required, l.tokens.length, l.cursor.index, l.cursor.line, l.cursor.column⟩
    return { l' with key := some k }
  else some l

def refresh? (c : Cursor) : Option Key → Option (Option Key)
  | some k => if k.stale c then (if k.required then none else some none) else some (some k)
  | none => some none

def refreshKeys? (l : Layout) : Option Layout := do
  let key ← refresh? l.cursor l.key
  let outer ← l.outer.mapM (refresh? l.cursor)
  return { l with key := key, outer := outer }

-- A byte order mark at the start of a line takes up its column.
def skipSpace : Nat → Layout → Layout
  | 0, l => l
  | fuel + 1, l =>
    let c := l.cursor
    let c := if c.column = 0 ∧ c.peek = some byteOrderMark then c.advance 1 else c
    let tabs := l.flow || !l.keyAllowed
    let c := c.skipWhile fun ch => ch = ' ' || (tabs && ch = '\t')
    let c := if c.peek = some '#' then c.skipWhile (!isBreak ·) else c
    match c.lineBreak? with
    | some (_, c) => skipSpace fuel { l with cursor := c, keyAllowed := !l.flow || l.keyAllowed }
    | none => { l with cursor := c }

def topLevel? (l : Layout) : Option Layout := do
  let l ← (l.closeBlocks 0).dropKey?
  return { l with keyAllowed := false }

def directive? (l : Layout) : Option Layout := do
  let l ← l.topLevel?
  let (t, c) ← Yaml.directive? l.cursor
  return { l with cursor := c }.push t

def marker? (l : Layout) (t : Token) : Option Layout := do
  let l ← l.topLevel?
  return (l.push t).advance 3

def openFlow? (l : Layout) (t : Token) : Option Layout := do
  let l ← l.saveKey?
  return ({ l with key := none, outer := l.key :: l.outer, keyAllowed := true }.push t).advance 1

def closeFlow? (l : Layout) (t : Token) : Option Layout := do
  let l ← l.dropKey?
  let l := match l.outer with
    | k :: outer => { l with key := k, outer := outer }
    | [] => l
  return ({ l with keyAllowed := false }.push t).advance 1

def flowEntry? (l : Layout) : Option Layout := do
  let l ← l.dropKey?
  return ({ l with keyAllowed := true }.push .flowEntry).advance 1

def blockEntry? (l : Layout) : Option Layout := do
  if !l.flow ∧ !l.keyAllowed then none
  else
    let l ← (l.openBlockHere .blockListStart).dropKey?
    return ({ l with keyAllowed := true }.push .blockEntry).advance 1

def explicitKey? (l : Layout) : Option Layout := do
  if !l.flow ∧ !l.keyAllowed then none
  else
    let l ← (l.openBlockHere .blockMappingStart).dropKey?
    return ({ l with keyAllowed := !l.flow }.push .key).advance 1

def value? (l : Layout) : Option Layout :=
  match l.key with
  | some k =>
    let l := (l.insert k.place .key).openBlock k.column k.place .blockMappingStart
    some (({ l with key := none, keyAllowed := false }.push .value).advance 1)
  | none =>
    if !l.flow ∧ !l.keyAllowed then none
    else
      let l := l.openBlockHere .blockMappingStart
      some (({ l with keyAllowed := !l.flow }.push .value).advance 1)

def node? (l : Layout) (read : Cursor → Option (Token × Cursor)) : Option Layout := do
  let l ← l.saveKey?
  let (t, c) ← read l.cursor
  return { l with keyAllowed := false, cursor := c }.push t

def quoted? (l : Layout) (style : Style) : Option Layout :=
  l.node? fun c => (Yaml.quoted? style c).map fun (text, c) =>
    (.scalar (String.ofList text) style, c)

def plain? (l : Layout) : Option Layout := do
  let l ← l.saveKey?
  let (text, broken, c) ← Yaml.plain? l.flow l.margin l.cursor
  return { l with keyAllowed := broken, cursor := c }.push (.scalar (String.ofList text) .plain)

def block? (l : Layout) (style : Style) : Option Layout := do
  let l ← l.dropKey?
  let (text, c) ← Yaml.block? style l.margin l.cursor
  return { l with keyAllowed := true, cursor := c }.push (.scalar (String.ofList text) style)

def nonPlain : List Char :=
  "-?:,[]\x7b\x7d#&*!|>'\"%@\x60".toList

def plainBegins (l : Layout) (ch : Char) : Bool :=
  (ch ∉ nonPlain && !isSpace ch) || (ch = '-' && !(l.cursor.rest[1]?).any isBlank) ||
    (!l.flow && (ch = '?' || ch = ':') && !l.cursor.spaceAfter 1)

def token? (l : Layout) (ch : Char) : Option Layout :=
  let alone := l.cursor.spaceAfter 1
  if ch = '%' ∧ l.cursor.column = 0 then l.directive?
  else if l.cursor.atMarker '-' then l.marker? .documentStart
  else if l.cursor.atMarker '.' then l.marker? .documentEnd
  else if ch = '[' then l.openFlow? .flowListStart
  else if ch = '\x7b' then l.openFlow? .flowMappingStart
  else if ch = ']' then l.closeFlow? .flowListEnd
  else if ch = '\x7d' then l.closeFlow? .flowMappingEnd
  else if ch = ',' then l.flowEntry?
  else if ch = '-' ∧ alone then l.blockEntry?
  else if ch = '?' ∧ (l.flow ∨ alone) then l.explicitKey?
  else if ch = ':' ∧ (l.flow ∨ alone) then l.value?
  else if ch = '*' then l.node? fun c => (anchorName? c).map fun (name, c) => (.alias name, c)
  else if ch = '&' then l.node? fun c => (anchorName? c).map fun (name, c) => (.anchor name, c)
  else if ch = '!' then l.node? (tagToken? l.flow)
  else if ch = '|' ∧ !l.flow then l.block? .literal
  else if ch = '>' ∧ !l.flow then l.block? .folded
  else if ch = '\'' then l.quoted? .singleQuoted
  else if ch = '"' then l.quoted? .doubleQuoted
  else if l.plainBegins ch then l.plain?
  else none

def read? : Nat → Layout → Option Layout
  | 0, _ => none
  | fuel + 1, l => do
    let l ← (l.skipSpace (l.cursor.rest.length + 1)).refreshKeys?
    let l := l.closeBlocks (l.cursor.column + 1)
    match l.cursor.peek with
    | none => (l.closeBlocks 0).dropKey?
    | some ch =>
      let l ← l.token? ch
      read? fuel l

end Layout

def Token.ofText? (text : List Char) : Option (List Token) := do
  if text.all isAllowed then
    let l ← Layout.read? (text.length + 1) (.start text)
    return l.tokens.reverse
  else none

end PaletteSnap.Yaml
