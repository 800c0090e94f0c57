import PaletteSnap.Yaml.Layout

namespace PaletteSnap.Yaml

structure Scalar where
  text : String
  style : Style
  tag : Option TagText
deriving DecidableEq, Repr

inductive Node where
  | scalar (s : Scalar)
  | alias (number : Nat)
  | list (items : List Node)
  | mapping (pairs : List (Node × Node))

def Node.empty (tag : Option TagText) : Node :=
  .scalar ⟨"", .plain, tag⟩

inductive Target where
  | scalar (s : Scalar)
  | collection
deriving DecidableEq, Repr

-- A name given again gets a number that the next new name takes over, and of one number the latest
-- target counts.
structure Anchors where
  numbers : List (String × Nat)
  targets : List (Nat × Target)

namespace Anchors

def empty : Anchors :=
  ⟨[], []⟩

def number? (a : Anchors) (name : String) : Option Nat :=
  a.numbers.lookup name

def target? (a : Anchors) (number : Nat) : Option Target :=
  a.targets.lookup number

def add (a : Anchors) (name : String) (t : Target) : Anchors :=
  let n := a.numbers.length
  ⟨(name, n) :: a.numbers.filter (·.1 ≠ name), (n, t) :: a.targets⟩

end Anchors

def standardHandles : List (String × TagText) :=
  [("!", asciiBytes ['!']), ("!!", asciiBytes "tag:yaml.org,2002:".toList)]

structure Reading where
  tokens : List Token
  handles : List (String × TagText)
  anchors : Anchors

abbrev Read := StateT Reading Option

namespace Read

def fail {α : Type} : Read α :=
  fun _ => none

def peek : Read (Option Token) := do
  return (← get).tokens.head?

def skip : Read Unit :=
  modify fun r => { r with tokens := r.tokens.tail }

def expect (t : Token) : Read Unit := do
  if (← peek) = some t then skip else fail

def skipIf (t : Token) : Read Bool := do
  if (← peek) = some t then
    skip
    return true
  else return false

def next (ts : List Token) : Read Bool := do
  return (← peek).any (· ∈ ts)

def resolve (handle : String) (rest : TagText) : Read TagText := do
  if handle = "" then return rest
  else
    match (← get).handles.lookup handle with
    | some start => return start ++ rest
    | none => fail

structure Properties where
  anchor : Option String
  tag : Option TagText

def Properties.none : Properties :=
  ⟨.none, .none⟩

def properties : Nat → Properties → Read Properties
  | 0, p => return p
  | fuel + 1, p => do
    match ← peek with
    | some (.anchor name) =>
      if p.anchor.isSome then return p
      else
        skip
        properties fuel { p with anchor := some name }
    | some (.tag handle rest) =>
      if p.tag.isSome then return p
      else
        skip
        properties fuel { p with tag := some (← resolve handle rest) }
    | _ => return p

def mark (p : Properties) (t : Target) : Read Unit :=
  match p.anchor with
  | some name => modify fun r => { r with anchors := r.anchors.add name t }
  | .none => return ()

-- A single exclamation mark says nothing about a scalar.
def scalarTag (tag : Option TagText) : Option TagText :=
  if tag = some (asciiBytes ['!']) then none else tag

def scalar (p : Properties) (text : String) (style : Style) : Read Node := do
  let s : Scalar := ⟨text, style, scalarTag p.tag⟩
  mark p (.scalar s)
  return .scalar s

inductive Place where
  | flow | block | mappingValue
deriving DecidableEq, Repr

mutual

def node : Nat → Place → Read Node
  | 0, _ => fail
  | fuel + 1, place => do
    if let some (.alias name) ← peek then
      skip
      match (← get).anchors.number? name with
      | some n => return .alias n
      | none => fail
    else
      let p ← properties 2 .none
      match ← peek, place with
      | some .blockEntry, .mappingValue =>
        mark p .collection
        return .list (← looseItems fuel)
      | some (.scalar text style), _ =>
        skip
        scalar p text style
      | some .flowListStart, _ =>
        skip
        mark p .collection
        return .list (← flowItems fuel true)
      | some .flowMappingStart, _ =>
        skip
        mark p .collection
        return .mapping (← flowPairs fuel true)
      | some .blockListStart, .block | some .blockListStart, .mappingValue =>
        skip
        mark p .collection
        return .list (← blockItems fuel)
      | some .blockMappingStart, .block | some .blockMappingStart, .mappingValue =>
        skip
        mark p .collection
        return .mapping (← blockPairs fuel)
      | _, _ => if p.anchor.isSome ∨ p.tag.isSome then scalar p "" .plain else fail

def nodeUnless : Nat → Place → List Token → Read Node
  | 0, _, _ => fail
  | fuel + 1, place, ends => do
    if ← next ends then return .empty none else node fuel place

def blockItems : Nat → Read (List Node)
  | 0 => fail
  | fuel + 1 => do
    if ← skipIf .blockEnd then return []
    else
      expect .blockEntry
      let item ← nodeUnless fuel .block [.blockEntry, .blockEnd]
      return item :: (← blockItems fuel)

def looseItems : Nat → Read (List Node)
  | 0 => fail
  | fuel + 1 => do
    if ← skipIf .blockEntry then
      let item ← nodeUnless fuel .block [.blockEntry, .key, .value, .blockEnd]
      return item :: (← looseItems fuel)
    else return []

def blockPairs : Nat → Read (List (Node × Node))
  | 0 => fail
  | fuel + 1 => do
    if ← skipIf .blockEnd then return []
    else
      expect .key
      let ends := [Token.key, .value, .blockEnd]
      let k ← nodeUnless fuel .mappingValue ends
      let v ←
        if ← skipIf .value then nodeUnless fuel .mappingValue ends else pure (Node.empty none)
      return (k, v) :: (← blockPairs fuel)

def flowItems : Nat → Bool → Read (List Node)
  | 0, _ => fail
  | fuel + 1, first => do
    if ← skipIf .flowListEnd then return []
    else
      if !first then expect .flowEntry
      if ← skipIf .key then
        let pair ← singlePair fuel
        return .mapping [pair] :: (← flowItems fuel false)
      else if ← skipIf .flowListEnd then return []
      else
        let item ← node fuel .flow
        return item :: (← flowItems fuel false)

-- The token that shows that the key is empty is used up.
def singlePair : Nat → Read (Node × Node)
  | 0 => fail
  | fuel + 1 => do
    let k ←
      if ← next [.value, .flowEntry, .flowListEnd] then
        skip
        pure (Node.empty none)
      else node fuel .flow
    let v ←
      if ← skipIf .value then nodeUnless fuel .flow [.flowEntry, .flowListEnd]
      else pure (Node.empty none)
    return (k, v)

def flowPairs : Nat → Bool → Read (List (Node × Node))
  | 0, _ => fail
  | fuel + 1, first => do
    if ← skipIf .flowMappingEnd then return []
    else
      if !first then expect .flowEntry
      let ends := [Token.flowEntry, .flowMappingEnd]
      if ← skipIf .key then
        let k ← nodeUnless fuel .flow (.value :: ends)
        let v ← if ← skipIf .value then nodeUnless fuel .flow ends else pure (Node.empty none)
        return (k, v) :: (← flowPairs fuel false)
      else if ← skipIf .flowMappingEnd then return []
      else
        let k ← node fuel .flow
        return (k, .empty none) :: (← flowPairs fuel false)

end

end Read

end PaletteSnap.Yaml
