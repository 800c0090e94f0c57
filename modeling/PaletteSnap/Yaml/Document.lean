import PaletteSnap.Yaml.Node

namespace PaletteSnap.Yaml

structure Document where
  root : Node
  anchors : Anchors

namespace Document

def directives : Nat → Bool → List (String × TagText) → Read (List (String × TagText))
  | 0, _, _ => Read.fail
  | fuel + 1, versioned, handles => do
    match ← Read.peek with
    | some (.version major minor) =>
      if versioned ∨ major ≠ 1 ∨ (minor ≠ 1 ∧ minor ≠ 2) then Read.fail
      else
        Read.skip
        directives fuel true handles
    | some (.tagHandle handle start) =>
      if handles.any (·.1 = handle) then Read.fail
      else
        Read.skip
        directives fuel versioned (handles ++ [(handle, start)])
    | _ => return handles

def markedRoot (fuel : Nat) : Read Node := do
  let handles ← directives fuel false []
  modify fun r => { r with handles := handles ++ standardHandles }
  Read.expect .documentStart
  match ← Read.peek with
  | none | some (.version _ _) | some (.tagHandle _ _) | some .documentStart
  | some .documentEnd => return .empty none
  | _ => Read.node fuel .block

def readRoot (fuel : Nat) : Read Node := do
  match ← Read.peek with
  | none => return .empty none
  | some (.version _ _) | some (.tagHandle _ _) | some .documentStart => markedRoot fuel
  | _ => Read.node fuel .block

def ofTokens? (tokens : List Token) : Option Document := do
  let (node, rest) ← (readRoot (3 * tokens.length + 10)).run ⟨tokens, standardHandles, .empty⟩
  if rest.tokens.all (· = .documentEnd) then return ⟨node, rest.anchors⟩ else none

def ofText? (text : String) : Option Document := do
  ofTokens? (← Token.ofText? text.toList)

def scalar? (d : Document) : Node → Option Scalar
  | .scalar s => some s
  | .alias n =>
    match d.anchors.target? n with
    | some (.scalar s) => some s
    | _ => none
  | _ => none

end Document

end PaletteSnap.Yaml
