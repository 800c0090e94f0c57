import PaletteSnap.Codec.Bits

namespace PaletteSnap

inductive Huffman where
  | absent
  | leaf (symbol : Nat)
  | node (zero one : Huffman)
deriving Repr

namespace Huffman

def insert (symbol : Nat) : List Bool → Huffman → Huffman
  | [], _ => .leaf symbol
  | false :: path, .node zero one => .node (insert symbol path zero) one
  | true :: path, .node zero one => .node zero (insert symbol path one)
  | false :: path, _ => .node (insert symbol path .absent) .absent
  | true :: path, _ => .node .absent (insert symbol path .absent)

def decode? : Huffman → Bits → Option (Nat × Bits)
  | .absent, _ => none
  | .leaf symbol, b => some (symbol, b)
  | .node zero one, b =>
    match b.next? with
    | none => none
    | some (false, b) => zero.decode? b
    | some (true, b) => one.decode? b

def path (length code : Nat) : List Bool :=
  (List.range length).reverse.map code.testBit

def maxLength : Nat := 15

def insertLevel (lengths : List Nat) (length : Nat) (state : Nat × Huffman) : Nat × Huffman :=
  lengths.zipIdx.foldl
    (fun (code, tree) (l, symbol) =>
      if l = length then (code + 1, tree.insert symbol (path length code)) else (code, tree))
    (2 * state.1, state.2)

-- Shorter codes come first, and codes of one length follow the order of their symbols.
def ofLengths (lengths : List Nat) : Huffman :=
  ((List.range maxLength).foldl (fun state l => insertLevel lengths (l + 1) state)
    (0, .absent)).2

def space (lengths : List Nat) : Nat :=
  (lengths.map fun l => if l = 0 then 0 else Nat.pow 2 (maxLength - l)).foldl (· + ·) 0

def complete (lengths : List Nat) : Bool :=
  space lengths = Nat.pow 2 maxLength

def ofComplete? (lengths : List Nat) : Option Huffman :=
  if complete lengths then some (ofLengths lengths) else none

def ofSparse? (lengths : List Nat) : Option Huffman :=
  let used := lengths.filter (· ≠ 0)
  if complete lengths ∨ used = [] ∨ used = [1] then some (ofLengths lengths) else none

end Huffman

end PaletteSnap
