import PaletteSnap.Codec.Bytes

namespace PaletteSnap

structure Bits where
  held : Nat
  count : Nat
  rest : Bytes
deriving DecidableEq, Repr

namespace Bits

def ofBytes (bytes : Bytes) : Bits :=
  ⟨0, 0, bytes⟩

def size (b : Bits) : Nat :=
  b.count + 8 * b.rest.length

def holds (n : Nat) (b : Bits) : Bool :=
  n ≤ b.count + 8 * (b.rest.take (n / 8 + 1)).length

def next? (b : Bits) : Option (Bool × Bits) :=
  match b.count, b.rest with
  | n + 1, rest => some (b.held % 2 = 1, ⟨b.held / 2, n, rest⟩)
  | 0, [] => none
  | 0, byte :: rest => some (byte.toNat % 2 = 1, ⟨byte.toNat / 2, 7, rest⟩)

def number? : Nat → Bits → Option (Nat × Bits)
  | 0, b => some (0, b)
  | n + 1, b =>
    match b.next? with
    | none => none
    | some (bit, b) =>
      match number? n b with
      | none => none
      | some (high, b) => some (bit.toNat + 2 * high, b)

def align (b : Bits) : Bytes :=
  b.rest

theorem holds_iff (n : Nat) (b : Bits) : b.holds n ↔ n ≤ b.size := by
  simp only [holds, size, List.length_take, decide_eq_true_eq]
  omega

end Bits

end PaletteSnap
