namespace PaletteSnap

abbrev Bytes := List UInt8

namespace Bytes

def take? : Nat → Bytes → Option (Bytes × Bytes)
  | 0, rest => some ([], rest)
  | _ + 1, [] => none
  | n + 1, b :: rest =>
    match take? n rest with
    | some (front, rest) => some (b :: front, rest)
    | none => none

theorem take?_append (front rest : Bytes) :
    take? front.length (front ++ rest) = some (front, rest) := by
  induction front with
  | nil => cases rest <;> rfl
  | cons b front ih => simp [take?, ih]

def big (bytes : Bytes) : Nat :=
  bytes.foldl (fun n b => 256 * n + b.toNat) 0

def little : Bytes → Nat
  | [] => 0
  | b :: rest => b.toNat + 256 * little rest

def ofLittle : Nat → Nat → Bytes
  | 0, _ => []
  | width + 1, n => UInt8.ofNat n :: ofLittle width (n / 256)

def ofBig (width n : Nat) : Bytes :=
  (ofLittle width n).reverse

theorem length_ofLittle (width n : Nat) : (ofLittle width n).length = width := by
  induction width generalizing n with
  | zero => rfl
  | succ width ih => simp [ofLittle, ih]

theorem little_ofLittle (width n : Nat) : little (ofLittle width n) = n % Nat.pow 256 width := by
  rw [Nat.pow_eq]
  induction width generalizing n with
  | zero => simp [ofLittle, little, Nat.mod_one]
  | succ width ih =>
    have low : (UInt8.ofNat n).toNat = n % 256 := by simp
    rw [ofLittle, little, ih, low, Nat.pow_succ, Nat.mul_comm (256 ^ width) 256, Nat.mod_mul]

def littleAt? (bytes : Bytes) (place width : Nat) : Option Nat :=
  (take? width (bytes.drop place)).map fun (front, _) => little front

def chunks (n : Nat) (bytes : Bytes) : List Bytes :=
  if bytes = [] then [] else bytes.take (n + 1) :: chunks n (bytes.drop (n + 1))
termination_by bytes.length
decreasing_by
  rename_i h
  have := List.length_pos_iff.mpr h
  simp only [List.length_drop]
  omega

theorem flatten_chunks (n : Nat) (bytes : Bytes) : (chunks n bytes).flatten = bytes := by
  fun_induction chunks n bytes with
  | case1 => simp
  | case2 bytes h ih => simp [ih]

theorem length_le_of_mem_chunks {n : Nat} {bytes piece : Bytes} (h : piece ∈ chunks n bytes) :
    piece.length ≤ n + 1 := by
  fun_induction chunks n bytes with
  | case1 => simp at h
  | case2 bytes _ ih =>
    rcases List.mem_cons.mp h with rfl | h
    · simp only [List.length_take]; omega
    · exact ih h

end Bytes

end PaletteSnap
