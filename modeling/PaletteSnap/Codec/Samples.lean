import PaletteSnap.Codec.Bytes

namespace PaletteSnap.Samples

def split (depth : Nat) (b : UInt8) : List Nat :=
  (List.range (8 / depth)).map fun i => b.toNat / Nat.pow 2 (8 - depth * (i + 1)) % Nat.pow 2 depth

def unpack (depth : Nat) : Bytes → List Nat
  | [] => []
  | [b] => if depth = 16 then [] else split depth b
  | high :: low :: rest =>
    if depth = 16 then (256 * high.toNat + low.toNat) :: unpack depth rest
    else split depth high ++ unpack depth (low :: rest)

def gather (depth : Nat) (samples : List Nat) : UInt8 :=
  UInt8.ofNat
    ((samples.zipIdx.map fun (s, i) => s * Nat.pow 2 (8 - depth * (i + 1))).foldl (· + ·) 0)

def packSmall (depth : Nat) : Nat → List Nat → Bytes
  | 0, _ => []
  | _, [] => []
  | fuel + 1, samples =>
    gather depth (samples.take (8 / depth)) :: packSmall depth fuel (samples.drop (8 / depth))

def pack (depth : Nat) (samples : List Nat) : Bytes :=
  if depth = 16 then samples.flatMap (Bytes.ofBig 2) else packSmall depth samples.length samples

def grouped {α : Type} (size : Nat) : Nat → List α → List (List α)
  | 0, _ => []
  | n + 1, items => items.take size :: grouped size n (items.drop size)

theorem flatten_grouped {α : Type} (size n : Nat) {items : List α}
    (h : items.length = n * size) : (grouped size n items).flatten = items := by
  induction n generalizing items with
  | zero => simp_all [grouped]
  | succ n ih =>
    have rest : (items.drop size).length = n * size := by
      rw [List.length_drop, h, Nat.succ_mul, Nat.add_sub_cancel]
    rw [grouped, List.flatten_cons, ih rest, List.take_append_drop]

end PaletteSnap.Samples
