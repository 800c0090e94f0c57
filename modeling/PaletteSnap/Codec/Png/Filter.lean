import PaletteSnap.Codec.Bytes

namespace PaletteSnap.Png

inductive Filter where
  | none | left | above | average | paeth
deriving DecidableEq, Repr

namespace Filter

def ofByte? (b : UInt8) : Option Filter :=
  match b.toNat with
  | 0 => some .none
  | 1 => some .left
  | 2 => some .above
  | 3 => some .average
  | 4 => some .paeth
  | _ => Option.none

def distance (a b : Int) : Nat :=
  (a - b).natAbs

def nearest (left above corner : UInt8) : UInt8 :=
  let estimate : Int := left.toNat + above.toNat - corner.toNat
  let toLeft := distance estimate left.toNat
  let toAbove := distance estimate above.toNat
  let toCorner := distance estimate corner.toNat
  if toLeft ≤ toAbove ∧ toLeft ≤ toCorner then left
  else if toAbove ≤ toCorner then above
  else corner

def predict (f : Filter) (left above corner : UInt8) : UInt8 :=
  match f with
  | .none => 0
  | .left => left
  | .above => above
  | .average => UInt8.ofNat ((left.toNat + above.toNat) / 2)
  | .paeth => nearest left above corner

def restoreFrom (f : Filter) : (lefts corners prior stored : Bytes) → Bytes
  | _, _, _, [] => []
  | a :: lefts, c :: corners, prior, byte :: rest =>
    let b := prior.headD 0
    let value := byte + f.predict a b c
    value :: f.restoreFrom (lefts ++ [value]) (corners ++ [b]) prior.tail rest
  | _, _, _, _ => []

def restore (f : Filter) (stride : Nat) (prior stored : Bytes) : Bytes :=
  f.restoreFrom (List.replicate stride 0) (List.replicate stride 0) prior stored

end Filter

def restoreRows (stride rowBytes : Nat) :
    Nat → (prior data : Bytes) → Option (List Bytes × Bytes)
  | 0, _, data => some ([], data)
  | n + 1, prior, data => do
    match data with
    | [] => none
    | tag :: data =>
      let f ← Filter.ofByte? tag
      let (stored, data) ← Bytes.take? rowBytes data
      let row := f.restore stride prior stored
      let (rows, data) ← restoreRows stride rowBytes n row data
      return (row :: rows, data)

def plainRows (rows : List Bytes) : Bytes :=
  rows.flatMap (0 :: ·)

end PaletteSnap.Png
