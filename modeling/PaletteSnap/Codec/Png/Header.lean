import PaletteSnap.Codec.Bytes

namespace PaletteSnap.Png

inductive Layout where
  | gray | rgb | indexed | grayAlpha | rgba
deriving DecidableEq, Repr

namespace Layout

def code : Layout → Nat
  | gray => 0
  | rgb => 2
  | indexed => 3
  | grayAlpha => 4
  | rgba => 6

def ofCode? : Nat → Option Layout
  | 0 => some gray
  | 2 => some rgb
  | 3 => some indexed
  | 4 => some grayAlpha
  | 6 => some rgba
  | _ => none

theorem ofCode?_code (l : Layout) : ofCode? l.code = some l := by
  cases l <;> rfl

def samples : Layout → Nat
  | gray => 1
  | rgb => 3
  | indexed => 1
  | grayAlpha => 2
  | rgba => 4

def depths : Layout → List Nat
  | gray => [1, 2, 4, 8, 16]
  | indexed => [1, 2, 4, 8]
  | _ => [8, 16]

end Layout

structure Header where
  width : Nat
  height : Nat
  layout : Layout
  depth : Nat
  interlaced : Bool
deriving DecidableEq, Repr

namespace Header

def pixelBits (h : Header) : Nat :=
  h.layout.samples * h.depth

def rowBytes (h : Header) (width : Nat) : Nat :=
  (width * h.pixelBits + 7) / 8

def stride (h : Header) : Nat :=
  max 1 (h.pixelBits / 8)

def ofBytes? (bytes : Bytes) : Option Header := do
  let (width, bytes) ← Bytes.take? 4 bytes
  let (height, bytes) ← Bytes.take? 4 bytes
  match bytes with
  | [depth, layout, compression, filter, interlace] =>
    let layout ← Layout.ofCode? layout.toNat
    let h : Header :=
      ⟨Bytes.big width, Bytes.big height, layout, depth.toNat, interlace = 1⟩
    if 0 < h.width ∧ 0 < h.height ∧ h.depth ∈ layout.depths ∧ compression = 0 ∧ filter = 0 ∧
        interlace ≤ 1 then
      some h
    else none
  | _ => none

def toBytes (h : Header) : Bytes :=
  Bytes.ofBig 4 h.width ++ Bytes.ofBig 4 h.height ++
    [UInt8.ofNat h.depth, UInt8.ofNat h.layout.code, 0, 0, if h.interlaced then 1 else 0]

end Header

end PaletteSnap.Png
