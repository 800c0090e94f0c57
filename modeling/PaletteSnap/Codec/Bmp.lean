import PaletteSnap.Codec.Pixmap
import PaletteSnap.Codec.Samples
import PaletteSnap.Palette

namespace PaletteSnap.Bmp

structure Mask where
  shift : Nat
  bits : Nat
deriving DecidableEq, Repr

namespace Mask

def zerosBelow (n : Nat) : Nat :=
  ((List.range 32).find? n.testBit).getD 32

def ofWord? (wordBits mask : Nat) : Option Mask :=
  let shift := zerosBelow mask
  let bits := ((List.range 33).find? fun i => !mask.testBit (shift + i)).getD 0
  if bits = 0 ∨ mask ≠ (Nat.pow 2 bits - 1) * Nat.pow 2 shift ∨ wordBits < shift + bits then none
  else if 8 < bits then some ⟨shift + bits - 8, 8⟩
  else some ⟨shift, bits⟩

def read (m : Mask) (word : Nat) : UInt8 :=
  let value := word / Nat.pow 2 m.shift % Nat.pow 2 m.bits
  let full := Nat.pow 2 m.bits - 1
  UInt8.ofNat ((2 * 255 * value + full) / (2 * full))

end Mask

inductive Coding where
  | indexed (bits : Nat)
  | runs (bits : Nat)
  | masked (bytes : Nat) (red green blue : Mask)
  | plain (bytes : Nat)
deriving DecidableEq, Repr

structure Header where
  width : Nat
  height : Nat
  topDown : Bool
  coding : Coding
  colorsUsed : Nat
  colorBytes : Nat
  size : Nat
  dataStart : Nat
deriving DecidableEq, Repr

def maxSide : Nat := 0xFFFF

def signed (n : Nat) : Int :=
  if n < 0x80000000 then n else n - 0x100000000

def fiveBits : Coding :=
  .masked 2 ⟨10, 5⟩ ⟨5, 5⟩ ⟨0, 5⟩

def maskedCoding? (bytes : Bytes) (size wordBytes : Nat) : Option Coding := do
  let red ← Bytes.littleAt? bytes 54 4
  let green ← Bytes.littleAt? bytes 58 4
  let blue ← Bytes.littleAt? bytes 62 4
  let alpha ← if 56 ≤ size then Bytes.littleAt? bytes 66 4 else some 0
  let red ← Mask.ofWord? (8 * wordBytes) red
  let green ← Mask.ofWord? (8 * wordBytes) green
  let blue ← Mask.ofWord? (8 * wordBytes) blue
  if alpha = 0 ∨ (Mask.ofWord? (8 * wordBytes) alpha).isSome then
    some (.masked wordBytes red green blue)
  else none

def coding? (bytes : Bytes) (size depth compression : Nat) (topDown : Bool) : Option Coding :=
  if topDown ∧ compression ≠ 0 ∧ compression ≠ 3 then none
  else
    match compression, depth with
    | 0, 1 => some (.indexed 1)
    | 0, 2 => some (.indexed 2)
    | 0, 4 => some (.indexed 4)
    | 0, 8 => some (.indexed 8)
    | 0, 16 => some fiveBits
    | 0, 24 => some (.plain 3)
    | 0, 32 => some (.plain 4)
    | 1, 8 => some (.runs 8)
    | 2, 4 => some (.runs 4)
    | 3, 16 => maskedCoding? bytes size 2
    | 3, 32 => maskedCoding? bytes size 4
    | _, _ => none

def shortHeader? (bytes : Bytes) (dataStart : Nat) : Option Header := do
  let width ← Bytes.littleAt? bytes 18 2
  let height ← Bytes.littleAt? bytes 20 2
  let planes ← Bytes.littleAt? bytes 22 2
  let depth ← Bytes.littleAt? bytes 24 2
  let coding ← match depth with
    | 1 => some (Coding.indexed 1)
    | 4 => some (Coding.indexed 4)
    | 8 => some (Coding.indexed 8)
    | 24 => some (Coding.plain 3)
    | _ => none
  if planes = 1 then some ⟨width, height, false, coding, 0, 3, 12, dataStart⟩ else none

def longHeader? (bytes : Bytes) (size dataStart : Nat) : Option Header := do
  let width := signed (← Bytes.littleAt? bytes 18 4)
  let height := signed (← Bytes.littleAt? bytes 22 4)
  let planes ← Bytes.littleAt? bytes 26 2
  let depth ← Bytes.littleAt? bytes 28 2
  let compression ← Bytes.littleAt? bytes 30 4
  let colorsUsed ← Bytes.littleAt? bytes 46 4
  let _ ← Bytes.littleAt? bytes 50 4
  if width < 0 ∨ maxSide < width ∨ maxSide < height ∨ planes ≠ 1 then none
  else
    let topDown := decide (height < 0)
    let coding ← coding? bytes size depth compression topDown
    return ⟨width.toNat, height.natAbs, topDown, coding, colorsUsed, 4, size, dataStart⟩

def header? (limit : Option Nat) (bytes : Bytes) : Option Header := do
  let dataStart ← Bytes.littleAt? bytes 10 4
  let size ← Bytes.littleAt? bytes 14 4
  let h ←
    if size = 12 then shortHeader? bytes dataStart
    else if size ∈ [40, 52, 56, 108, 124] then longHeader? bytes size dataStart
    else none
  if h.width = 0 ∨ h.height = 0 ∨ !Pixmap.affordable limit 3 h.width h.height then none
  else some h

def palette? (bytes : Bytes) (h : Header) (depth : Nat) : Option (Array Color) := do
  let most := Nat.pow 2 depth
  let count := if h.colorsUsed = 0 then most else h.colorsUsed
  if most < count then none
  else
    let (stored, _) ← Bytes.take? (count * h.colorBytes) (bytes.drop (14 + h.size))
    let color (i : Nat) : Color :=
      match stored.drop (i * h.colorBytes) with
      | b :: g :: r :: _ => ⟨r, g, b⟩
      | _ => Palette.black
    return ((List.range 256).map color).toArray

def paletteColor (palette : Array Color) (i : Nat) : Color :=
  palette[i]?.getD Palette.black

def rows? (rowBytes : Nat) (pixels : Bytes → List Color) :
    Nat → Bytes → Option (List (List Color))
  | 0, _ => some []
  | n + 1, bytes => do
    let (row, bytes) ← Bytes.take? rowBytes bytes
    let rows ← rows? rowBytes pixels n bytes
    return pixels row :: rows

def padded (bits : Nat) : Nat :=
  (bits + 31) / 32 * 4

def plainPixels (size : Nat) : Nat → Bytes → List Color
  | 0, _ => []
  | n + 1, row =>
    let color : Color := match row with
      | b :: g :: r :: _ => ⟨r, g, b⟩
      | _ => Palette.black
    color :: plainPixels size n (row.drop size)

def maskedPixels (size : Nat) (red green blue : Mask) : Nat → Bytes → List Color
  | 0, _ => []
  | n + 1, row =>
    let word := Bytes.little (row.take size)
    ⟨red.read word, green.read word, blue.read word⟩ ::
      maskedPixels size red green blue n (row.drop size)

structure Canvas where
  finished : List (List Color)
  current : List Color
  surplus : Nat

namespace Canvas

def empty : Canvas :=
  ⟨[], [], 0⟩

def blank (n : Nat) : List Color :=
  List.replicate n Palette.black

def endRow (width : Nat) (c : Canvas) : Canvas :=
  ⟨(c.current.reverse ++ blank (width - c.current.length)) :: c.finished, [], 0⟩

def draw? (width : Nat) (pixels : List Color) (c : Canvas) : Option Canvas :=
  if c.current.length + pixels.length ≤ width then
    some { c with current := pixels.reverse ++ c.current }
  else none

def drawClipped (width : Nat) (pixels : List Color) (c : Canvas) : Canvas :=
  let room := width - c.current.length
  { c with
    current := (pixels.take room).reverse ++ c.current
    surplus := c.surplus + (pixels.length - room) }

def skipRows (width : Nat) : Nat → Canvas → Canvas
  | 0, c => c
  | n + 1, c => skipRows width n (c.endRow width)

def move? (width height columns rows : Nat) (c : Canvas) : Option Canvas :=
  if rows = 0 then c.draw? width (blank columns)
  else if height ≤ c.finished.length + rows then none
  else (c.skipRows width rows).draw? width (blank (c.current.length + c.surplus + columns))

end Canvas

def packedPixels (palette : Array Color) (bits count : Nat) (packed : Bytes) : List Color :=
  ((Samples.unpack bits packed).take count).map (paletteColor palette)

-- Only a run of whole bytes may go beyond the end of its row.
def drawRuns (palette : Array Color) (bits width height : Nat) :
    Nat → Bytes → Canvas → Option Canvas
  | 0, _, _ => none
  | fuel + 1, bytes, c =>
    if c.finished.length = height then some c
    else
      match bytes with
      | 0 :: 0 :: rest => drawRuns palette bits width height fuel rest (c.endRow width)
      | 0 :: 1 :: _ => some (c.skipRows width (height - c.finished.length))
      | 0 :: 2 :: columns :: rows :: rest => do
        let c ← c.move? width height columns.toNat rows.toNat
        drawRuns palette bits width height fuel rest c
      | 0 :: 2 :: _ => none
      | 0 :: count :: rest => do
        let used := (count.toNat * bits + 7) / 8
        let (packed, rest) ← Bytes.take? (used + used % 2) rest
        let c ← c.draw? width (packedPixels palette bits count.toNat packed)
        drawRuns palette bits width height fuel rest c
      | count :: packed :: rest => do
        let pixels := packedPixels palette bits count.toNat (List.replicate count.toNat packed)
        let c ← if bits = 8 then some (c.drawClipped width pixels) else c.draw? width pixels
        drawRuns palette bits width height fuel rest c
      | _ => none

def storedRows? (bytes : Bytes) (h : Header) : Option (List (List Color)) :=
  let data := bytes.drop h.dataStart
  match h.coding with
  | .indexed bits => do
    let palette ← palette? bytes h bits
    rows? (padded (bits * h.width)) (packedPixels palette bits h.width) h.height data
  | .runs bits => do
    let palette ← palette? bytes h bits
    let c ← drawRuns palette bits h.width h.height (data.length + 1) data .empty
    return c.finished.reverse
  | .masked size red green blue =>
    rows? (padded (8 * size * h.width)) (maskedPixels size red green blue h.width) h.height data
  | .plain size => rows? (padded (8 * size * h.width)) (plainPixels size h.width) h.height data

def signature : Bytes :=
  [0x42, 0x4D]

def decode? (limit : Option Nat) (bytes : Bytes) : Option Pixmap := do
  let h ← header? limit bytes
  let rows ← storedRows? bytes h
  Pixmap.ofPixels? h.width h.height (if h.topDown then rows.flatten else rows.reverse.flatten)

end PaletteSnap.Bmp
