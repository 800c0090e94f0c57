import PaletteSnap.Codec.Lzw
import PaletteSnap.Codec.Pixmap
import PaletteSnap.Codec.Samples
import PaletteSnap.Palette

namespace PaletteSnap.Gif

def afterParts : Nat → Bytes → Bytes
  | 0, bytes => bytes
  | _ + 1, [] => []
  | fuel + 1, size :: rest =>
    if size = 0 then rest else afterParts fuel (rest.drop size.toNat)

def colorTable? (flags : UInt8) (bytes : Bytes) : Option (Option (Array Color) × Bytes) :=
  if flags < 128 then some (none, bytes)
  else
    match Bytes.take? (3 * Nat.pow 2 (flags.toNat % 8 + 1)) bytes with
    | some (table, rest) => some (some (Color.ofChannels table).toArray, rest)
    | none => none

structure Frame where
  left : Nat
  top : Nat
  width : Nat
  height : Nat
  pixels : Array Color

def interlacedRows (height : Nat) : List Nat :=
  let every (step first : Nat) := (List.range height).filter fun y => y % step = first
  every 8 0 ++ every 8 4 ++ every 4 2 ++ every 2 1

def storedRow (interlaced : Bool) (height y : Nat) : Nat :=
  if interlaced then (interlacedRows height).idxOf y else y

def indexColor (palette : Array Color) (i : UInt8) : Color :=
  palette[i.toNat]?.getD Palette.black

structure Data where
  part : Bytes
  rest : Bytes

def Data.start? : Bytes → Option Data
  | [] => none
  | size :: rest => some ⟨rest.take size.toNat, rest.drop size.toNat⟩

-- A part with which the decoder can do nothing is given up.
def fill? : Nat → Nat → Lzw.Decoder → Data → Option (List UInt8 × Lzw.Decoder × Data)
  | 0, _, _, _ => none
  | fuel + 1, room, decoder, data =>
    match data.part, data.rest with
    | [], [] => none
    | [], size :: rest =>
      if size ≠ 0 then fill? fuel room decoder ⟨rest.take size.toNat, rest.drop size.toNat⟩
      else do
        let r ← decoder.read? room []
        if r.output.size = 0 then none
        else if r.output.size = room then return (r.output.toList, r.decoder, data)
        else
          let (more, decoder, data) ← fill? fuel (room - r.output.size) r.decoder data
          return (r.output.toList ++ more, decoder, data)
    | part, rest => do
      let r ← decoder.read? room part
      let stuck := r.output.size = 0 ∧ r.rest.length = part.length
      let data : Data := ⟨if stuck then [] else r.rest, rest⟩
      if r.output.size = room then return (r.output.toList, r.decoder, data)
      else
        let (more, decoder, data) ← fill? fuel (room - r.output.size) r.decoder data
        return (r.output.toList ++ more, decoder, data)

def fillAll? : List Nat → Lzw.Decoder → Data → Option (List UInt8)
  | [], _, _ => some []
  | room :: rooms, decoder, data =>
    if room = 0 then none
    else do
      let fuel := room + data.part.length + data.rest.length + 1
      let (indices, decoder, data) ← fill? fuel room decoder data
      let more ← fillAll? rooms decoder data
      return indices ++ more

def isSymbolSize (bits : UInt8) : Bool :=
  1 ≤ bits && bits ≤ 11

def frame? (shared : Option (Array Color)) (bytes : Bytes) : Option Frame := do
  let (place, bytes) ← Bytes.take? 8 bytes
  match bytes with
  | [] => none
  | flags :: bytes =>
    let number (i : Nat) : Nat := Bytes.little ((place.drop (2 * i)).take 2)
    let width := number 2
    let height := number 3
    let interlaced := flags.toNat.testBit 6
    let (own, bytes) ← colorTable? flags bytes
    let palette ← own.or shared
    match bytes with
    | [] => none
    | symbolBits :: bytes =>
      if !isSymbolSize symbolBits then none
      else
        let data ← Data.start? bytes
        let rooms := if interlaced then List.replicate height width else [width * height]
        let indices ← fillAll? rooms (.start symbolBits.toNat) data
        let stored := (Samples.grouped width height indices).toArray
        let row (y : Nat) : List Color :=
          (stored[storedRow interlaced height y]?.getD []).map (indexColor palette)
        return ⟨number 0, number 1, width, height, ((List.range height).flatMap row).toArray⟩

def isExtension (label size : UInt8) : Bool :=
  label = 0x01 || (label = 0xF9 && size = 4) || label = 0xFE || label = 0xFF

def firstFrame? (shared : Option (Array Color)) : Nat → Bytes → Option Frame
  | 0, _ => none
  | fuel + 1, bytes =>
    match bytes with
    | 0x21 :: label :: size :: rest =>
      if isExtension label size then
        firstFrame? shared fuel (afterParts rest.length (rest.drop size.toNat))
      else none
    | 0x2C :: rest => frame? shared rest
    | _ => none

def screenColor (f : Frame) (x y : Nat) : Color :=
  if f.left ≤ x ∧ x < f.left + f.width ∧ f.top ≤ y ∧ y < f.top + f.height then
    f.pixels[(y - f.top) * f.width + (x - f.left)]?.getD Palette.black
  else Palette.black

def decode? (limit : Option Nat) (bytes : Bytes) : Option Pixmap := do
  let (start, bytes) ← Bytes.take? 10 bytes
  match bytes with
  | flags :: _ :: _ :: bytes =>
    let width := Bytes.little ((start.drop 6).take 2)
    let height := Bytes.little ((start.drop 8).take 2)
    let (shared, bytes) ← colorTable? flags bytes
    if !Pixmap.affordable limit 4 width height then none
    let f ← firstFrame? shared (bytes.length + 1) bytes
    Pixmap.ofPixels? width height
      ((List.range height).flatMap fun y => (List.range width).map fun x => screenColor f x y)
  | _ => none

def signatures : List Bytes :=
  [[0x47, 0x49, 0x46, 0x38, 0x37, 0x61], [0x47, 0x49, 0x46, 0x38, 0x39, 0x61]]

end PaletteSnap.Gif
