import PaletteSnap.Codec.Pixmap
import PaletteSnap.Codec.Samples
import PaletteSnap.Codec.Scaling
import PaletteSnap.Text.Blank
import PaletteSnap.Text.Number
import PaletteSnap.Text.Utf8

namespace PaletteSnap.Anymap

def isBlank (b : UInt8) : Bool :=
  b = 0x20 ∨ (0x09 ≤ b ∧ b ≤ 0x0D)

def hash : UInt8 := 0x23

def isLineEnd (b : UInt8) : Bool :=
  b = 0x0A ∨ b = 0x0D

-- A comment lasts from `#` to the end of the line, also inside a word.
def headerWord? (comment : Bool) (word : Bytes) : Bytes → Option (Bytes × Bytes)
  | [] => if word = [] then none else some (word.reverse, [])
  | b :: rest =>
    if comment then headerWord? (!isLineEnd b) word rest
    else if b = hash then headerWord? true word rest
    else if isBlank b then
      if word = [] then headerWord? false [] rest else some (word.reverse, rest)
    else if 0x80 ≤ b then none
    else headerWord? false (b :: word) rest

def chars (bytes : Bytes) : List Char :=
  bytes.map fun b => Char.ofNat b.toNat

def number? (limit : Nat) (word : Bytes) : Option Nat := do
  let n ← Text.digits? 10 (chars word)
  if n ≤ limit then some n else none

def headerNumber? (bytes : Bytes) : Option (Nat × Bytes) := do
  let (word, rest) ← headerWord? false [] bytes
  let n ← number? Text.maxWord word
  return (n, rest)

inductive Pixel where
  | gray | grayAlpha | rgb | rgba
deriving DecidableEq, Repr

def Pixel.samples : Pixel → Nat
  | .gray => 1
  | .grayAlpha => 2
  | .rgb => 3
  | .rgba => 4

inductive Sampling where
  | textBits
  | packedBits
  | text (limit : Nat)
  | bytes (width : Nat)
  | zeroOne
deriving DecidableEq, Repr

structure Header where
  width : Nat
  height : Nat
  maxval : Nat
  pixel : Pixel
  sampling : Sampling
deriving DecidableEq, Repr

namespace Header

def count (h : Header) : Nat :=
  h.width * h.height * h.pixel.samples

def fullScale (h : Header) : Nat :=
  match h.sampling with
  | .text limit => limit
  | .bytes width => Nat.pow 256 width - 1
  | _ => 255

def pixelBytes (h : Header) : Nat :=
  if h.fullScale ≤ 255 then h.pixel.samples else 2 * h.pixel.samples

end Header

def sampleBytes? (maxval : Nat) : Option Nat :=
  if maxval = 0 then none
  else if maxval ≤ 0xFF then some 1
  else if maxval ≤ 0xFFFF then some 2
  else none

def bitmapHeader? (sampling : Sampling) (bytes : Bytes) : Option (Header × Bytes) := do
  let (width, bytes) ← headerNumber? bytes
  let (height, bytes) ← headerNumber? bytes
  return (⟨width, height, 255, .gray, sampling⟩, bytes)

def mapHeader? (pixel : Pixel) (asText : Bool) (bytes : Bytes) : Option (Header × Bytes) := do
  let (width, bytes) ← headerNumber? bytes
  let (height, bytes) ← headerNumber? bytes
  let (maxval, bytes) ← headerNumber? bytes
  let size ← sampleBytes? maxval
  let sampling := if asText then Sampling.text (Nat.pow 256 size - 1) else .bytes size
  return (⟨width, height, maxval, pixel, sampling⟩, bytes)

structure Lines where
  width : Option Nat
  height : Option Nat
  depth : Option Nat
  maxval : Option Nat
  tuple : Option (List Char)

def Lines.empty : Lines :=
  ⟨none, none, none, none, none⟩

def line? : Bytes → Option (Bytes × Bytes)
  | [] => none
  | b :: rest =>
    if b = 0x0A then some ([b], rest)
    else
      match line? rest with
      | some (line, rest) => some (b :: line, rest)
      | none => some ([b], [])

def fresh? (old : Option Nat) (value : List Char) : Option (Option Nat) :=
  match old, Text.natural? Text.maxWord (Text.trim value) with
  | none, some n => some (some n)
  | _, _ => none

def Lines.add? (l : Lines) (line : List Char) : Option Lines :=
  let name := line.takeWhile (!Text.isBlank ·)
  let value := line.dropWhile (!Text.isBlank ·)
  match String.ofList name with
  | "WIDTH" => (fresh? l.width value).map fun v => { l with width := v }
  | "HEIGHT" => (fresh? l.height value).map fun v => { l with height := v }
  | "DEPTH" => (fresh? l.depth value).map fun v => { l with depth := v }
  | "MAXVAL" => (fresh? l.maxval value).map fun v => { l with maxval := v }
  | "TUPLTYPE" =>
    let more := Text.trim value
    some { l with tuple := some (match l.tuple with
      | some earlier => earlier ++ ' ' :: more
      | none => more) }
  | _ => none

def readLines? : Nat → Lines → Bytes → Option (Lines × Bytes)
  | 0, _, _ => none
  | fuel + 1, l, bytes => do
    let (line, rest) ← line? bytes
    if line.head? = some hash then
      if (Text.decodeUtf8? line).isSome then readLines? fuel l rest else none
    else if line.any (0x80 ≤ ·) then none
    else
      let text := chars line
      if text.takeWhile (!Text.isBlank ·) = "ENDHDR".toList then return (l, rest)
      else
        let l ← l.add? text
        readLines? fuel l rest

def unnamedPixel? : Nat → Option Pixel
  | 1 => some .gray
  | 2 => some .grayAlpha
  | 3 => some .rgb
  | 4 => some .rgba
  | _ => none

-- Without a name a sample has one byte, whatever the greatest value.
def general? (tuple : Option String) (depth maxval : Nat) : Option (Pixel × Sampling) :=
  if maxval = 0 then none
  else
    match tuple, depth with
    | none, _ => (unnamedPixel? depth).map (·, .bytes 1)
    | some "BLACKANDWHITE", 1 => if maxval = 1 then some (.gray, .zeroOne) else none
    | some "BLACKANDWHITE_ALPHA", 2 => if maxval = 1 then some (.grayAlpha, .zeroOne) else none
    | some "GRAYSCALE", 0 => (sampleBytes? maxval).map fun _ => (.gray, .bytes 2)
    | some "GRAYSCALE", 1 => (sampleBytes? maxval).map (.gray, .bytes ·)
    | some "GRAYSCALE_ALPHA", 2 => (sampleBytes? maxval).map (.grayAlpha, .bytes ·)
    | some "RGB", 3 => (sampleBytes? maxval).map (.rgb, .bytes ·)
    | some "RGB_ALPHA", 4 => (sampleBytes? maxval).map (.rgba, .bytes ·)
    | _, _ => none

def generalHeader? (bytes : Bytes) : Option (Header × Bytes) := do
  match bytes with
  | 0x0A :: bytes =>
    let (l, bytes) ← readLines? (bytes.length + 1) Lines.empty bytes
    let width ← l.width
    let height ← l.height
    let depth ← l.depth
    let maxval ← l.maxval
    let (pixel, sampling) ← general? (l.tuple.map String.ofList) depth maxval
    return (⟨width, height, maxval, pixel, sampling⟩, bytes)
  | _ => none

def header? : Bytes → Option (Header × Bytes)
  | 0x50 :: 0x31 :: rest => bitmapHeader? .textBits rest
  | 0x50 :: 0x32 :: rest => mapHeader? .gray true rest
  | 0x50 :: 0x33 :: rest => mapHeader? .rgb true rest
  | 0x50 :: 0x34 :: rest => bitmapHeader? .packedBits rest
  | 0x50 :: 0x35 :: rest => mapHeader? .gray false rest
  | 0x50 :: 0x36 :: rest => mapHeader? .rgb false rest
  | 0x50 :: 0x37 :: rest => generalHeader? rest
  | _ => none

def textBits? : Nat → Bytes → Option (List Nat)
  | 0, _ => some []
  | _ + 1, [] => none
  | n + 1, b :: rest =>
    if isBlank b then textBits? (n + 1) rest
    else if b = 0x30 then (textBits? n rest).map (255 :: ·)
    else if b = 0x31 then (textBits? n rest).map (0 :: ·)
    else none

def packedBits? (width : Nat) : Nat → Bytes → Option (List Nat)
  | 0, _ => some []
  | n + 1, bytes => do
    let (row, bytes) ← Bytes.take? ((width + 7) / 8) bytes
    let rows ← packedBits? width n bytes
    return ((Samples.unpack 1 row).take width).map (fun bit => 255 * (1 - bit)) ++ rows

def words : Bytes → List Bytes
  | [] => []
  | b :: rest =>
    if isBlank b then [] :: words rest
    else
      match words rest with
      | [] => [[b]]
      | word :: more => (b :: word) :: more

def textNumbers? (limit : Nat) : Nat → List Bytes → Option (List Nat)
  | 0, _ => some []
  | _ + 1, [] => none
  | n + 1, word :: more =>
    if word = [] then textNumbers? limit (n + 1) more
    else do
      let value ← number? limit word
      let rest ← textNumbers? limit n more
      return value :: rest

def samples? (h : Header) (bytes : Bytes) : Option (List Nat) :=
  match h.sampling with
  | .textBits => textBits? h.count bytes
  | .packedBits => packedBits? h.width (if h.width = 0 then 0 else h.height) bytes
  | .text limit => textNumbers? limit h.count (words bytes)
  | .bytes size => do
    let (data, _) ← Bytes.take? (size * h.count) bytes
    return Samples.unpack (8 * size) data
  | .zeroOne => do
    let (data, _) ← Bytes.take? h.count bytes
    let values := data.map UInt8.toNat
    if values.all (· ≤ 1) then some values else none

def toByte (h : Header) (sample : Nat) : UInt8 :=
  let full := h.fullScale
  let scaled := if h.maxval = full then sample else Scaling.scale full h.maxval sample
  if full ≤ 255 then UInt8.ofNat scaled else Pixmap.narrow scaled

def colors : Pixel → List UInt8 → List Color
  | .gray, v :: rest => Pixmap.gray v :: colors .gray rest
  | .grayAlpha, v :: _ :: rest => Pixmap.gray v :: colors .grayAlpha rest
  | .rgb, r :: g :: b :: rest => ⟨r, g, b⟩ :: colors .rgb rest
  | .rgba, r :: g :: b :: _ :: rest => ⟨r, g, b⟩ :: colors .rgba rest
  | _, _ => []

def decode? (limit : Option Nat) (bytes : Bytes) : Option Pixmap := do
  let (h, bytes) ← header? bytes
  if !Pixmap.affordable limit h.pixelBytes h.width h.height then none
  else
    let samples ← samples? h bytes
    Pixmap.ofPixels? h.width h.height (colors h.pixel (samples.map (toByte h)))

end PaletteSnap.Anymap
