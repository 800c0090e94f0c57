import PaletteSnap.Codec.Png.Draft
import PaletteSnap.Codec.Png.Interlace
import PaletteSnap.Codec.Pixmap
import PaletteSnap.Codec.Zlib
import PaletteSnap.Palette

namespace PaletteSnap

structure Png where
  header : Png.Header
  palette : Option Bytes
  rows : List Bytes
deriving DecidableEq, Repr

namespace Png

def rows? (h : Header) (data : Bytes) : Option (List Bytes) :=
  if h.interlaced then weave h data
  else (restoreRows h.stride (h.rowBytes h.width) h.height [] data).map (·.1)

-- How far behind the rows a fault in the image data is still found.
def window : Nat := 0x8000

def draft? (p : Purpose) (bytes : Bytes) : Option Draft := do
  let (start, bytes) ← Bytes.take? signature.length bytes
  if start ≠ signature then none else readChunks p (bytes.length + 1) Draft.empty bytes

def ofDraft? (p : Purpose) (d : Draft) : Option Png := do
  let header ← d.header
  let enough := if p = .decode then some (storedBytes header + window) else none
  let content ← Zlib.decompress? enough d.data
  if p = .inspect ∧ !content.complete then none
  else
    let rows ← rows? header content.bytes
    return ⟨header, d.palette, rows⟩

def read? (p : Purpose) (bytes : Bytes) : Option Png :=
  (draft? p bytes).bind (ofDraft? p)

inductive Inspection where
  | foreign
  | unreadable
  | image (p : Png)
deriving DecidableEq, Repr

def inspect (bytes : Bytes) : Inspection :=
  if signature.isPrefixOf bytes then
    match read? .inspect bytes with
    | some p => .image p
    | none => .unreadable
  else .foreign

def scale (depth sample : Nat) : UInt8 :=
  match depth with
  | 1 => UInt8.ofNat (255 * sample)
  | 2 => UInt8.ofNat (85 * sample)
  | 4 => UInt8.ofNat (17 * sample)
  | 16 => Pixmap.narrow sample
  | _ => UInt8.ofNat sample

def color (header : Header) (palette : Array Color) (samples : List Nat) : Color :=
  match header.layout, samples with
  | .indexed, [i] => palette[i]?.getD Palette.black
  | .gray, [v] => Pixmap.gray (scale header.depth v)
  | .grayAlpha, [v, _] => Pixmap.gray (scale header.depth v)
  | .rgb, [r, g, b] => ⟨scale header.depth r, scale header.depth g, scale header.depth b⟩
  | .rgba, [r, g, b, _] => ⟨scale header.depth r, scale header.depth g, scale header.depth b⟩
  | _, _ => Palette.black

def rowColors (header : Header) (palette : Array Color) (row : Bytes) : List Color :=
  (Samples.grouped header.layout.samples header.width (Samples.unpack header.depth row)).map
    (color header palette)

def toPixmap? (p : Png) : Option Pixmap :=
  if p.header.layout = .indexed ∧ p.palette.isNone then none
  else
    let palette := (Color.ofChannels (p.palette.getD [])).toArray
    Pixmap.ofPixels? p.header.width p.header.height
      (p.rows.flatMap (rowColors p.header palette))

def decode? (limit : Option Nat) (bytes : Bytes) : Option Pixmap := do
  let d ← draft? .decode bytes
  let h ← d.header
  if !Pixmap.affordable limit (d.pixelBytes h) h.width h.height then none
  else (ofDraft? .decode d).bind toPixmap?

def data (p : Png) : Bytes :=
  p.rows.flatten

def ofContent (c : PngContent) : Png :=
  let layout : Layout := if c.palette.isSome then .indexed else .rgb
  ⟨⟨c.width.toNat, c.height.toNat, layout, 8, false⟩, c.palette,
    Samples.grouped (c.pixelBytes * c.width.toNat) c.height.toNat c.data⟩

def content? (p : Png) : Option PngContent :=
  if p.header.depth = 8 ∧ p.header.layout = (if p.palette.isSome then .indexed else .rgb) then
    some ⟨.ofNat p.header.width, .ofNat p.header.height, p.palette, p.data⟩
  else none

def toBytes (p : Png) : Bytes :=
  let header := chunk Kind.header { p.header with interlaced := false }.toBytes
  let palette := match p.palette with
    | some colors => chunk Kind.palette colors
    | none => []
  let pieces := Bytes.chunks 32767 (Zlib.compress (plainRows p.rows))
  signature ++ header ++ palette ++ pieces.flatMap (chunk Kind.data) ++ chunk Kind.ending []

def encode (c : PngContent) : Except String Bytes :=
  if c.width = 0 then .error "Zero width not allowed"
  else if c.height = 0 then .error "Zero height not allowed"
  else if c.Fits then .ok (ofContent c).toBytes
  else .error "Wrong number of pixels"

end Png

end PaletteSnap
