import PaletteSnap.Color
import PaletteSnap.ImageLibrary

namespace PaletteSnap

structure Pixmap where
  width : UInt32
  height : UInt32
  pixels : List Color
  length_pixels : pixels.length = width.toNat * height.toNat

namespace Pixmap

def ofPixels? (width height : Nat) (pixels : List Color) : Option Pixmap :=
  if h : width < UInt32.size ∧ height < UInt32.size ∧ pixels.length = width * height then
    some
      { width := UInt32.ofNatLT width h.1
        height := UInt32.ofNatLT height h.2.1
        pixels := pixels
        length_pixels := by simpa using h.2.2 }
  else none

def affordable (limit : Option Nat) (pixelBytes width height : Nat) : Bool :=
  limit.all (pixelBytes * width * height ≤ ·)

def toRgb (m : Pixmap) : RgbImage :=
  ⟨m.width, m.height, m.pixels.flatMap Color.channels⟩

theorem length_samples_toRgb (m : Pixmap) :
    m.toRgb.samples.length = 3 * (m.toRgb.width.toNat * m.toRgb.height.toNat) := by
  rw [toRgb, Color.length_flatMap_channels, m.length_pixels]

def narrow (sample : Nat) : UInt8 :=
  UInt8.ofNat ((sample + 128) / 257)

def gray (sample : UInt8) : Color :=
  ⟨sample, sample, sample⟩

end Pixmap

end PaletteSnap
