import PaletteSnap.Codec.Bytes

namespace PaletteSnap

inductive Format where
  | png | bmp | gif | anymap | jpeg
deriving DecidableEq, Repr

namespace Format

def name : Format → String
  | png => "PNG"
  | bmp => "BMP"
  | gif => "GIF"
  | anymap => "PNM"
  | jpeg => "JPEG"

end Format

inductive DecodeError where
  | unknownFormat
  | unsupported (format : Format)
  | malformed (reason : String)
deriving DecidableEq, Repr

def DecodeError.message : DecodeError → String
  | .unknownFormat => "The image format could not be determined"
  | .unsupported format => s!"The image format {format.name} is not supported"
  | .malformed reason => reason

structure RgbImage where
  width : UInt32
  height : UInt32
  samples : Bytes
deriving DecidableEq, Repr

structure PngContent where
  width : UInt32
  height : UInt32
  palette : Option Bytes
  data : Bytes
deriving DecidableEq, Repr

namespace PngContent

def pixelBytes (c : PngContent) : Nat :=
  if c.palette.isSome then 1 else 3

def Fits (c : PngContent) : Prop :=
  c.data.length = c.pixelBytes * (c.width.toNat * c.height.toNat)

instance (c : PngContent) : Decidable c.Fits :=
  inferInstanceAs (Decidable (_ = _))

structure Valid (c : PngContent) : Prop where
  fits : c.Fits
  palette_colors : ∀ colors ∈ c.palette,
    colors ≠ [] ∧ colors.length % 3 = 0 ∧ colors.length ≤ 3 * 256
  index_lt : ∀ colors ∈ c.palette, ∀ i ∈ c.data, 3 * i.toNat < colors.length

def expanded (c : PngContent) : Bytes :=
  match c.palette with
  | some colors => c.data.flatMap fun i => (colors.drop (3 * i.toNat)).take 3
  | none => c.data

end PngContent

-- A package for image formats. Besides colors, it shows what a PNG file stores.
structure ImageLibrary where
  decode : Bytes → Except DecodeError RgbImage
  encode : PngContent → Except String Bytes
  stored? : Bytes → Option PngContent

namespace ImageLibrary

variable (images : ImageLibrary)

-- What the package promises. Each of these is a hypothesis where it is relied on.
def DecodesWhole : Prop :=
  ∀ bytes image, images.decode bytes = .ok image →
    image.samples.length = 3 * (image.width.toNat * image.height.toNat)

def RefusesOnlyMisfits : Prop :=
  ∀ c reason, images.encode c = .error reason → c.width = 0 ∨ c.height = 0 ∨ ¬ c.Fits

def RefusesEmpty : Prop :=
  ∀ c, c.width = 0 ∨ c.height = 0 → ∃ reason, images.encode c = .error reason

structure Keeps : Prop where
  stored : ∀ c bytes, c.Valid → images.encode c = .ok bytes → images.stored? bytes = some c
  decoded : ∀ c bytes, c.Valid → images.encode c = .ok bytes →
    images.decode bytes = .ok ⟨c.width, c.height, c.expanded⟩

end ImageLibrary

end PaletteSnap
