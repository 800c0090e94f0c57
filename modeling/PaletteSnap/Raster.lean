import PaletteSnap.Codec
import PaletteSnap.Grid

namespace PaletteSnap

structure Raster where
  width : UInt32
  height : UInt32
  pixels : List Color
deriving DecidableEq, Repr

namespace Raster

def ofRgb (image : RgbImage) : Raster :=
  ⟨image.width, image.height, Color.ofChannels image.samples⟩

def decode (bytes : Bytes) (images : ImageLibrary := .standard) : Except DecodeError Raster :=
  (images.decode bytes).map ofRgb

def toGrid (r : Raster) : Grid :=
  ⟨r.width.toNat, r.height.toNat, r.pixels⟩

end Raster

end PaletteSnap
