import PaletteSnap.Palette

namespace PaletteSnap

structure Grid where
  width : Nat
  height : Nat
  pixels : List Color
deriving DecidableEq, Repr

namespace Grid

def Filled (g : Grid) : Prop :=
  g.pixels.length = g.width * g.height

instance (g : Grid) : Decidable g.Filled :=
  inferInstanceAs (Decidable (_ = _))

def get? (g : Grid) (x y : Nat) : Option Color :=
  if x < g.width ∧ y < g.height then g.pixels[y * g.width + x]? else none

def bytes (g : Grid) : List UInt8 :=
  g.pixels.flatMap Color.channels

def paletteIndices? (g : Grid) : Option (List Nat) :=
  g.pixels.mapM Palette.indexOf?

theorem length_bytes (g : Grid) : g.bytes.length = 3 * g.pixels.length :=
  Color.length_flatMap_channels g.pixels

end Grid

end PaletteSnap
