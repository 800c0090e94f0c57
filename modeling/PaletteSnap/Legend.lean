import PaletteSnap.Grid
import PaletteSnap.Snapper.Error

namespace PaletteSnap

structure Legend where
  discovery : Discovery
  buckets : Buckets

def maxCount : Nat := 0xFFFFFFFFFFFFFFFF

-- A product beyond 64 bits is reported as the largest count.
def checkDimensions (pixels : List Color) (width height : Nat) : Except SnapError Unit :=
  if pixels.length = width * height then .ok ()
  else .error (.dimensions width height (min (width * height) maxCount) pixels.length)

namespace Legend

def families (m : Legend) : List Family :=
  m.buckets.families m.discovery

def colorFor? (m : Legend) (sample : Color) : Option Color :=
  (m.discovery.lookup? sample).bind (·.reference)

def recolorFrom (m : Legend) (index : Nat) : List Color → Except SnapError (List Color)
  | [] => .ok []
  | sample :: rest =>
    match m.colorFor? sample with
    | none => .error (.unmatchedPixel index)
    | some c =>
      match m.recolorFrom (index + 1) rest with
      | .ok cs => .ok (c :: cs)
      | .error e => .error e

def recolor (m : Legend) (pixels : List Color) (width height : Nat) : Except SnapError Grid :=
  match checkDimensions pixels width height with
  | .error e => .error e
  | .ok () =>
    match m.recolorFrom 0 pixels with
    | .ok cs => .ok ⟨width, height, cs⟩
    | .error e => .error e

end Legend

end PaletteSnap
