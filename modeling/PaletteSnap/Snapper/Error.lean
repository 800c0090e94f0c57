import PaletteSnap.Snapper.Event

namespace PaletteSnap

inductive SnapError where
  | colorCount (found expected : Nat) (hint : Hint)
  | hueSorting (mismatches : List Mismatch)
  | dimensions (width height expected actual : Nat)
  | zeroMargin
  | unmatchedPixel (index : Nat)
deriving DecidableEq, Repr

def SnapError.message : SnapError → String
  | .colorCount found expected hint =>
    s!"found {found} colors, expected {expected}; try {hint.word} the diff threshold"
  | .hueSorting mismatches =>
    let list := ", ".intercalate (mismatches.map Mismatch.text)
    s!"bad hue sorting ({list}); try acting on the level threshold"
  | .dimensions width height expected actual =>
    s!"pixel buffer holds {actual} samples but a {width}x{height} image needs {expected}"
  | .zeroMargin => "level threshold must be at least 1"
  | .unmatchedPixel index => s!"pixel {index} matches no discovered color"

end PaletteSnap
