import PaletteSnap.Legend

namespace PaletteSnap

structure Traced (α : Type) where
  events : List Event
  result : Except SnapError α

structure Snapper where
  tolerance : Nat := 10
  margin : Nat := 10
  verbose : Bool := false
deriving DecidableEq, Repr

namespace Snapper

def arrange (s : Snapper) (d : Discovery) (b : Buckets) : List Event × Legend :=
  let sorted := b.sortByLevel d
  let associated := sorted.associate d
  let dump := if s.verbose then [.hueDump (sorted.families associated)] else []
  ([.started .lightnessSorting, .done .lightnessSorting, .started .associating] ++ dump ++
      [.done .associating],
    ⟨associated, sorted⟩)

def sortHues (s : Snapper) (found : Discovery) : Traced Legend :=
  let (d, b) := Buckets.classify s.margin found
  match b.mismatches with
  | [] =>
    let (events, legend) := s.arrange d b
    ⟨[.started .hueSorting, .done .hueSorting] ++ events, .ok legend⟩
  | mismatches =>
    ⟨.started .hueSorting :: mismatches.map .hueMismatch ++ [.hueDump (b.families d)],
      .error (.hueSorting mismatches)⟩

def analyze (s : Snapper) (pixels : List Color) : Traced Legend :=
  if s.margin = 0 then ⟨[], .error .zeroMargin⟩
  else
    let d := Discovery.ofSamples s.tolerance pixels
    if d.size = Palette.size then
      let rest := s.sortHues d
      ⟨[.started .enumerating, .colorsFound d.size, .done .enumerating] ++ rest.events,
        rest.result⟩
    else
      let hint := Hint.forCount d.size Palette.size
      ⟨[.started .enumerating, .countMismatch d.size Palette.size hint],
        .error (.colorCount d.size Palette.size hint)⟩

def snap (s : Snapper) (pixels : List Color) (width height : Nat) : Traced Grid :=
  match checkDimensions pixels width height with
  | .error e => ⟨[], .error e⟩
  | .ok () =>
    let analysis := s.analyze pixels
    match analysis.result with
    | .error e => ⟨analysis.events, .error e⟩
    | .ok legend =>
      match legend.recolor pixels width height with
      | .error e => ⟨analysis.events ++ [.started .remapping], .error e⟩
      | .ok grid =>
        ⟨analysis.events ++ [.started .remapping, .done .remapping], .ok grid⟩

end Snapper

end PaletteSnap
