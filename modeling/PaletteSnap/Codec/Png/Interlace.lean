import PaletteSnap.Codec.Png.Header
import PaletteSnap.Codec.Png.Filter
import PaletteSnap.Codec.Samples

namespace PaletteSnap.Png

structure Pass where
  firstColumn : Nat
  firstRow : Nat
  columnStep : Nat
  rowStep : Nat
deriving DecidableEq, Repr

namespace Pass

def all : List Pass :=
  [⟨0, 0, 8, 8⟩, ⟨4, 0, 8, 8⟩, ⟨0, 4, 4, 8⟩, ⟨2, 0, 4, 4⟩, ⟨0, 2, 2, 4⟩, ⟨1, 0, 2, 2⟩, ⟨0, 1, 1, 2⟩]

def columns (p : Pass) (width : Nat) : Nat :=
  (width - p.firstColumn + p.columnStep - 1) / p.columnStep

def rows (p : Pass) (height : Nat) : Nat :=
  (height - p.firstRow + p.rowStep - 1) / p.rowStep

def contains (p : Pass) (x y : Nat) : Bool :=
  p.firstColumn ≤ x ∧ (x - p.firstColumn) % p.columnStep = 0 ∧ p.firstRow ≤ y ∧
    (y - p.firstRow) % p.rowStep = 0

end Pass

def storedBytes (h : Header) : Nat :=
  let rows (width height : Nat) : Nat :=
    if width = 0 then 0 else height * (1 + h.rowBytes width)
  if h.interlaced then
    (Pass.all.map fun p => rows (p.columns h.width) (p.rows h.height)).foldl (· + ·) 0
  else rows h.width h.height

abbrev PassPixels := Array (Array (List Nat))

def readPass (h : Header) (p : Pass) (data : Bytes) : Option (PassPixels × Bytes) :=
  let width := p.columns h.width
  let height := p.rows h.height
  if width = 0 ∨ height = 0 then some (#[], data)
  else do
    let (rows, data) ← restoreRows h.stride (h.rowBytes width) height [] data
    let pixels := rows.map fun row =>
      (Samples.grouped h.layout.samples width (Samples.unpack h.depth row)).toArray
    return (pixels.toArray, data)

def readPasses (h : Header) : List Pass → Bytes → Option (List (Pass × PassPixels))
  | [], _ => some []
  | p :: rest, data => do
    let (pixels, data) ← readPass h p data
    let passes ← readPasses h rest data
    return (p, pixels) :: passes

def pixelOf (passes : List (Pass × PassPixels)) (x y : Nat) : List Nat :=
  match passes.find? (fun (p, _) => p.contains x y) with
  | some (p, pixels) =>
    let row := pixels[(y - p.firstRow) / p.rowStep]?.getD #[]
    row[(x - p.firstColumn) / p.columnStep]?.getD []
  | none => []

def weave (h : Header) (data : Bytes) : Option (List Bytes) := do
  let passes ← readPasses h Pass.all data
  return (List.range h.height).map fun y =>
    Samples.pack h.depth ((List.range h.width).flatMap fun x => pixelOf passes x y)

end PaletteSnap.Png
