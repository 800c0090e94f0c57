import PaletteSnap.Codec
import PaletteSnap.Grid

namespace PaletteSnap

inductive EncodeError where
  | tooWide (width : Nat)
  | tooTall (height : Nat)
  | notCanonical
  | rejected (reason : String)
deriving DecidableEq, Repr

def EncodeError.message : EncodeError → String
  | .tooWide width => s!"PNG encode error: width {width} too large"
  | .tooTall height => s!"PNG encode error: height {height} too large"
  | .notCanonical => "Indexed output requires canonical colors only"
  | .rejected reason => s!"PNG encode error: {reason}"

def Palette.bytes : Bytes :=
  colors.flatMap Color.channels

theorem Palette.length_bytes : bytes.length = 3 * size := by decide

namespace Grid

def content (indexed : Bool) (g : Grid) : Except EncodeError PngContent :=
  if UInt32.size ≤ g.width then .error (.tooWide g.width)
  else if UInt32.size ≤ g.height then .error (.tooTall g.height)
  else if indexed then
    match g.paletteIndices? with
    | some indices =>
      .ok ⟨.ofNat g.width, .ofNat g.height, some Palette.bytes, indices.map UInt8.ofNat⟩
    | none => .error .notCanonical
  else .ok ⟨.ofNat g.width, .ofNat g.height, none, g.bytes⟩

def encode (indexed : Bool) (g : Grid) (images : ImageLibrary := .standard) :
    Except EncodeError Bytes :=
  match g.content indexed with
  | .error e => .error e
  | .ok c => (images.encode c).mapError .rejected

end Grid

end PaletteSnap
