import PaletteSnap.Cause
import PaletteSnap.Encoding
import PaletteSnap.FileProgram
import PaletteSnap.Raster

namespace PaletteSnap

inductive ImageError where
  | read (path : Path) (cause : IoError)
  | write (path : Path) (cause : IoError)
  | decode (cause : DecodeError)
  | encode (cause : EncodeError)
deriving DecidableEq, Repr

namespace ImageError

def message : ImageError → String
  | read path _ => s!"Failed to read {path.toText}"
  | write path _ => s!"Failed to write {path.toText}"
  | decode cause => s!"Image decode error: {cause.message}"
  | encode cause => cause.message

def source? : ImageError → Option Cause
  | read _ cause => some (.last cause.message)
  | write _ cause => some (.last cause.message)
  | _ => none

end ImageError

namespace ImageFile

def load (p : Path) (images : ImageLibrary := .standard) :
    FileProgram (Except ImageError Raster) := do
  match ← FileProgram.readFile p with
  | .error e => return .error (.read p e)
  | .ok bytes => return (Raster.decode bytes images).mapError .decode

def save (p : Path) (indexed : Bool) (g : Grid) (images : ImageLibrary := .standard) :
    FileProgram (Except ImageError Unit) := do
  match g.encode indexed images with
  | .error e => return .error (.encode e)
  | .ok bytes => return (← FileProgram.writeFile p bytes).mapError (.write p)

end ImageFile

end PaletteSnap
