import PaletteSnap.ImageFile
import PaletteSnap.Settings

namespace PaletteSnap

inductive Failure where
  | image (e : ImageError)
  | settings (e : SettingsError)
  | snap (e : SnapError)
deriving DecidableEq, Repr

namespace Failure

def message : Failure → String
  | image e => e.message
  | settings e => e.message
  | snap e => e.message

def source? : Failure → Option Cause
  | image e => e.source?
  | settings e => e.source?
  | snap _ => none

def fullMessage (f : Failure) : String :=
  match f.source? with
  | some cause => cause.appendTo f.message
  | none => f.message

def exitCode : Failure → Nat
  | snap (.colorCount _ _ _) => 1
  | snap (.hueSorting _) => 2
  | _ => 3

end Failure

end PaletteSnap
