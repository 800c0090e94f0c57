import PaletteSnap.Failure

namespace PaletteSnap

structure Outcome where
  input : Path
  output : Path
  width : Nat
  height : Nat
  indexed : Bool
deriving DecidableEq, Repr

structure JobReport where
  events : List Event
  result : Except Failure Outcome

structure Job where
  settings : Settings
  valid : settings.Valid

namespace Job

def ofSettings (s : Settings) : Except SettingsError Job :=
  match h : s.fault? with
  | some e => .error e
  | none => .ok ⟨s, Settings.fault?_eq_none_iff.mp h⟩

def outputPath (j : Job) (input : Path) (asked : Option Path) : Path :=
  asked.getD (j.settings.defaultOutput input)

def run (j : Job) (input : Path) (asked : Option Path) (images : ImageLibrary := .standard) :
    FileProgram JobReport := do
  let output := j.outputPath input asked
  match ← ImageFile.load input images with
  | .error e => return ⟨[], .error (.image e)⟩
  | .ok image =>
    let snapped := j.settings.snapper.snap image.pixels image.width.toNat image.height.toNat
    match snapped.result with
    | .error e => return ⟨snapped.events, .error (.snap e)⟩
    | .ok grid =>
      match ← ImageFile.save output j.settings.indexed grid images with
      | .error e => return ⟨snapped.events, .error (.image e)⟩
      | .ok () =>
        return ⟨snapped.events, .ok ⟨input, output, grid.width, grid.height, j.settings.indexed⟩⟩

end Job

end PaletteSnap
