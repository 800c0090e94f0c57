import PaletteSnap.Cause
import PaletteSnap.FileProgram
import PaletteSnap.Snapper
import PaletteSnap.Text.Blank

namespace PaletteSnap

structure Settings where
  tolerance : Nat := 10
  margin : Nat := 10
  verbose : Bool := false
  indexed : Bool := false
  suffix : String := "remapped"
deriving DecidableEq, Repr

-- A flag can be set here but not cleared.
structure Overrides where
  tolerance : Option Nat := none
  margin : Option Nat := none
  verbose : Bool := false
  indexed : Bool := false
deriving DecidableEq, Repr

inductive SettingsError where
  | read (path : Path) (cause : IoError)
  | parse (path : Path) (cause : Cause)
  | invalid (reason : String)
deriving DecidableEq, Repr

namespace SettingsError

def message : SettingsError → String
  | read path _ => s!"Failed to read {path.toText}"
  | parse path _ => s!"Failed to parse {path.toText}"
  | invalid reason => s!"Invalid setting: {reason}"

def source? : SettingsError → Option Cause
  | read _ cause => some (.last cause.message)
  | parse _ cause => some cause
  | invalid _ => none

end SettingsError

namespace Settings

def override (s : Settings) (o : Overrides) : Settings :=
  { s with
    tolerance := o.tolerance.getD s.tolerance
    margin := o.margin.getD s.margin
    verbose := s.verbose || o.verbose
    indexed := s.indexed || o.indexed }

structure Valid (s : Settings) : Prop where
  margin_pos : 0 < s.margin
  suffix_not_blank : Text.trim s.suffix.toList ≠ []

def fault? (s : Settings) : Option SettingsError :=
  if s.margin = 0 then some (.invalid "level_threshold must be at least 1")
  else if Text.trim s.suffix.toList = [] then some (.invalid "output_suffix must not be empty")
  else none

theorem fault?_eq_none_iff {s : Settings} : s.fault? = none ↔ s.Valid := by
  constructor
  · intro h
    simp only [fault?] at h
    split at h
    · simp at h
    · split at h
      · simp at h
      · exact ⟨by omega, by assumption⟩
  · intro h
    have := h.margin_pos
    simp [fault?, h.suffix_not_blank, Nat.ne_of_gt this]

def outputName (s : Settings) (input : Path) : List UInt8 :=
  let stem := match input.fileStem? with
    | some stem => Text.decodeLossy stem
    | none => "image"
  Text.encodeUtf8 s!"{stem}.{s.suffix}.png"

def defaultOutput (s : Settings) (input : Path) : Path :=
  input.withFileName (s.outputName input)

def snapper (s : Settings) : Snapper :=
  ⟨s.tolerance, s.margin, s.verbose⟩

end Settings

end PaletteSnap
