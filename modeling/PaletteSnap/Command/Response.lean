import PaletteSnap.Command
import PaletteSnap.Job
import PaletteSnap.Report
import PaletteSnap.Settings.Document

namespace PaletteSnap

structure Response where
  exitCode : Nat
  output : String
  error : Option String
deriving DecidableEq, Repr

namespace Command

def padRight (width : Nat) (text : String) : String :=
  text ++ String.ofList (List.replicate (width - text.length) ' ')

def padLeft (width : Nat) (text : String) : String :=
  String.ofList (List.replicate (width - text.length) ' ') ++ text

def slotLine (row : Palette.Slot × Nat) : String :=
  let grade := match row.1.lightness with
    | some l => l.name
    | none => "-"
  s!"{padLeft 2 (toString row.2)}  {padRight 8 row.1.hue.name} {padRight 7 grade} " ++
    row.1.color.toText

def slotJson (row : Palette.Slot × Nat) : Json :=
  .record
    [("index", .number row.2), ("hue", .text row.1.hue.name),
      ("lightness", match row.1.lightness with
        | some l => .text l.name
        | none => .null),
      ("color", .text row.1.color.toText)]

inductive Phase where
  | loading
  | remapping (file : Path)
deriving DecidableEq, Repr

def Phase.message : Phase → String
  | loading => "Failed to load configuration"
  | remapping file => s!"Failed to remap {file.toText}"

inductive CommandError where
  | failure (f : Failure)
  | report (cause : Cause)
deriving DecidableEq, Repr

namespace CommandError

def message : CommandError → String
  | failure f => f.message
  | report _ => "Failed to serialize report"

def source? : CommandError → Option Cause
  | failure f => f.source?
  | report cause => some cause

def exitCode : CommandError → Nat
  | failure f => f.exitCode
  | report _ => 3

end CommandError

structure Fault where
  context : Option Phase
  error : CommandError
deriving DecidableEq, Repr

namespace Fault

inductive Link where
  | context (p : Phase)
  | error (e : CommandError)
  | cause (c : Cause)
deriving DecidableEq, Repr

def Link.message : Link → String
  | context p => p.message
  | error e => e.message
  | cause c => c.message

def Link.error? : Link → Option CommandError
  | error e => some e
  | _ => none

def chain (f : Fault) : List Link :=
  f.context.toList.map .context ++ .error f.error ::
    (f.error.source?.toList.flatMap Cause.chain).map .cause

def line (f : Fault) : String :=
  "Error: " ++ ": ".intercalate (f.chain.map Link.message)

def exitCode (f : Fault) : Nat :=
  match f.chain.findSome? Link.error? with
  | some e => e.exitCode
  | none => 3

end Fault

structure Ending where
  output : String
  fault : Option Fault
deriving DecidableEq, Repr

def Ending.response (e : Ending) : Response :=
  match e.fault with
  | none => ⟨0, e.output, none⟩
  | some f => ⟨f.exitCode, e.output, some f.line⟩

def Stop.response : Stop → Response
  | misuse => ⟨2, "", some Help.misuse⟩
  | help page => ⟨0, page, none⟩
  | version => ⟨0, Help.version, none⟩

end Command

-- The packages that a command calls, each as the function that it is used for.
structure Toolbox where
  images : ImageLibrary
  yaml : String → Except Cause Settings
  print : Json → Except Cause String
  parse : List String → Except Response Command

namespace Toolbox

def ofImages (images : ImageLibrary) : Toolbox where
  images := images
  yaml := Settings.ofYaml
  print j := .ok j.pretty
  parse args := (Command.parse args).mapError Command.Stop.response

def standard : Toolbox :=
  ofImages .standard

end Toolbox

namespace Command

section

variable (tools : Toolbox)

def printed (j : Json) : Except CommandError String :=
  match tools.print j with
  | .ok text => .ok (text ++ "\n")
  | .error cause => .error (.report cause)

def endWith (j : Json) (fault : Option Fault) : Ending :=
  match printed tools j with
  | .ok text => ⟨text, fault⟩
  | .error e => ⟨"", some ⟨none, e⟩⟩

def runPalette (json : Bool) : Ending :=
  let rows := Palette.slots.zipIdx
  if json then endWith tools (.list (rows.map slotJson)) none
  else ⟨Console.text (rows.map slotLine), none⟩

def job (o : RemapOptions) (fromEnvironment : Option Path) :
    FileProgram (Except SettingsError Job) := do
  match ← Settings.load o.config fromEnvironment tools.yaml with
  | .error e => return .error e
  | .ok s => return Job.ofSettings (s.override o.overrides)

def runOnConsole (colored : Bool) (o : RemapOptions) (fromEnvironment : Option Path) :
    FileProgram Ending := do
  match ← job tools o fromEnvironment with
  | .error e => return ⟨"", some ⟨some .loading, .failure (.settings e)⟩⟩
  | .ok j =>
    let ran ← j.run o.file o.output tools.images
    let progress := Console.eventsText colored ran.events
    match ran.result with
    | .error f => return ⟨progress, some ⟨some (.remapping o.file), .failure f⟩⟩
    | .ok outcome =>
      return ⟨progress ++ Console.text [Console.savedLine colored outcome.output.toText], none⟩

def reportOf (events : List Event) : Except Failure Outcome → Report
  | .ok outcome => ⟨0, some outcome.output.toText, none, events⟩
  | .error f => ⟨f.exitCode, none, some f.fullMessage, events⟩

def runWithDocument (o : RemapOptions) (fromEnvironment : Option Path) : FileProgram Ending := do
  match ← job tools o fromEnvironment with
  | .error e =>
    let report := reportOf [] (.error (.settings e))
    return endWith tools report.toJson (some ⟨some .loading, .failure (.settings e)⟩)
  | .ok j =>
    let ran ← j.run o.file o.output tools.images
    let report := reportOf ran.events ran.result
    match ran.result with
    | .error f =>
      return endWith tools report.toJson (some ⟨some (.remapping o.file), .failure f⟩)
    | .ok _ => return endWith tools report.toJson none

def runRemap (colored : Bool) (o : RemapOptions) (fromEnvironment : Option Path) :
    FileProgram Ending :=
  if o.json then runWithDocument tools o fromEnvironment
  else runOnConsole tools colored o fromEnvironment

def run (colored : Bool) (c : Command) (fromEnvironment : Option Path) : FileProgram Ending :=
  match c with
  | .remap o => runRemap tools colored o fromEnvironment
  | .palette json => return runPalette tools json

end

end Command

def respond (args : List String) (fromEnvironment : Option Path) (tools : Toolbox := .standard)
    (colored : Bool := false) : FileProgram Response := do
  match tools.parse args with
  | .error response => return response
  | .ok c => return (← c.run tools colored fromEnvironment).response

end PaletteSnap
