import PaletteSnap.Json
import PaletteSnap.Color.Text
import PaletteSnap.Snapper.Event

namespace PaletteSnap

namespace Console

def marker (colored : Bool) (code text : String) : String :=
  if colored then s!"\x1b[{code}m{text}\x1b[0m" else text

def good (colored : Bool) : String :=
  marker colored "92" "[+]"

def bad (colored : Bool) : String :=
  marker colored "91" "[-]"

def nibble (n : Nat) : String :=
  String.ofList ([3, 2, 1, 0].map fun i => if n.testBit i then '1' else '0')

def clusterLine (k : Cluster) : String :=
  let reference := match k.reference with
    | some c => c.toText
    | none => "-"
  s!"\t\t{k.average.toText} -> {reference}\t(weight {k.weight}, level {k.level})"

def familyLines (f : Family) : List String :=
  s!"{f.hue.name}\t({nibble f.hue.bits}):" :: f.clusters.map clusterLine

def eventLines (colored : Bool) : Event → List String
  | .started stage => [s!"[*] {stage.name.capitalize}..."]
  | .colorsFound count => [s!"{good colored} found {count} colors"]
  | .countMismatch found expected hint =>
    [s!"{bad colored} Error: found {found} colors, expected {expected}; " ++
      s!"try {hint.word} the diff threshold"]
  | .hueMismatch m =>
    [s!"{bad colored} Error: bad hue sorting for {m.hue.name}, found {m.found} colors, " ++
      s!"expected {m.expected}; try acting on the level threshold"]
  | .hueDump families => families.flatMap familyLines
  | .done .enumerating => []
  | .done .hueSorting => [s!"{good colored} coherent hue sorting"]
  | .done _ => [s!"{good colored} done"]

def savedLine (colored : Bool) (path : String) : String :=
  s!"{good colored} saved remapped image to {path}"

def text (lines : List String) : String :=
  String.join (lines.map (· ++ "\n"))

def eventsText (colored : Bool) (events : List Event) : String :=
  text (events.flatMap (eventLines colored))

end Console

structure Report where
  exitCode : Nat
  output : Option String
  error : Option String
  events : List Event

namespace Report

def clusterJson (k : Cluster) : Json :=
  .record
    [("average", .text k.average.toText), ("weight", .number k.weight.toNat),
      ("level", .number k.level),
      ("reference", match k.reference with
        | some c => .text c.toText
        | none => .null)]

def familyJson (f : Family) : Json :=
  .record [("hue", .text f.hue.name), ("clusters", .list (f.clusters.map clusterJson))]

def eventJson : Event → Json
  | .started stage => .record [("event", .text "stage_started"), ("stage", .text stage.name)]
  | .colorsFound count => .record [("event", .text "colors_found"), ("count", .number count)]
  | .countMismatch found expected hint =>
    .record
      [("event", .text "count_mismatch"), ("found", .number found),
        ("expected", .number expected), ("hint", .text hint.word)]
  | .hueMismatch m =>
    .record
      [("event", .text "hue_mismatch"), ("hue", .text m.hue.name), ("found", .number m.found),
        ("expected", .number m.expected)]
  | .hueDump families =>
    .record [("event", .text "hue_dump"), ("families", .list (families.map familyJson))]
  | .done stage => .record [("event", .text "done"), ("stage", .text stage.name)]

def success (r : Report) : Bool :=
  r.error.isNone

def optional (name : String) : Option String → List (String × Json)
  | some s => [(name, .text s)]
  | none => []

def toJson (r : Report) : Json :=
  .record
    ([("success", .bool r.success), ("exit_code", .number r.exitCode)] ++
      optional "output" r.output ++ optional "error" r.error ++
      [("events", .list (r.events.map eventJson))])

end Report

end PaletteSnap
