import PaletteSnap.Command.Help
import PaletteSnap.Command.Items
import PaletteSnap.Settings
import PaletteSnap.Text.Number

namespace PaletteSnap

structure RemapOptions where
  file : Path
  output : Option Path
  config : Option Path
  overrides : Overrides
  json : Bool
deriving DecidableEq, Repr

inductive Command where
  | remap (o : RemapOptions)
  | palette (json : Bool)
deriving DecidableEq, Repr

namespace Command

def word? (text : String) : Option Nat :=
  match text.toList with
  | '+' :: digits => bounded? (Text.digits? 10 digits)
  | '-' :: digits => (Text.digits? 10 digits).bind fun n => if n = 0 then some 0 else none
  | digits => bounded? (Text.digits? 10 digits)
where
  bounded? : Option Nat → Option Nat
    | some n => if n ≤ Text.maxWord then some n else none
    | none => none

def path? (text : String) : Option Path :=
  if text = "" then none else some (.ofText text)

def once {α : Type} (old new : Option α) : Except Stop (Option α) :=
  match old, new with
  | none, some a => .ok (some a)
  | _, _ => .error .misuse

def onceFlag (old : Bool) : Except Stop Bool :=
  if old then .error .misuse else .ok true

namespace Remap

inductive Name where
  | tolerance | margin | output | verbose | config | indexed | json | help
deriving DecidableEq, Repr

def switches : List (Switch Name) :=
  [⟨.tolerance, "diff-threshold", some 'd', true⟩, ⟨.margin, "level-threshold", some 'l', true⟩,
    ⟨.output, "output", some 'o', true⟩, ⟨.verbose, "verbose", some 'v', false⟩,
    ⟨.config, "config", none, true⟩, ⟨.indexed, "indexed", none, false⟩,
    ⟨.json, "json", none, false⟩, ⟨.help, "help", some 'h', false⟩]

structure Draft where
  file : Option Path := none
  output : Option Path := none
  config : Option Path := none
  overrides : Overrides := {}
  json : Bool := false

def Draft.setOverrides (d : Draft) (o : Overrides) : Draft :=
  { d with overrides := o }

def step (d : Draft) : Item Name → Except Stop Draft
  | .operand text => (once d.file (path? text)).map fun p => { d with file := p }
  | .option .output text => (once d.output (path? text)).map fun p => { d with output := p }
  | .option .config text => (once d.config (path? text)).map fun p => { d with config := p }
  | .option .tolerance text =>
    (once d.overrides.tolerance (word? text)).map fun n =>
      d.setOverrides { d.overrides with tolerance := n }
  | .option .margin text =>
    (once d.overrides.margin (word? text)).map fun n =>
      d.setOverrides { d.overrides with margin := n }
  | .flag .verbose =>
    (onceFlag d.overrides.verbose).map fun b => d.setOverrides { d.overrides with verbose := b }
  | .flag .indexed =>
    (onceFlag d.overrides.indexed).map fun b => d.setOverrides { d.overrides with indexed := b }
  | .flag .json => (onceFlag d.json).map fun b => { d with json := b }
  | .flag .help => .error (.help Help.remap)
  | _ => .error .misuse

def parse (args : List String) : Except Stop Command :=
  match walk switches step none args {} with
  | .error e => .error e
  | .ok d =>
    match d.file with
    | some file => .ok (.remap ⟨file, d.output, d.config, d.overrides, d.json⟩)
    | none => .error .misuse

end Remap

namespace PaletteTable

inductive Name where
  | json | help
deriving DecidableEq, Repr

def switches : List (Switch Name) :=
  [⟨.json, "json", none, false⟩, ⟨.help, "help", some 'h', false⟩]

def step (json : Bool) : Item Name → Except Stop Bool
  | .flag .json => onceFlag json
  | .flag .help => .error (.help Help.palette)
  | _ => .error .misuse

def parse (args : List String) : Except Stop Command :=
  (walk switches step none args false).map Command.palette

end PaletteTable

def helpPage : List String → Stop
  | [] => .help Help.overview
  | ["remap"] => .help Help.remap
  | ["palette"] => .help Help.palette
  | ["help"] => .help Help.help
  | _ => .misuse

def leadingFlag (text : List Char) : Stop :=
  match text with
  | '-' :: 'h' :: _ => .help Help.overview
  | '-' :: 'V' :: _ => .version
  | _ =>
    match String.ofList text with
    | "--help" => .help Help.overview
    | "--version" => .version
    | _ => .misuse

def parse : List String → Except Stop Command
  | [] => .error .misuse
  | "remap" :: args => Remap.parse args
  | "palette" :: args => PaletteTable.parse args
  | "help" :: topics => .error (helpPage topics)
  | arg :: _ => .error (leadingFlag arg.toList)

end Command

end PaletteSnap
