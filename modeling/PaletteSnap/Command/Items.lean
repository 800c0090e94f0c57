namespace PaletteSnap.Command

inductive Stop where
  | misuse
  | help (page : String)
  | version
deriving DecidableEq, Repr

structure Switch (ι : Type) where
  name : ι
  long : String
  letter : Option Char
  valued : Bool

inductive Item (ι : Type) where
  | flag (name : ι)
  | option (name : ι) (value : String)
  | operand (value : String)
deriving DecidableEq, Repr

section

variable {ι σ : Type} (switches : List (Switch ι)) (step : σ → Item ι → Except Stop σ)

def letters : List Char → σ → Except Stop (Option ι × σ)
  | [], s => .ok (none, s)
  | c :: rest, s =>
    match switches.find? (·.letter = some c) with
    | none => .error .misuse
    | some w =>
      if w.valued then
        match rest with
        | [] => .ok (some w.name, s)
        | '=' :: value => (step s (.option w.name (String.ofList value))).map (none, ·)
        | value => (step s (.option w.name (String.ofList value))).map (none, ·)
      else
        match step s (.flag w.name) with
        | .error e => .error e
        | .ok s => letters rest s

def fullName (text : List Char) (s : σ) : Except Stop (Option ι × σ) :=
  let name := String.ofList (text.takeWhile (· ≠ '='))
  let value := (text.dropWhile (· ≠ '=')).tail
  let joined : Bool := '=' ∈ text
  match switches.find? (·.long = name) with
  | none => .error .misuse
  | some w =>
    match w.valued, joined with
    | true, true => (step s (.option w.name (String.ofList value))).map (none, ·)
    | true, false => .ok (some w.name, s)
    | false, true => .error .misuse
    | false, false => (step s (.flag w.name)).map (none, ·)

def operands : List String → σ → Except Stop σ
  | [], s => .ok s
  | arg :: rest, s =>
    match step s (.operand arg) with
    | .error e => .error e
    | .ok s => operands rest s

-- An option that waits for its value takes the next argument, unless that begins with a hyphen and
-- is more than a hyphen.
def walk : Option ι → List String → σ → Except Stop σ
  | none, [], s => .ok s
  | some _, [], _ => .error .misuse
  | some name, arg :: rest, s =>
    match arg.toList with
    | '-' :: _ :: _ => .error .misuse
    | _ =>
      match step s (.option name arg) with
      | .error e => .error e
      | .ok s => walk none rest s
  | none, arg :: rest, s =>
    match arg.toList with
    | ['-', '-'] => operands step rest s
    | '-' :: '-' :: text =>
      match fullName switches step text s with
      | .error e => .error e
      | .ok (waiting, s) => walk waiting rest s
    | '-' :: c :: text =>
      match letters switches step (c :: text) s with
      | .error e => .error e
      | .ok (waiting, s) => walk waiting rest s
    | _ =>
      match step s (.operand arg) with
      | .error e => .error e
      | .ok s => walk none rest s

end

end PaletteSnap.Command
