import PaletteSnap.Codec.Bytes

namespace PaletteSnap.Lzw

structure Table where
  strings : Array Bytes
  width : Nat
  previous : Option Bytes

namespace Table

def start (symbolBits : Nat) : Table :=
  ⟨((List.range (Nat.pow 2 symbolBits)).map fun i => [UInt8.ofNat i]).toArray ++ #[[], []],
    symbolBits + 1, none⟩

def maxWidth : Nat := 12

def nearlyFull (t : Table) : Bool :=
  Nat.pow 2 t.width ≤ t.strings.size + 1

def add (t : Table) (string : Bytes) : Table :=
  if Nat.pow 2 maxWidth ≤ t.strings.size then t
  else
    { t with
      strings := t.strings.push string
      width := if t.nearlyFull ∧ t.width < maxWidth then t.width + 1 else t.width }

def take? (t : Table) (code : Nat) : Option (Bytes × Table) :=
  match t.previous, t.strings[code]? with
  | none, some string => some (string, { t with previous := some string })
  | some previous, some string =>
    some (string, { t.add (previous ++ string.take 1) with previous := some string })
  | some previous, none =>
    if code = t.strings.size then
      let string := previous ++ previous.take 1
      some (string, { t.add string with previous := some string })
    else none
  | none, none => none

end Table

structure Decoder where
  symbolBits : Nat
  table : Table
  held : Nat
  count : Nat
  pending : Bytes
  ended : Bool

structure Reading where
  output : Array UInt8
  rest : Bytes
  decoder : Decoder

namespace Decoder

def start (symbolBits : Nat) : Decoder :=
  ⟨symbolBits, Table.start symbolBits, 0, 0, [], false⟩

def restart (d : Decoder) : Decoder :=
  { d with table := Table.start d.symbolBits }

def restartCode (d : Decoder) : Nat :=
  Nat.pow 2 d.symbolBits

def endCode (d : Decoder) : Nat :=
  d.restartCode + 1

def maxHeld : Nat := 64

def refill (d : Decoder) (input : Bytes) : Decoder × Bytes :=
  let n := (maxHeld - d.count) / 8
  let taken := input.take n
  ({ d with
      held := d.held + Nat.pow 2 d.count * Bytes.little taken
      count := d.count + 8 * taken.length },
    input.drop n)

def code? (d : Decoder) : Option (Nat × Decoder) :=
  let size := Nat.pow 2 d.table.width
  if d.count < d.table.width then none
  else
    some (d.held % size, { d with held := d.held / size, count := d.count - d.table.width })

structure Burst where
  left : Nat
  known : Nat

def maxBurst : Nat := 6

def burst (d : Decoder) : Burst :=
  ⟨min maxBurst (d.count / d.table.width), d.table.strings.size⟩

-- The width may change after the last string that codes of the present width can number.
def Burst.endsWith (b : Burst) (t : Table) (code : Nat) : Bool :=
  b.left = 1 || b.known ≤ code || t.nearlyFull

-- A reading ends with a code for restart or for the end, with a string that does not fit, with a
-- burst that fills the room, and where no code is left.
def readCodes? (room : Nat) : Nat → Burst → Decoder → Bytes → Array UInt8 → Option Reading
  | 0, _, _, _, _ => none
  | fuel + 1, b, d, input, output =>
    if b.left = 0 then
      let (d, input) := d.refill input
      if d.burst.left = 0 then some ⟨output, input, d⟩
      else readCodes? room fuel d.burst d input output
    else do
      let (code, d) ← d.code?
      if code = d.restartCode then return ⟨output, input, d.restart⟩
      else if code = d.endCode then return ⟨output, input, { d with ended := true }⟩
      else
        let last := b.endsWith d.table code
        let (string, table) ← d.table.take? code
        let d := { d with table := table }
        if room < output.size + string.length then
          return ⟨output, input, { d with pending := string }⟩
        else
          let output := output ++ string.toArray
          if last ∧ output.size = room then return ⟨output, input, d⟩
          else readCodes? room fuel ⟨if last then 0 else b.left - 1, b.known⟩ d input output

def readOn? (d : Decoder) (room : Nat) (input : Bytes) : Option Reading :=
  if room < d.pending.length then
    some ⟨(d.pending.take room).toArray, input, { d with pending := d.pending.drop room }⟩
  else
    let fuel := 2 * (d.count + 8 * input.length) + 2
    readCodes? room fuel ⟨0, 0⟩ { d with pending := [] } input d.pending.toArray

def read? (d : Decoder) (room : Nat) (input : Bytes) : Option Reading :=
  if d.ended then some ⟨#[], input, d⟩
  else if d.table.previous.isSome then d.readOn? room input
  else
    let (d, input) := if d.count < d.table.width then d.refill input else (d, input)
    match d.code? with
    | none => some ⟨#[], input, d⟩
    | some (code, d) =>
      if code = d.restartCode then some ⟨#[], input, d.restart⟩
      else if code = d.endCode then some ⟨#[], input, { d with ended := true }⟩
      else
        match d.table.take? code with
        | none => none
        | some (string, table) =>
          { d with table := table, pending := string }.readOn? room input

end Decoder

end PaletteSnap.Lzw
