import PaletteSnap.Codec.Png.Chunk
import PaletteSnap.Codec.Png.Header

namespace PaletteSnap.Png

-- To show what a file stores, chunks that are not needed are passed over; for its colors, no chunk
-- may be wrong that every reader must heed.
inductive Purpose where
  | inspect | decode
deriving DecidableEq, Repr

structure Draft where
  header : Option Header
  palette : Option Bytes
  source : Option Bytes
  pieces : List Bytes
  sequence : Option Nat
  described : List Bytes
  transparent : Bool

namespace Draft

def empty : Draft :=
  ⟨none, none, none, [], none, [], false⟩

def data (d : Draft) : Bytes :=
  d.pieces.reverse.flatten

def addData (d : Draft) (kind data : Bytes) : Draft :=
  { d with source := some kind, pieces := data :: d.pieces }

def isPalette (data : Bytes) : Bool :=
  data ≠ [] && data.length % 3 = 0 && data.length ≤ 768

def addPalette? (p : Purpose) (d : Draft) (data : Bytes) : Option Draft :=
  if d.palette.isSome ∨ (p = .decode ∧ !isPalette data) then none
  else some { d with palette := some data }

def numberAt (data : Bytes) (place : Nat) : Nat :=
  Bytes.big ((data.drop place).take 4)

def nextNumber (d : Draft) : Nat :=
  match d.sequence with
  | some n => n + 1
  | none => 0

def addFrame? (d : Draft) (h : Header) (data : Bytes) : Option Draft :=
  match data.drop 24 with
  | [clearing, drawing] =>
    if numberAt data 0 = d.nextNumber ∧ numberAt data 4 = h.width ∧ numberAt data 8 = h.height ∧
        numberAt data 12 = 0 ∧ numberAt data 16 = 0 ∧ clearing ≤ 2 ∧ drawing ≤ 1 then
      some { d with sequence := some d.nextNumber }
    else none
  | _ => none

def addFrameData? (d : Draft) (data : Bytes) : Option Draft :=
  if d.sequence.isNone ∨ data.length < 4 ∨ numberAt data 0 ≠ d.nextNumber then none
  else some { d.addData Kind.frameData (data.drop 4) with sequence := some d.nextNumber }

def descriptionSize? (kind : Bytes) : Option Nat :=
  if kind = Kind.codePoints then some 4
  else if kind = Kind.display then some 24
  else if kind = Kind.lightLevels then some 8
  else none

def isDescription (kind data : Bytes) : Bool :=
  if kind = Kind.codePoints then
    match data.drop 2 with
    | [matrix, flag] => matrix = 0 && flag ≤ 1
    | _ => false
  else true

def addDescription? (d : Draft) (kind data : Bytes) (size : Nat) : Option Draft :=
  if data.length < size ∨ kind ∈ d.described ∨ (d.palette.isSome ∧ kind ≠ Kind.lightLevels) then
    some d
  else if size < data.length ∨ !isDescription kind data then none
  else some { d with described := kind :: d.described }

def addOther? (d : Draft) (h : Header) (kind data : Bytes) : Option Draft :=
  match descriptionSize? kind with
  | some size => d.addDescription? kind data size
  | none =>
    if Kind.isCritical kind ∨
        (kind = Kind.background ∧ h.layout = .indexed ∧ d.palette.isNone) then
      none
    else some { d with transparent := d.transparent || kind = Kind.transparency }

def pixelBytes (d : Draft) (h : Header) : Nat :=
  let alpha := if d.transparent then 1 else 0
  let samples := match h.layout with
    | .gray => 1 + alpha
    | .rgb => 3 + alpha
    | .indexed => 3 + alpha
    | .grayAlpha => 2
    | .rgba => 4
  if h.depth = 16 then 2 * samples else samples

def add? (p : Purpose) (d : Draft) (kind data : Bytes) : Option Draft :=
  match d.header with
  | none =>
    if kind = Kind.header then (Header.ofBytes? data).map fun h => { d with header := some h }
    else none
  | some h =>
    if kind = Kind.header then none
    else if kind = Kind.palette then d.addPalette? p data
    else if kind = Kind.data then some (d.addData kind data)
    else if kind = Kind.frame then d.addFrame? h data
    else if kind = Kind.frameData then d.addFrameData? data
    else if kind = Kind.animation then if data.length < 8 then none else some d
    else if p = .decode then d.addOther? h kind data
    else some d

end Draft

-- A chunk with a wrong checksum is passed over unless it is critical or brings image data.
def readChunks (p : Purpose) : Nat → Draft → Bytes → Option Draft
  | 0, _, _ => none
  | fuel + 1, d, bytes => do
    let (length, kind, bytes) ← chunkHead? bytes
    if d.source.any (· ≠ kind) then return d
    else if kind = Kind.ending then none
    else
      let (data, right, bytes) ← chunkBody? kind length bytes
      if right ∨ kind = Kind.frameData then
        let d ← d.add? p kind data
        readChunks p fuel d bytes
      else if Kind.isCritical kind then none
      else readChunks p fuel d bytes

end PaletteSnap.Png
