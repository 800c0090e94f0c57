import PaletteSnap.Codec.Huffman

namespace PaletteSnap.Deflate

def lengthTable : List (Nat × Nat) :=
  [(3, 0), (4, 0), (5, 0), (6, 0), (7, 0), (8, 0), (9, 0), (10, 0), (11, 1), (13, 1), (15, 1),
    (17, 1), (19, 2), (23, 2), (27, 2), (31, 2), (35, 3), (43, 3), (51, 3), (59, 3), (67, 4),
    (83, 4), (99, 4), (115, 4), (131, 5), (163, 5), (195, 5), (227, 5), (258, 0)]

def distanceTable : List (Nat × Nat) :=
  [(1, 0), (2, 0), (3, 0), (4, 0), (5, 1), (7, 1), (9, 2), (13, 2), (17, 3), (25, 3), (33, 4),
    (49, 4), (65, 5), (97, 5), (129, 6), (193, 6), (257, 7), (385, 7), (513, 8), (769, 8),
    (1025, 9), (1537, 9), (2049, 10), (3073, 10), (4097, 11), (6145, 11), (8193, 12),
    (12289, 12), (16385, 13), (24577, 13)]

def codeLengthOrder : List Nat :=
  [16, 17, 18, 0, 8, 7, 9, 6, 10, 5, 11, 4, 12, 3, 13, 2, 14, 1, 15]

def tabled? (table : List (Nat × Nat)) (symbol : Nat) (b : Bits) : Option (Nat × Bits) := do
  let (least, further) ← table[symbol]?
  let (more, b) ← b.number? further
  return (least + more, b)

def copy (distance : Nat) : Nat → Array UInt8 → Option (Array UInt8)
  | 0, out => some out
  | n + 1, out =>
    if distance ≤ out.size then
      match out[out.size - distance]? with
      | some byte => copy distance n (out.push byte)
      | none => none
    else none

-- More than one step of the reader can use; what had to use these zeros is left out again.
def padding : Bytes :=
  List.replicate 8 0

def has (n : Nat) (b : Bits) : Bool :=
  b.holds (n + 8 * padding.length)

def unpad (bytes : Bytes) : Bytes :=
  bytes.take (bytes.length - padding.length)

structure Progress where
  place : Option Bits
  out : Array UInt8

def satisfied (enough : Option Nat) (out : Array UInt8) : Bool :=
  enough.any (· ≤ out.size)

def pairBits : Nat := 12

def pair? (literals : Huffman) (b : Bits) : Option (UInt8 × UInt8 × Bits) := do
  let (front, _) ← b.number? pairBits
  let (first, rest) ← literals.decode? ⟨front, pairBits, []⟩
  let (second, _) ← literals.decode? rest
  if 256 ≤ first ∨ 256 ≤ second then none
  else
    let (_, b) ← literals.decode? b
    let (_, b) ← literals.decode? b
    return (UInt8.ofNat first, UInt8.ofNat second, b)

def repetition? (distances : Huffman) (symbol : Nat) (b : Bits) : Option (Nat × Nat × Bits) := do
  let (length, b) ← tabled? lengthTable (symbol - 257) b
  let (symbol, b) ← distances.decode? b
  let (distance, b) ← tabled? distanceTable symbol b
  return (length, distance, b)

-- Every symbol takes at least one bit, so the number of bits bounds the steps.
def symbols? (enough : Option Nat) (literals distances : Huffman) :
    Nat → Bits → Array UInt8 → Option Progress
  | 0, _, _ => none
  | fuel + 1, b, out =>
    if satisfied enough out then some ⟨none, out⟩
    else
      match pair? literals b with
      | some (first, second, b) =>
        if has 0 b then symbols? enough literals distances fuel b ((out.push first).push second)
        else some ⟨none, out⟩
      | none => do
        let (symbol, b) ← literals.decode? b
        if symbol ≤ 256 then
          if !has 0 b then return ⟨none, out⟩
          else if symbol = 256 then return ⟨some b, out⟩
          else symbols? enough literals distances fuel b (out.push (UInt8.ofNat symbol))
        else
          let (length, distance, b) ← repetition? distances symbol b
          if !has 0 b then return ⟨none, out⟩
          else
            let out ← copy distance length out
            symbols? enough literals distances fuel b out

def fixedLiteralLengths : List Nat :=
  List.replicate 144 8 ++ List.replicate 112 9 ++ List.replicate 24 7 ++ List.replicate 8 8

def fixedDistanceLengths : List Nat :=
  List.replicate 32 5

def triples : Nat → Bits → Option (List Nat × Bits)
  | 0, b => some ([], b)
  | n + 1, b => do
    let (x, b) ← b.number? 3
    let (xs, b) ← triples n b
    return (x :: xs, b)

inductive Stop where
  | ended
  | fault
deriving DecidableEq, Repr

def number (n : Nat) (b : Bits) : Except Stop (Nat × Bits) :=
  match b.number? n with
  | some (x, b) => if has 0 b then .ok (x, b) else .error .ended
  | none => .error .ended

def orFault {α : Type} : Option α → Except Stop α
  | some a => .ok a
  | none => .error .fault

def codeLengths (code : Huffman) (wanted : Nat) :
    Nat → Bits → List Nat → Except Stop (List Nat × Bits)
  | 0, _, _ => .error .fault
  | fuel + 1, b, done =>
    if done.length = wanted then .ok (done.reverse, b)
    else if wanted < done.length then .error .fault
    else if !has 7 b then .error .ended
    else do
      let (symbol, b) ← orFault (code.decode? b)
      if symbol < 16 then codeLengths code wanted fuel b (symbol :: done)
      else if symbol = 16 then
        let (more, b) ← number 2 b
        let last ← orFault done.head?
        codeLengths code wanted fuel b (List.replicate (3 + more) last ++ done)
      else if symbol = 17 then
        let (more, b) ← number 3 b
        codeLengths code wanted fuel b (List.replicate (3 + more) 0 ++ done)
      else
        let (more, b) ← number 7 b
        codeLengths code wanted fuel b (List.replicate (11 + more) 0 ++ done)

def orderedLengths (stored : List Nat) : List Nat :=
  (List.range 19).map fun symbol =>
    match codeLengthOrder.idxOf? symbol with
    | some i => stored[i]?.getD 0
    | none => 0

def ownCodes (b : Bits) : Except Stop (Huffman × Huffman × Bits) :=
  if !has 14 b then .error .ended
  else do
    let (literals, b) ← number 5 b
    let (distances, b) ← number 5 b
    let (stored, b) ← number 4 b
    let literals := literals + 257
    let distances := distances + 1
    if 286 < literals ∨ 30 < distances then .error .fault
    else if !has (3 * (stored + 4)) b then .error .ended
    else
      let (lengths, b) ← orFault (triples (stored + 4) b)
      let code ← orFault (Huffman.ofComplete? (orderedLengths lengths))
      let (lengths, b) ← codeLengths code (literals + distances) (literals + distances + 1) b []
      if lengths[256]?.getD 0 = 0 then .error .fault
      else
        let literalCode ← orFault (Huffman.ofComplete? (lengths.take literals))
        let distanceCode ← orFault (Huffman.ofSparse? (lengths.drop literals))
        return (literalCode, distanceCode, b)

def storedBlock? (bytes : Bytes) (out : Array UInt8) : Option Progress :=
  match Bytes.take? 4 bytes with
  | none => some ⟨none, out⟩
  | some (header, rest) =>
    let length := Bytes.little (header.take 2)
    if rest.length < padding.length then some ⟨none, out⟩
    else if length + Bytes.little (header.drop 2) ≠ 0xFFFF then none
    else if rest.length < length + padding.length then some ⟨none, out ++ (unpad rest).toArray⟩
    else some ⟨some (Bits.ofBytes (rest.drop length)), out ++ (rest.take length).toArray⟩

def fixedBlock? (enough : Option Nat) (b : Bits) (out : Array UInt8) : Option Progress :=
  symbols? enough (Huffman.ofLengths fixedLiteralLengths) (Huffman.ofLengths fixedDistanceLengths)
    (b.size + 1) b out

def ownBlock? (enough : Option Nat) (b : Bits) (out : Array UInt8) : Option Progress :=
  match ownCodes b with
  | .error .fault => none
  | .error .ended => some ⟨none, out⟩
  | .ok (literals, distances, b) => symbols? enough literals distances (b.size + 1) b out

def blockBits : Nat := 10

def blocks? (enough : Option Nat) : Nat → Bits → Array UInt8 → Option Progress
  | 0, _, _ => none
  | fuel + 1, b, out => do
    if satisfied enough out ∨ !has blockBits b then return ⟨none, out⟩
    else
      let (last, b) ← b.number? 1
      let (kind, b) ← b.number? 2
      let p ←
        match kind with
        | 0 => storedBlock? b.align out
        | 1 => fixedBlock? enough b out
        | 2 => ownBlock? enough b out
        | _ => none
      match p.place with
      | some b => if last = 1 then return p else blocks? enough fuel b p.out
      | none => return p

structure Inflated where
  bytes : Bytes
  rest : Option Bytes

-- Input that ends too early still gives the bytes that it holds; a fault in it does not.
def inflate? (enough : Option Nat) (bytes : Bytes) : Option Inflated := do
  let b := Bits.ofBytes (bytes ++ padding)
  let p ← blocks? enough (b.size + 1) b #[]
  return ⟨p.out.toList, p.place.map fun b => unpad b.align⟩

def stored (last : Bool) (data : Bytes) : Bytes :=
  (if last then 1 else 0) :: Bytes.ofLittle 2 data.length ++
    Bytes.ofLittle 2 (0xFFFF - data.length) ++ data

def storedBlocks : List Bytes → Bytes
  | [] => stored true []
  | [piece] => stored true piece
  | piece :: pieces => stored false piece ++ storedBlocks pieces

def store (data : Bytes) : Bytes :=
  storedBlocks (Bytes.chunks 65534 data)

end PaletteSnap.Deflate
