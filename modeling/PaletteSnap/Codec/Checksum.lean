import PaletteSnap.Codec.Bytes

namespace PaletteSnap.Checksum

def crcPolynomial : UInt32 := 0xEDB88320

def crcBit (c : UInt32) : UInt32 :=
  if c &&& 1 = 1 then crcPolynomial ^^^ (c >>> 1) else c >>> 1

def crcByte (c : UInt32) (b : UInt8) : UInt32 :=
  let c := c ^^^ b.toUInt32
  crcBit (crcBit (crcBit (crcBit (crcBit (crcBit (crcBit (crcBit c)))))))

def crc32 (bytes : Bytes) : UInt32 :=
  bytes.foldl crcByte 0xFFFFFFFF ^^^ 0xFFFFFFFF

def adlerByte (sums : Nat × Nat) (b : UInt8) : Nat × Nat :=
  let a := (sums.1 + b.toNat) % 65521
  (a, (sums.2 + a) % 65521)

def adler32 (bytes : Bytes) : Nat :=
  let (a, b) := bytes.foldl adlerByte (1, 0)
  65536 * b + a

end PaletteSnap.Checksum
