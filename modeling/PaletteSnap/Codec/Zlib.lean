import PaletteSnap.Codec.Checksum
import PaletteSnap.Codec.Deflate

namespace PaletteSnap.Zlib

def validHeader (method flags : UInt8) : Bool :=
  method.toNat % 16 = 8 ∧ method.toNat / 16 ≤ 7 ∧ flags.toNat / 32 % 2 = 0 ∧
    (256 * method.toNat + flags.toNat) % 31 = 0

structure Content where
  bytes : Bytes
  complete : Bool

-- The value of the checksum is not looked at.
def decompress? (enough : Option Nat) : Bytes → Option Content
  | method :: flags :: rest =>
    if validHeader method flags then
      (Deflate.inflate? enough rest).map fun i => ⟨i.bytes, i.rest.any (4 ≤ ·.length)⟩
    else none
  | _ => none

def compress (data : Bytes) : Bytes :=
  0x78 :: 0x01 :: Deflate.store data ++ Bytes.ofBig 4 (Checksum.adler32 data)

end PaletteSnap.Zlib
