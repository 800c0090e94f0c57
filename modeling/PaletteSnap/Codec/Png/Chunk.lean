import PaletteSnap.Codec.Checksum

namespace PaletteSnap.Png

def signature : Bytes :=
  [0x89, 0x50, 0x4E, 0x47, 0x0D, 0x0A, 0x1A, 0x0A]

namespace Kind

def header : Bytes := [0x49, 0x48, 0x44, 0x52]

def palette : Bytes := [0x50, 0x4C, 0x54, 0x45]

def data : Bytes := [0x49, 0x44, 0x41, 0x54]

def ending : Bytes := [0x49, 0x45, 0x4E, 0x44]

def animation : Bytes := [0x61, 0x63, 0x54, 0x4C]

def frame : Bytes := [0x66, 0x63, 0x54, 0x4C]

def frameData : Bytes := [0x66, 0x64, 0x41, 0x54]

def transparency : Bytes := [0x74, 0x52, 0x4E, 0x53]

def background : Bytes := [0x62, 0x4B, 0x47, 0x44]

def codePoints : Bytes := [0x63, 0x49, 0x43, 0x50]

def display : Bytes := [0x6D, 0x44, 0x43, 0x56]

def lightLevels : Bytes := [0x63, 0x4C, 0x4C, 0x49]

def isCritical : Bytes → Bool
  | first :: _ => first.toNat / 32 % 2 = 0
  | [] => false

end Kind

def chunkHead? (bytes : Bytes) : Option (Nat × Bytes × Bytes) := do
  let (length, bytes) ← Bytes.take? 4 bytes
  let (kind, bytes) ← Bytes.take? 4 bytes
  return (Bytes.big length, kind, bytes)

def chunkBody? (kind : Bytes) (length : Nat) (bytes : Bytes) : Option (Bytes × Bool × Bytes) := do
  let (data, bytes) ← Bytes.take? length bytes
  let (check, bytes) ← Bytes.take? 4 bytes
  return (data, Bytes.big check = (Checksum.crc32 (kind ++ data)).toNat, bytes)

def chunk (kind data : Bytes) : Bytes :=
  Bytes.ofBig 4 data.length ++ kind ++ data ++
    Bytes.ofBig 4 (Checksum.crc32 (kind ++ data)).toNat

end PaletteSnap.Png
