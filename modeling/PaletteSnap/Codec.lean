import PaletteSnap.Codec.Anymap
import PaletteSnap.Codec.Bmp
import PaletteSnap.Codec.Gif
import PaletteSnap.Codec.Png

namespace PaletteSnap

namespace Format

def jpegSignature : Bytes :=
  [0xFF, 0xD8, 0xFF]

def ofBytes? (bytes : Bytes) : Option Format :=
  if Png.signature.isPrefixOf bytes then some png
  else if jpegSignature.isPrefixOf bytes then some jpeg
  else if Bmp.signature.isPrefixOf bytes then some bmp
  else if Gif.signatures.any (·.isPrefixOf bytes) then some gif
  else
    match bytes with
    | 0x50 :: digit :: _ => if 0x31 ≤ digit ∧ digit ≤ 0x37 then some anymap else none
    | _ => none

def decode (limit : Option Nat) (f : Format) (bytes : Bytes) : Except DecodeError Pixmap :=
  match f with
  | png => orMalformed (Png.decode? limit bytes)
  | bmp => orMalformed (Bmp.decode? limit bytes)
  | gif => orMalformed (Gif.decode? limit bytes)
  | anymap => orMalformed (Anymap.decode? limit bytes)
  -- There is no decoder for this one here.
  | jpeg => .error (.unsupported jpeg)
where
  orMalformed : Option Pixmap → Except DecodeError Pixmap
    | some m => .ok m
    | none => .error (.malformed s!"malformed {f.name} image")

end Format

def Pixmap.decode (limit : Option Nat) (bytes : Bytes) : Except DecodeError Pixmap :=
  match Format.ofBytes? bytes with
  | none => .error .unknownFormat
  | some f => f.decode limit bytes

namespace ImageLibrary

def ofCodec (limit : Option Nat) : ImageLibrary where
  decode bytes := (Pixmap.decode limit bytes).map Pixmap.toRgb
  encode := Png.encode
  stored? bytes :=
    match Png.inspect bytes with
    | .image p => p.content?
    | _ => none

-- Half a gigabyte.
def standard : ImageLibrary :=
  ofCodec (some 0x20000000)

end ImageLibrary

end PaletteSnap
