import PaletteSnap.Hue

namespace PaletteSnap.Palette

structure Slot where
  hue : Hue
  lightness : Option Lightness
  color : Color
deriving DecidableEq, Repr

def level (lightness : Lightness) (lit : Bool) : UInt8 :=
  match lightness, lit with
  | .dark, true => 0xC0
  | .normal, true => 0xFF
  | .light, true => 0xFF
  | .light, false => 0xC0
  | _, false => 0x00

def black : Color := ⟨0x00, 0x00, 0x00⟩

def white : Color := ⟨0xFF, 0xFF, 0xFF⟩

def color : Hue → Lightness → Color
  | .black, _ => black
  | .white, _ => white
  | h, l => ⟨level l h.redLit, level l h.greenLit, level l h.blueLit⟩

def color? (hue : Hue) (position : Nat) : Option Color :=
  if hue.isChromatic then Lightness.all[position]?.map (color hue)
  else if position = 0 then some (color hue .normal)
  else none

def slots : List Slot :=
  ⟨.black, none, black⟩ ::
    Hue.chromatic.flatMap (fun h => Lightness.all.map fun l => ⟨h, some l, color h l⟩) ++
    [⟨.white, none, white⟩]

def size : Nat := 20

theorem length_slots : slots.length = size := rfl

def colors : List Color :=
  slots.map (·.color)

theorem nodup_colors : colors.Nodup := by decide

def indexOf? (c : Color) : Option Nat :=
  slots.findIdx? (·.color = c)

end PaletteSnap.Palette
