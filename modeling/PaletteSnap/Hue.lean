import PaletteSnap.Color

namespace PaletteSnap

inductive Hue where
  | black | blue | green | cyan | red | magenta | yellow | white
deriving DecidableEq, Repr

namespace Hue

def all : List Hue :=
  [black, blue, green, cyan, red, magenta, yellow, white]

def chromatic : List Hue :=
  [blue, green, cyan, red, magenta, yellow]

def isChromatic : Hue → Bool
  | black | white => false
  | _ => true

def ofLit : (red green blue : Bool) → Hue
  | false, false, false => .black
  | false, false, true => .blue
  | false, true, false => .green
  | false, true, true => .cyan
  | true, false, false => .red
  | true, false, true => .magenta
  | true, true, false => .yellow
  | true, true, true => .white

def redLit : Hue → Bool
  | red | magenta | yellow | white => true
  | _ => false

def greenLit : Hue → Bool
  | green | cyan | yellow | white => true
  | _ => false

def blueLit : Hue → Bool
  | blue | cyan | magenta | white => true
  | _ => false

theorem ofLit_lit (h : Hue) : ofLit h.redLit h.greenLit h.blueLit = h := by
  cases h <;> rfl

def bits (h : Hue) : Nat :=
  4 * h.redLit.toNat + 2 * h.greenLit.toNat + h.blueLit.toNat

def ofBits (n : Nat) : Hue :=
  ofLit (n.testBit 2) (n.testBit 1) (n.testBit 0)

theorem ofBits_bits (h : Hue) : ofBits h.bits = h := by
  cases h <;> decide

def name : Hue → String
  | black => "black"
  | blue => "blue"
  | green => "green"
  | cyan => "cyan"
  | red => "red"
  | magenta => "magenta"
  | yellow => "yellow"
  | white => "white"

def expectedMembers (h : Hue) : Nat :=
  if h.isChromatic then 3 else 1

end Hue

inductive Lightness where
  | dark | normal | light
deriving DecidableEq, Repr

namespace Lightness

def all : List Lightness :=
  [dark, normal, light]

def index : Lightness → Nat
  | dark => 0
  | normal => 1
  | light => 2

def name : Lightness → String
  | dark => "dark"
  | normal => "normal"
  | light => "light"

end Lightness

end PaletteSnap
