import PaletteSnap.Hue

namespace PaletteSnap

structure Classification where
  family : Hue
  level : Nat
deriving DecidableEq, Repr

namespace Color

-- Channels are taken red first. One that exceeds the top so far, or misses it by less than the
-- margin, takes its place.
def top (margin : Nat) (c : Color) : Nat :=
  c.channels.foldl (fun t x => if t < x.toNat + margin then x.toNat else t) 0

def dominates (margin top : Nat) (x : UInt8) : Bool :=
  max x.toNat top - min x.toNat top < margin

def dominant (margin : Nat) (c : Color) : List UInt8 :=
  c.channels.filter (dominates margin (top margin c))

def family (margin : Nat) (c : Color) : Hue :=
  let lit := dominates margin (top margin c)
  match Hue.ofLit (lit c.red) (lit c.green) (lit c.blue) with
  | .white => if c.red < 128 then .black else .white
  | h => h

def level (margin : Nat) (c : Color) : Nat :=
  let xs := dominant margin c
  (xs.map UInt8.toNat).foldl (· + ·) 0 / xs.length

def classify (margin : Nat) (c : Color) : Classification :=
  ⟨family margin c, level margin c⟩

end Color

end PaletteSnap
