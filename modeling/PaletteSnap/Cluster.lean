import PaletteSnap.Hue

namespace PaletteSnap

structure Cluster where
  average : Color
  weight : UInt64
  family : Option Hue
  level : Nat
  reference : Option Color
deriving DecidableEq, Repr

namespace Cluster

def ofSample (sample : Color) : Cluster :=
  ⟨sample, 1, none, 0, none⟩

def mergeChannel (weight : UInt64) (average sample : UInt8) : UInt8 :=
  ((average.toUInt64 * weight + sample.toUInt64) / (weight + 1)).toUInt8

def merge (k : Cluster) (sample : Color) : Cluster :=
  { k with
    average :=
      ⟨mergeChannel k.weight k.average.red sample.red,
        mergeChannel k.weight k.average.green sample.green,
        mergeChannel k.weight k.average.blue sample.blue⟩
    weight := k.weight + 1 }

def accepts (k : Cluster) (tolerance : Nat) (sample : Color) : Bool :=
  decide (Color.Near tolerance k.average sample)

theorem accepts_iff {k : Cluster} {tolerance : Nat} {sample : Color} :
    k.accepts tolerance sample ↔ Color.Near tolerance k.average sample :=
  decide_eq_true_iff

def setReference (color : Color) (k : Cluster) : Cluster :=
  { k with reference := some color }

end Cluster

end PaletteSnap
