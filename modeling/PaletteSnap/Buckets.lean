import PaletteSnap.Classification
import PaletteSnap.Discovery
import PaletteSnap.Palette

namespace PaletteSnap

def insertByKey {α : Type} (key : α → Nat) (x : α) : List α → List α
  | [] => [x]
  | y :: rest => if key x ≤ key y then x :: y :: rest else y :: insertByKey key x rest

def sortByKey {α : Type} (key : α → Nat) : List α → List α
  | [] => []
  | x :: rest => insertByKey key x (sortByKey key rest)

structure Mismatch where
  hue : Hue
  found : Nat
  expected : Nat
deriving DecidableEq, Repr

def Mismatch.text (m : Mismatch) : String :=
  s!"{m.hue.name}: found {m.found} colors, expected {m.expected}"

structure Family where
  hue : Hue
  clusters : List Cluster
deriving DecidableEq, Repr

@[ext] structure Buckets where
  members : Hue → List Nat

namespace Buckets

def empty : Buckets :=
  ⟨fun _ => []⟩

def mark (margin : Nat) (k : Cluster) : Cluster :=
  let c := k.average.classify margin
  { k with family := some c.family, level := c.level }

def indicesOf (clusters : List Cluster) (hue : Hue) : List Nat :=
  clusters.zipIdx.filterMap fun (k, i) => if k.family = some hue then some i else none

def classify (margin : Nat) (d : Discovery) : Discovery × Buckets :=
  let marked := d.clusters.map (mark margin)
  ({ d with clusters := marked }, ⟨indicesOf marked⟩)

def mismatches (b : Buckets) : List Mismatch :=
  Hue.all.filterMap fun h =>
    let found := (b.members h).length
    if found ≠ h.expectedMembers then some ⟨h, found, h.expectedMembers⟩ else none

def levelAt (d : Discovery) (i : Nat) : Nat :=
  match d.clusters[i]? with
  | some k => k.level
  | none => 0

-- Equal levels keep their order.
def sortByLevel (d : Discovery) (b : Buckets) : Buckets :=
  ⟨fun h => if h.isChromatic then sortByKey (levelAt d) (b.members h) else b.members h⟩

def associateFamily (hue : Hue) (members : List Nat) (clusters : List Cluster) : List Cluster :=
  members.zipIdx.foldl
    (fun ks (i, position) =>
      match Palette.color? hue position with
      | some c => ks.modify i (Cluster.setReference c)
      | none => ks)
    clusters

def associate (b : Buckets) (d : Discovery) : Discovery :=
  { d with
    clusters := Hue.all.foldl (fun ks h => associateFamily h (b.members h) ks) d.clusters }

def families (b : Buckets) (d : Discovery) : List Family :=
  Hue.all.map fun h => ⟨h, (b.members h).filterMap (d.clusters[·]?)⟩

end Buckets

end PaletteSnap
