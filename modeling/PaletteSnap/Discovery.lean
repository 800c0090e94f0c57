import PaletteSnap.Cluster

namespace PaletteSnap

structure Discovery where
  tolerance : Nat
  clusters : List Cluster
deriving DecidableEq, Repr

namespace Discovery

def empty (tolerance : Nat) : Discovery :=
  ⟨tolerance, []⟩

def size (d : Discovery) : Nat :=
  d.clusters.length

-- The first match counts, not the nearest.
def find? (d : Discovery) (sample : Color) : Option Nat :=
  d.clusters.findIdx? (·.accepts d.tolerance sample)

def lookup? (d : Discovery) (sample : Color) : Option Cluster :=
  d.clusters.find? (·.accepts d.tolerance sample)

def insert (d : Discovery) (sample : Color) : Discovery × Nat :=
  match d.find? sample with
  | some i => ({ d with clusters := d.clusters.modify i (·.merge sample) }, i)
  | none => ({ d with clusters := d.clusters ++ [Cluster.ofSample sample] }, d.size)

def insertAll (d : Discovery) : List Color → Discovery × List Nat
  | [] => (d, [])
  | sample :: rest =>
    let (next, i) := d.insert sample
    let (last, is) := next.insertAll rest
    (last, i :: is)

def ofSamples (tolerance : Nat) (samples : List Color) : Discovery :=
  samples.foldl (fun d sample => (d.insert sample).1) (empty tolerance)

theorem insertAll_fst (d : Discovery) (samples : List Color) :
    (d.insertAll samples).1 = samples.foldl (fun d sample => (d.insert sample).1) d := by
  induction samples generalizing d with
  | nil => rfl
  | cons s rest ih => simp [insertAll, ih]

theorem length_insertAll_snd (d : Discovery) (samples : List Color) :
    (d.insertAll samples).2.length = samples.length := by
  induction samples generalizing d with
  | nil => rfl
  | cons s rest ih => simp [insertAll, ih]

theorem tolerance_insert (d : Discovery) (sample : Color) :
    (d.insert sample).1.tolerance = d.tolerance := by
  simp only [insert]
  split <;> rfl

end Discovery

end PaletteSnap
