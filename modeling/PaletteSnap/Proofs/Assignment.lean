import Mathlib.Algebra.BigOperators.Group.List.Lemmas
import Mathlib.Algebra.GroupWithZero.Nat
import Mathlib.Order.Bounds.Defs
import PaletteSnap.Proofs.Grouping

namespace PaletteSnap

namespace Cluster

def ofSamples? : List Color → Option Cluster
  | [] => none
  | x :: xs => some (xs.foldl merge (ofSample x))

theorem foldl_receive_some (k : Cluster) (xs : List Color) :
    xs.foldl (fun k x => some (receive k x)) (some k) = some (xs.foldl merge k) := by
  induction xs generalizing k with
  | nil => rfl
  | cons x xs ih => exact ih (k.merge x)

theorem foldl_receive_none (xs : List Color) :
    xs.foldl (fun k x => some (receive k x)) none = ofSamples? xs := by
  cases xs with
  | nil => rfl
  | cons x xs => exact foldl_receive_some (ofSample x) xs

theorem toNat_weight_foldl_merge {k : Cluster} {xs : List Color}
    (h : k.weight.toNat + xs.length < 2 ^ 64) :
    (xs.foldl merge k).weight.toNat = k.weight.toNat + xs.length := by
  induction xs generalizing k with
  | nil => rfl
  | cons x xs ih =>
    rw [List.length_cons] at h
    have hstep : (k.merge x).weight.toNat = k.weight.toNat + 1 := toNat_weight_merge (by omega) x
    rw [List.foldl_cons, ih (by omega), hstep, List.length_cons]
    omega

theorem toNat_weight_of_ofSamples? {k : Cluster} {xs : List Color} (hk : ofSamples? xs = some k)
    (hn : xs.length < 2 ^ 64) : k.weight.toNat = xs.length := by
  cases xs with
  | nil => cases hk
  | cons x xs =>
    obtain rfl : xs.foldl merge (ofSample x) = k := Option.some.inj hk
    have hone : (ofSample x).weight.toNat = 1 := rfl
    rw [List.length_cons] at hn ⊢
    rw [toNat_weight_foldl_merge (by omega), hone, Nat.add_comm]

end Cluster

namespace Discovery

variable {d : Discovery} {t j : Nat} {x : Color} {xs : List Color} {k : Cluster}

theorem getElem?_insertAll_empty (t j : Nat) (xs : List Color) :
    ((empty t).insertAll xs).1.clusters[j]? = Cluster.ofSamples? ((empty t).received j xs) := by
  rw [getElem?_insertAll, ← Cluster.foldl_receive_none]
  rfl

theorem length_received (d : Discovery) (j : Nat) (xs : List Color) :
    (d.received j xs).length = (d.insertAll xs).2.count j := by
  induction xs generalizing d with
  | nil => rfl
  | cons x xs ih =>
    rw [received_cons, insertAll, List.count_cons, ← ih]
    by_cases h : (d.insert x).2 = j <;> simp [h]

theorem toNat_weight_eq_count (hn : xs.length < 2 ^ 64)
    (hk : ((empty t).insertAll xs).1.clusters[j]? = some k) :
    k.weight.toNat = ((empty t).insertAll xs).2.count j := by
  have hle : ((empty t).insertAll xs).2.count j ≤ xs.length := by
    rw [← length_insertAll_snd (empty t) xs]
    exact List.count_le_length
  rw [← length_received] at hle ⊢
  rw [getElem?_insertAll_empty] at hk
  exact Cluster.toNat_weight_of_ofSamples? hk (by omega)

theorem insert_joins_or_appends (d : Discovery) (x : Color) :
    ((d.insert x).2 < d.size ∧ (d.insert x).1.size = d.size) ∨
      ((d.insert x).2 = d.size ∧ (d.insert x).1.size = d.size + 1) := by
  cases h : d.find? x with
  | some i =>
    obtain ⟨k, hk, -⟩ := find?_eq_some_iff.mp h
    obtain ⟨hi, -⟩ := List.getElem?_eq_some_iff.mp hk
    rw [insert_of_find?_eq_some h]
    exact .inl ⟨hi, List.length_modify _ _ _⟩
  | none =>
    rw [insert_of_find?_eq_none h]
    exact .inr ⟨rfl, List.length_append⟩

theorem eraseDups_indices (t : Nat) (xs : List Color) :
    ((empty t).insertAll xs).2.eraseDups = List.range ((empty t).insertAll xs).1.size := by
  induction xs using List.reverseRecOn with
  | nil => rfl
  | append_singleton xs x ih =>
    have hmem (i : Nat) : i ∈ ((empty t).insertAll xs).2 ↔ i < ((empty t).insertAll xs).1.size := by
      rw [← List.mem_eraseDups, ih, List.mem_range]
    rw [insertAll_append]
    simp only [insertAll]
    rw [eraseDups_concat]
    rcases insert_joins_or_appends ((empty t).insertAll xs).1 x with ⟨hi, hsize⟩ | ⟨hi, hsize⟩
    · rw [if_pos ((hmem _).mpr hi), hsize, ih]
    · have hnew : (((empty t).insertAll xs).1.insert x).2 ∉ ((empty t).insertAll xs).2 := by
        rw [hmem, hi]
        exact Nat.lt_irrefl _
      rw [if_neg hnew, hsize, hi, ih, List.range_succ]

theorem sum_count_eraseDups (is : List Nat) : (is.eraseDups.map is.count).sum = is.length := by
  have hperm : is.eraseDups.Perm is.dedup :=
    (List.perm_ext_iff_of_nodup (nodup_eraseDups is) is.nodup_dedup).mpr fun i => by
      rw [List.mem_eraseDups, List.mem_dedup]
  rw [(hperm.map is.count).sum_eq]
  exact List.sum_map_count_dedup_eq_length is

theorem map_weight_insertAll (hn : xs.length < 2 ^ 64) :
    ((empty t).insertAll xs).1.clusters.map (·.weight.toNat) =
      (List.range ((empty t).insertAll xs).1.size).map ((empty t).insertAll xs).2.count := by
  refine List.ext_getElem (by simp [size]) fun j hj hj' => ?_
  rw [List.length_map] at hj
  have hk := List.getElem?_eq_getElem hj
  simpa using toNat_weight_eq_count hn hk

theorem sum_weights_ofSamples (hn : xs.length < 2 ^ 64) :
    ((ofSamples t xs).clusters.map (·.weight.toNat)).sum = xs.length := by
  rw [ofSamples_eq_insertAll, map_weight_insertAll hn, ← eraseDups_indices, sum_count_eraseDups,
    length_insertAll_snd]

theorem sum_weights (hn : xs.length ≤ 2 ^ 56) :
    (((empty t).insertAll xs).1.clusters.map (·.weight.toNat)).sum = xs.length := by
  rw [← ofSamples_eq_insertAll]
  exact sum_weights_ofSamples (by omega)

theorem isLeast_insert (d : Discovery) (x : Color) :
    IsLeast {i | i = d.size ∨
      ∃ k, d.clusters[i]? = some k ∧ Color.Near d.tolerance k.average x} (d.insert x).2 := by
  cases h : d.find? x with
  | some i =>
    obtain ⟨k, hk, hacc, hbefore⟩ := find?_eq_some_iff.mp h
    obtain ⟨hi, -⟩ := List.getElem?_eq_some_iff.mp hk
    rw [insert_of_find?_eq_some h]
    refine ⟨.inr ⟨k, hk, Cluster.accepts_iff.mp hacc⟩, ?_⟩
    rintro j (rfl | ⟨k', hk', hnear⟩)
    · exact Nat.le_of_lt hi
    · by_contra hlt
      exact hbefore j k' (Nat.not_le.mp hlt) hk' (Cluster.accepts_iff.mpr hnear)
  | none =>
    rw [insert_of_find?_eq_none h]
    refine ⟨.inl rfl, ?_⟩
    rintro j (rfl | ⟨k, hk, hnear⟩)
    · exact Nat.le_refl _
    · have hacc : k.accepts d.tolerance x := Cluster.accepts_iff.mpr hnear
      exact absurd hacc (find?_eq_none_iff.mp h k (List.mem_of_getElem? hk))

theorem getElem?_indices (d : Discovery) {n : Nat} (hx : xs[n]? = some x) :
    (d.insertAll xs).2[n]? = some ((d.insertAll (xs.take n)).1.insert x).2 := by
  induction xs generalizing d n with
  | nil => cases hx
  | cons y ys ih =>
    cases n with
    | zero =>
      obtain rfl : y = x := Option.some.inj hx
      rfl
    | succ n => exact ih (d.insert y).1 hx

theorem ofSamples_take_succ (t : Nat) {n : Nat} (hx : xs[n]? = some x) :
    ofSamples t (xs.take (n + 1)) = ((ofSamples t (xs.take n)).insert x).1 := by
  rw [List.take_add_one, hx, Option.toList_some, ofSamples, List.foldl_append]
  rfl

theorem clusters_merge_their_samples (t : Nat) (xs : List Color) (hn : xs.length < 2 ^ 56) :
    let run := (empty t).insertAll xs
    run.1 = ofSamples t xs ∧ run.2.length = xs.length ∧
      (∀ j, run.1.clusters[j]? = Cluster.ofSamples? ((empty t).received j xs)) ∧
      (∀ j < run.1.size, j ∈ run.2) ∧ run.2.eraseDups = List.range run.1.size ∧
      (run.1.clusters.map (·.weight.toNat)).sum = xs.length ∧
      ∀ n x, xs[n]? = some x →
        let before := ofSamples t (xs.take n)
        let after := ofSamples t (xs.take (n + 1))
        ∃ i, run.2[n]? = some i ∧ before.insert x = (after, i) ∧
          IsLeast {i | i = before.size ∨
            ∃ k, before.clusters[i]? = some k ∧ Color.Near t k.average x} i ∧
          ∀ j, j ≠ i → after.clusters[j]? = before.clusters[j]? := by
  intro run
  have hindices : run.2.eraseDups = List.range run.1.size := eraseDups_indices t xs
  refine ⟨(ofSamples_eq_insertAll t xs).symm, length_insertAll_snd _ xs,
    fun j => getElem?_insertAll_empty t j xs, ?_, hindices, sum_weights (Nat.le_of_lt hn), ?_⟩
  · intro j hj
    rw [← List.mem_eraseDups, hindices, List.mem_range]
    exact hj
  · intro n x hx before after
    have hafter : after = (before.insert x).1 := ofSamples_take_succ t hx
    have hindex : run.2[n]? = some (before.insert x).2 := by
      rw [getElem?_indices _ hx, ← ofSamples_eq_insertAll]
    have hleast := isLeast_insert before x
    rw [tolerance_ofSamples] at hleast
    refine ⟨(before.insert x).2, hindex, by rw [hafter], hleast, fun j hj => ?_⟩
    rw [hafter, getElem?_insert, if_neg hj]

-- The last sample is nearer to the second than to the first, which takes it.
def threeReds : List Color :=
  [⟨100, 100, 100⟩, ⟨115, 100, 100⟩, ⟨108, 100, 100⟩]

theorem clusters_merge_threeReds :
    threeReds.length < 2 ^ 56 ∧ ((empty 10).insertAll threeReds).2 = [0, 1, 0] ∧
      ((empty 10).insertAll threeReds).1.clusters[0]? =
        some ((Cluster.ofSample ⟨100, 100, 100⟩).merge ⟨108, 100, 100⟩) := by
  have hn : threeReds.length < 2 ^ 56 := by decide
  obtain ⟨-, -, hclusters, -⟩ := clusters_merge_their_samples 10 threeReds hn
  exact ⟨hn, by decide, hclusters 0⟩

end Discovery

end PaletteSnap
