import PaletteSnap.Discovery
import PaletteSnap.Proofs.Averaging

namespace PaletteSnap

def Cluster.receive : Option Cluster → Color → Cluster
  | some k, x => k.merge x
  | none, x => ofSample x

namespace Discovery

variable {d : Discovery} {x : Color} {i j : Nat}

theorem find?_eq_none_iff :
    d.find? x = none ↔ ∀ k ∈ d.clusters, ¬ k.accepts d.tolerance x := by
  simp [find?, List.findIdx?_eq_none_iff]

theorem find?_eq_some_iff :
    d.find? x = some i ↔ ∃ k, d.clusters[i]? = some k ∧ k.accepts d.tolerance x ∧
      ∀ j k, j < i → d.clusters[j]? = some k → ¬ k.accepts d.tolerance x := by
  rw [find?, List.findIdx?_eq_some_iff_getElem]
  constructor
  · rintro ⟨hi, hacc, hbefore⟩
    refine ⟨d.clusters[i], List.getElem?_eq_getElem hi, hacc, ?_⟩
    intro j k hj hk
    obtain ⟨hlt, rfl⟩ := List.getElem?_eq_some_iff.mp hk
    exact hbefore j hj
  · rintro ⟨k, hk, hacc, hbefore⟩
    obtain ⟨hi, rfl⟩ := List.getElem?_eq_some_iff.mp hk
    exact ⟨hi, hacc, fun j hj => hbefore j _ hj (List.getElem?_eq_getElem (Nat.lt_trans hj hi))⟩

theorem exists_find?_le {k : Cluster} (hk : d.clusters[i]? = some k)
    (hacc : k.accepts d.tolerance x) : ∃ j ≤ i, d.find? x = some j := by
  cases hf : d.find? x with
  | none => exact absurd hacc (find?_eq_none_iff.mp hf k (List.mem_of_getElem? hk))
  | some j =>
    obtain ⟨-, -, -, hbefore⟩ := find?_eq_some_iff.mp hf
    exact ⟨j, Nat.le_of_not_lt fun hlt => hbefore i k hlt hk hacc, rfl⟩

theorem insert_of_find?_eq_some (h : d.find? x = some i) :
    d.insert x = ({ d with clusters := d.clusters.modify i (·.merge x) }, i) := by
  rw [insert, h]

theorem insert_of_find?_eq_none (h : d.find? x = none) :
    d.insert x = ({ d with clusters := d.clusters ++ [Cluster.ofSample x] }, d.size) := by
  rw [insert, h]

theorem index_insert (d : Discovery) (x : Color) :
    (d.insert x).2 = (d.find? x).getD d.size := by
  cases h : d.find? x with
  | some i => rw [insert_of_find?_eq_some h, Option.getD_some]
  | none => rw [insert_of_find?_eq_none h, Option.getD_none]

theorem find?_of_index_insert {k : Cluster} (hk : d.clusters[i]? = some k)
    (hi : (d.insert x).2 = i) : d.find? x = some i := by
  rw [index_insert] at hi
  cases h : d.find? x with
  | some j => rw [← hi, h, Option.getD_some]
  | none =>
    obtain ⟨hlt, -⟩ := List.getElem?_eq_some_iff.mp hk
    rw [h, Option.getD_none, size] at hi
    exact absurd hi (Nat.ne_of_gt hlt)

theorem accepts_of_index_insert {k : Cluster} (hk : d.clusters[i]? = some k)
    (hi : (d.insert x).2 = i) : k.accepts d.tolerance x := by
  obtain ⟨k', hk', hacc, -⟩ := find?_eq_some_iff.mp (find?_of_index_insert hk hi)
  exact Option.some.inj (hk.symm.trans hk') ▸ hacc

theorem getElem?_insert (d : Discovery) (x : Color) (j : Nat) :
    (d.insert x).1.clusters[j]? =
      if j = (d.insert x).2 then some (Cluster.receive d.clusters[j]? x) else d.clusters[j]? := by
  cases h : d.find? x with
  | some i =>
    obtain ⟨k, hk, -⟩ := find?_eq_some_iff.mp h
    rw [insert_of_find?_eq_some h]
    by_cases hj : j = i
    · subst hj
      simp [hk, Cluster.receive]
    · simp [hj, Ne.symm hj]
  | none =>
    rw [insert_of_find?_eq_none h]
    change (d.clusters ++ [Cluster.ofSample x])[j]? = if j = d.clusters.length then _ else _
    rcases Nat.lt_trichotomy j d.clusters.length with hj | hj | hj
    · rw [List.getElem?_append_left hj, if_neg (Nat.ne_of_lt hj)]
    · subst hj
      simp [Cluster.receive]
    · rw [if_neg (Nat.ne_of_gt hj), List.getElem?_eq_none (by simp; omega),
        List.getElem?_eq_none (by omega)]

def WeightsAtMost (n : Nat) (d : Discovery) : Prop :=
  ∀ (j : Nat) (k : Cluster), d.clusters[j]? = some k → k.weight.toNat ≤ n

theorem weightsAtMost_empty (t n : Nat) : (empty t).WeightsAtMost n := by
  simp [WeightsAtMost, empty]

theorem WeightsAtMost.insert {n : Nat} (hn : n < 2 ^ 56) (h : d.WeightsAtMost n) (x : Color) :
    (d.insert x).1.WeightsAtMost (n + 1) := by
  intro j k hk
  rw [getElem?_insert] at hk
  split at hk
  · cases hj : d.clusters[j]? with
    | none =>
      simp only [hj, Cluster.receive, Option.some.injEq] at hk
      simp [← hk, Cluster.ofSample]
    | some k₀ =>
      simp only [hj, Cluster.receive, Option.some.injEq] at hk
      have hle : k₀.weight.toNat ≤ n := h j k₀ hj
      rw [← hk, Cluster.toNat_weight_merge (by omega)]
      exact Nat.succ_le_succ hle
  · exact Nat.le_succ_of_le (h j k hk)

theorem accepts_receive {n : Nat} (hn : n < 2 ^ 56) (h : d.WeightsAtMost n) (x : Color) :
    (Cluster.receive d.clusters[(d.insert x).2]? x).accepts d.tolerance x := by
  cases hf : d.find? x with
  | none =>
    rw [insert_of_find?_eq_none hf]
    simp [size, Cluster.receive, Cluster.ofSample, Cluster.accepts, Color.near_self]
  | some i =>
    obtain ⟨k, hk, hacc, -⟩ := find?_eq_some_iff.mp hf
    rw [insert_of_find?_eq_some hf]
    simp only [hk, Cluster.receive]
    exact Cluster.accepts_merge (Nat.lt_of_le_of_lt (h i k hk) hn) hacc

theorem insertAll_append (d : Discovery) (xs ys : List Color) :
    d.insertAll (xs ++ ys) =
      (((d.insertAll xs).1.insertAll ys).1,
        (d.insertAll xs).2 ++ ((d.insertAll xs).1.insertAll ys).2) := by
  induction xs generalizing d with
  | nil => rfl
  | cons x xs ih => simp [insertAll, ih]

def received (d : Discovery) (j : Nat) (samples : List Color) : List Color :=
  ((samples.zip (d.insertAll samples).2).filter (·.2 = j)).map (·.1)

theorem received_cons (d : Discovery) (j : Nat) (x : Color) (xs : List Color) :
    d.received j (x :: xs) =
      if (d.insert x).2 = j then x :: (d.insert x).1.received j xs
      else (d.insert x).1.received j xs := by
  simp only [received, insertAll, List.zip_cons_cons, List.filter_cons, decide_eq_true_eq]
  split <;> simp

theorem received_concat (d : Discovery) (j : Nat) (xs : List Color) (x : Color) :
    d.received j (xs ++ [x]) =
      d.received j xs ++ if ((d.insertAll xs).1.insert x).2 = j then [x] else [] := by
  have hlen : xs.length = (d.insertAll xs).2.length := (length_insertAll_snd d xs).symm
  rw [received, insertAll_append, List.zip_append hlen, List.filter_append, List.map_append]
  by_cases h : ((d.insertAll xs).1.insert x).2 = j <;> simp [received, insertAll, h]

theorem exists_mem_received {xs : List Color} (d : Discovery) (hx : x ∈ xs) :
    ∃ j, x ∈ d.received j xs := by
  induction xs generalizing d with
  | nil => cases hx
  | cons y ys ih =>
    rcases List.mem_cons.mp hx with rfl | hys
    · refine ⟨(d.insert x).2, ?_⟩
      rw [received_cons, if_pos rfl]
      exact List.mem_cons_self
    · obtain ⟨j, hj⟩ := ih (d.insert y).1 hys
      refine ⟨j, ?_⟩
      rw [received_cons]
      split
      · exact List.mem_cons_of_mem y hj
      · exact hj

theorem mem_of_mem_received {xs : List Color} (h : x ∈ d.received j xs) : x ∈ xs := by
  simp only [received, List.mem_map, List.mem_filter] at h
  obtain ⟨p, ⟨hp, -⟩, rfl⟩ := h
  exact (List.of_mem_zip hp).1

theorem getElem?_insertAll (d : Discovery) (j : Nat) (xs : List Color) :
    (d.insertAll xs).1.clusters[j]? =
      (d.received j xs).foldl (fun k x => some (Cluster.receive k x)) d.clusters[j]? := by
  induction xs generalizing d with
  | nil => rfl
  | cons x xs ih =>
    have hstep := getElem?_insert d x j
    rw [received_cons]
    simp only [insertAll, ih, hstep]
    by_cases h : (d.insert x).2 = j
    · simp [h]
    · simp [h, Ne.symm h]

theorem exists_cluster_of_mem_received {xs : List Color} (h : x ∈ d.received j xs) :
    ∃ k, (d.insertAll xs).1.clusters[j]? = some k := by
  rw [getElem?_insertAll]
  rcases List.eq_nil_or_concat (d.received j xs) with hr | ⟨ys, y, hr⟩
  · rw [hr] at h
    cases h
  · rw [hr, List.concat_eq_append, List.foldl_append]
    exact ⟨_, rfl⟩

theorem accepts_getLast?_received {n : Nat} {xs : List Color} (h : d.WeightsAtMost n)
    (hn : n + xs.length ≤ 2 ^ 56) {k : Cluster} (hk : (d.insertAll xs).1.clusters[j]? = some k)
    {p : Color} (hp : (d.received j xs).getLast? = some p) : k.accepts d.tolerance p := by
  induction xs generalizing d n with
  | nil => simp [received] at hp
  | cons x xs ih =>
    rw [List.length_cons] at hn
    have hlt : n < 2 ^ 56 := by omega
    have hnext := h.insert hlt x
    rw [received_cons] at hp
    cases hr : (d.insert x).1.received j xs with
    | nil =>
      -- nothing comes after `x`, so the cluster is the one that received it
      rw [insertAll, getElem?_insertAll, hr, List.foldl_nil, getElem?_insert] at hk
      rw [hr] at hp
      split at hp
      next hj =>
        subst hj
        rw [if_pos rfl, Option.some.injEq] at hk
        obtain rfl : x = p := by simpa using hp
        exact hk ▸ accepts_receive hlt h x
      next => simp at hp
    | cons y ys =>
      have hlast : ((d.insert x).1.received j xs).getLast? = some p := by
        rw [hr] at hp ⊢
        split at hp
        · rwa [List.getLast?_cons_cons] at hp
        · exact hp
      rw [← tolerance_insert d x]
      exact ih hnext (by omega) hk hlast

theorem holds_receive {b : Box} {n : Nat} (hn : n < 2 ^ 56) (h : d.WeightsAtMost n)
    (hstart : ∀ k, d.clusters[j]? = some k → b.Holds k.average) (hx : b.Holds x) :
    b.Holds (Cluster.receive d.clusters[j]? x).average := by
  cases hk : d.clusters[j]? with
  | none => exact hx
  | some k => exact Box.holds_merge (Nat.lt_of_le_of_lt (h j k hk) hn) (hstart k hk) hx

theorem holds_average_insertAll {b : Box} {n : Nat} {xs : List Color} (h : d.WeightsAtMost n)
    (hn : n + xs.length ≤ 2 ^ 56) (hstart : ∀ k, d.clusters[j]? = some k → b.Holds k.average)
    (hxs : ∀ x ∈ d.received j xs, b.Holds x) {k : Cluster}
    (hk : (d.insertAll xs).1.clusters[j]? = some k) : b.Holds k.average := by
  induction xs generalizing d n with
  | nil => exact hstart k hk
  | cons x xs ih =>
    rw [List.length_cons] at hn
    have hlt : n < 2 ^ 56 := by omega
    rw [received_cons] at hxs
    refine ih (h.insert hlt x) (by omega) ?_ ?_ hk
    · intro k' hk'
      rw [getElem?_insert] at hk'
      split at hk'
      next hj =>
        rw [if_pos hj.symm] at hxs
        rw [← Option.some.inj hk']
        exact holds_receive hlt h hstart (hxs x List.mem_cons_self)
      next => exact hstart k' hk'
    · intro y hy
      refine hxs y ?_
      split
      · exact List.mem_cons_of_mem x hy
      · exact hy

theorem ofSamples_eq_insertAll (t : Nat) (xs : List Color) :
    ofSamples t xs = ((empty t).insertAll xs).1 :=
  (insertAll_fst _ _).symm

theorem holds_average_ofSamples {t : Nat} {xs : List Color} {b : Box} {k : Cluster}
    (hn : xs.length < 2 ^ 56) (hk : (ofSamples t xs).clusters[j]? = some k)
    (hxs : ∀ y ∈ (empty t).received j xs, b.Holds y) : b.Holds k.average := by
  rw [ofSamples_eq_insertAll] at hk
  exact holds_average_insertAll (weightsAtMost_empty t 0) (by omega) (by simp [empty]) hxs hk

theorem near_average_ofSamples {t r : Nat} {xs : List Color} {c : Color} {k : Cluster}
    (hn : xs.length < 2 ^ 56) (hk : (ofSamples t xs).clusters[j]? = some k)
    (hc : ∀ y ∈ (empty t).received j xs, Color.Near r c y) : Color.Near r k.average c := by
  have hheld : (Box.around r c).Holds k.average :=
    holds_average_ofSamples hn hk fun y hy => Box.holds_around_iff.mpr (hc y hy)
  exact Color.near_comm.mp (Box.holds_around_iff.mp hheld)

theorem exists_getLast?_received {t : Nat} {xs : List Color} {k : Cluster}
    (hk : (ofSamples t xs).clusters[j]? = some k) :
    ∃ p, ((empty t).received j xs).getLast? = some p := by
  rw [ofSamples_eq_insertAll, getElem?_insertAll] at hk
  cases hr : (empty t).received j xs with
  | nil =>
    rw [hr] at hk
    simp [empty] at hk
  | cons y ys => exact ⟨_, List.getLast?_eq_some_getLast (List.cons_ne_nil y ys)⟩

theorem tolerance_ofSamples (t : Nat) (xs : List Color) : (ofSamples t xs).tolerance = t := by
  rw [ofSamples_eq_insertAll]
  suffices h : ∀ d : Discovery, (d.insertAll xs).1.tolerance = d.tolerance from h _
  induction xs with
  | nil => exact fun _ => rfl
  | cons x xs ih => exact fun d => (ih _).trans (tolerance_insert d x)

end Discovery

end PaletteSnap
