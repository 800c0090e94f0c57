import Mathlib.Data.List.Induction
import Mathlib.Data.List.Nodup
import PaletteSnap.Proofs.Reception

namespace PaletteSnap

section FirstOccurrence

variable {α : Type*} [DecidableEq α]

theorem count_concat_of_ne (xs : List α) {x a : α} (h : x ≠ a) :
    (xs ++ [x]).count a = xs.count a := by
  simp [List.count_append, h]

theorem eraseDups_concat (xs : List α) (x : α) :
    (xs ++ [x]).eraseDups = if x ∈ xs then xs.eraseDups else xs.eraseDups ++ [x] := by
  rw [List.eraseDups_append]
  by_cases h : x ∈ xs <;> simp [List.removeAll, h, List.eraseDups_cons]

theorem nodup_eraseDups (xs : List α) : xs.eraseDups.Nodup := by
  induction xs using List.reverseRecOn with
  | nil => simp
  | append_singleton xs x ih =>
    rw [eraseDups_concat]
    split
    next => exact ih
    next h =>
      refine List.nodup_append'.mpr ⟨ih, List.nodup_singleton x, ?_⟩
      simpa [List.mem_eraseDups] using h

theorem idxOf_eraseDups_lt_iff {xs : List α} {a b : α} (ha : a ∈ xs) (hb : b ∈ xs) :
    xs.eraseDups.idxOf a < xs.eraseDups.idxOf b ↔ xs.idxOf a < xs.idxOf b := by
  induction xs using List.reverseRecOn with
  | nil => simp at ha
  | append_singleton xs x ih =>
    have hlt {c : α} (hc : c ∈ xs) : xs.idxOf c < xs.length := List.idxOf_lt_length_iff.mpr hc
    have hlt' {c : α} (hc : c ∈ xs) : xs.eraseDups.idxOf c < xs.eraseDups.length :=
      List.idxOf_lt_length_iff.mpr (List.mem_eraseDups.mpr hc)
    have hx {c : α} (hc : c ∈ xs ++ [x]) (hn : c ∉ xs) : c = x := by simpa [hn] using hc
    rw [eraseDups_concat]
    by_cases hxs : x ∈ xs
    · have hall {c : α} (hc : c ∈ xs ++ [x]) : c ∈ xs := by
        by_cases hn : c ∈ xs
        · exact hn
        · exact hx hc hn ▸ hxs
      rw [if_pos hxs, List.idxOf_append_of_mem (hall ha), List.idxOf_append_of_mem (hall hb)]
      exact ih (hall ha) (hall hb)
    · have hmem {c : α} : c ∈ xs.eraseDups ↔ c ∈ xs := List.mem_eraseDups
      rw [if_neg hxs]
      by_cases ha' : a ∈ xs <;> by_cases hb' : b ∈ xs <;>
        simp only [List.idxOf_append, hmem, ha', hb', if_true, if_false]
      · exact ih ha' hb'
      · have := hlt ha'
        have := hlt' ha'
        omega
      · have := hlt hb'
        have := hlt' hb'
        omega
      · rw [hx ha ha', hx hb hb']
        simp

end FirstOccurrence

variable {α : Type*} [DecidableEq α]

structure Separated (tolerance : Nat) (box : α → Box) (labels : List α) : Prop where
  narrow : ∀ a ∈ labels, (box a).Narrow tolerance
  apart : ∀ a ∈ labels, ∀ b ∈ labels, a ≠ b → (box a).Apart tolerance (box b)

namespace Discovery

structure Tracks (box : α → Box) (seen : List α) (d : Discovery) : Prop where
  size : d.size = seen.eraseDups.length
  held : ∀ (j : Nat) (a : α) (k : Cluster), seen.eraseDups[j]? = some a →
    d.clusters[j]? = some k → (box a).Holds k.average ∧ k.weight.toNat = seen.count a

variable {t : Nat} {box : α → Box} {labels seen : List α} {d : Discovery} {a : α} {x : Color}

theorem Tracks.exists_label (ht : Tracks box seen d) {j : Nat} {k : Cluster}
    (hk : d.clusters[j]? = some k) :
    ∃ b ∈ seen, seen.eraseDups[j]? = some b := by
  obtain ⟨hj, -⟩ := List.getElem?_eq_some_iff.mp hk
  have hlt : j < seen.eraseDups.length := ht.size ▸ hj
  exact ⟨seen.eraseDups[j], List.mem_eraseDups.mp (List.getElem_mem hlt),
    List.getElem?_eq_getElem hlt⟩

theorem Tracks.exists_cluster (ht : Tracks box seen d) (ha : a ∈ seen) :
    ∃ k, d.clusters[seen.eraseDups.idxOf a]? = some k ∧ (box a).Holds k.average ∧
      k.weight.toNat = seen.count a := by
  have hmem : a ∈ seen.eraseDups := List.mem_eraseDups.mpr ha
  have hlt : seen.eraseDups.idxOf a < d.clusters.length := by
    rw [← Discovery.size, ht.size]
    exact List.idxOf_lt_length_iff.mpr hmem
  have hk := List.getElem?_eq_getElem hlt
  exact ⟨_, hk, ht.held _ _ _ (List.getElem?_idxOf hmem) hk⟩

theorem Tracks.accepts_iff (ht : Tracks box seen d) (hsep : Separated d.tolerance box labels)
    (hseen : seen ⊆ labels) (ha : a ∈ labels) (hx : (box a).Holds x) {j : Nat} {b : α}
    {k : Cluster} (hb : seen.eraseDups[j]? = some b) (hk : d.clusters[j]? = some k) :
    k.accepts d.tolerance x ↔ b = a := by
  have hbl : b ∈ labels := hseen (List.mem_eraseDups.mp (List.mem_of_getElem? hb))
  obtain ⟨hheld, -⟩ := ht.held j b k hb hk
  rw [Cluster.accepts_iff]
  constructor
  · intro hnear
    by_contra hne
    exact (hsep.apart b hbl a ha hne).not_near hheld hx hnear
  · rintro rfl
    exact (hsep.narrow b hbl).near hheld hx

theorem Tracks.find?_of_mem (ht : Tracks box seen d) (hsep : Separated d.tolerance box labels)
    (hseen : seen ⊆ labels) (ha : a ∈ seen) (hx : (box a).Holds x) :
    d.find? x = some (seen.eraseDups.idxOf a) := by
  have hlabel := List.getElem?_idxOf (List.mem_eraseDups.mpr ha)
  obtain ⟨k, hk, -⟩ := ht.exists_cluster ha
  refine find?_eq_some_iff.mpr ⟨k, hk,
    (ht.accepts_iff hsep hseen (hseen ha) hx hlabel hk).mpr rfl, ?_⟩
  intro j k' hj hk' hacc
  obtain ⟨b, -, hb⟩ := ht.exists_label hk'
  obtain rfl := (ht.accepts_iff hsep hseen (hseen ha) hx hb hk').mp hacc
  obtain ⟨hlt', rfl⟩ := List.getElem?_eq_some_iff.mp hb
  rw [(nodup_eraseDups seen).idxOf_getElem j hlt'] at hj
  exact Nat.lt_irrefl j hj

theorem Tracks.find?_of_not_mem (ht : Tracks box seen d) (hsep : Separated d.tolerance box labels)
    (hseen : seen ⊆ labels) (ha : a ∈ labels) (hnew : a ∉ seen) (hx : (box a).Holds x) :
    d.find? x = none := by
  refine find?_eq_none_iff.mpr fun k hk hacc => ?_
  obtain ⟨j, hj⟩ := List.getElem?_of_mem hk
  obtain ⟨b, hb, hjb⟩ := ht.exists_label hj
  obtain rfl := (ht.accepts_iff hsep hseen ha hx hjb hj).mp hacc
  exact hnew hb

theorem tracks_empty (t : Nat) : Tracks box [] (empty t) :=
  ⟨rfl, fun j a k h => by simp at h⟩

theorem Tracks.weight_lt (ht : Tracks box seen d) (hn : seen.length < 2 ^ 56) {j : Nat}
    {k : Cluster} (hk : d.clusters[j]? = some k) : k.weight.toNat < 2 ^ 56 := by
  obtain ⟨b, -, hb⟩ := ht.exists_label hk
  rw [(ht.held j b k hb hk).2]
  exact Nat.lt_of_le_of_lt List.count_le_length hn

theorem Tracks.insert_of_mem (ht : Tracks box seen d) (hsep : Separated d.tolerance box labels)
    (hseen : seen ⊆ labels) (hn : seen.length < 2 ^ 56) (ha : a ∈ seen) (hx : (box a).Holds x) :
    Tracks box (seen ++ [a]) (d.insert x).1 := by
  have hfind := ht.find?_of_mem hsep hseen ha hx
  have hdups : (seen ++ [a]).eraseDups = seen.eraseDups := by rw [eraseDups_concat, if_pos ha]
  have hindex : (d.insert x).2 = seen.eraseDups.idxOf a := by
    rw [insert_of_find?_eq_some hfind]
  refine ⟨?_, ?_⟩
  · rw [hdups, ← ht.size, insert_of_find?_eq_some hfind]
    simp [Discovery.size]
  · intro j b k hb hk
    rw [hdups] at hb
    rw [getElem?_insert, hindex] at hk
    obtain ⟨hjlt, hbj⟩ := List.getElem?_eq_some_iff.mp hb
    by_cases hj : j = seen.eraseDups.idxOf a
    · -- the receiving cluster is the one of the label `a`
      subst hj
      obtain rfl : a = b := by rw [← hbj, List.getElem_idxOf]
      obtain ⟨k₀, hk₀, hheld, hweight⟩ := ht.exists_cluster ha
      rw [if_pos rfl, hk₀, Option.some.injEq] at hk
      have hw := ht.weight_lt hn hk₀
      rw [← hk, Cluster.receive, Cluster.toNat_weight_merge (by omega), hweight]
      exact ⟨Box.holds_merge hw hheld hx, by simp⟩
    · have hne : a ≠ b := by
        rintro rfl
        rw [← hbj, (nodup_eraseDups seen).idxOf_getElem j hjlt] at hj
        exact hj rfl
      rw [if_neg hj] at hk
      obtain ⟨hheld, hweight⟩ := ht.held j b k hb hk
      exact ⟨hheld, hweight.trans (count_concat_of_ne seen hne).symm⟩

theorem Tracks.insert_of_not_mem (ht : Tracks box seen d)
    (hsep : Separated d.tolerance box labels) (hseen : seen ⊆ labels) (ha : a ∈ labels)
    (hnew : a ∉ seen) (hx : (box a).Holds x) : Tracks box (seen ++ [a]) (d.insert x).1 := by
  have hfind := ht.find?_of_not_mem hsep hseen ha hnew hx
  have hdups : (seen ++ [a]).eraseDups = seen.eraseDups ++ [a] := by
    rw [eraseDups_concat, if_neg hnew]
  have hsize : d.clusters.length = seen.eraseDups.length := ht.size
  rw [insert_of_find?_eq_none hfind]
  refine ⟨by simp [Discovery.size, hdups, hsize], ?_⟩
  intro j b k hb hk
  rw [hdups] at hb
  change (d.clusters ++ [Cluster.ofSample x])[j]? = some k at hk
  rcases Nat.lt_or_ge j seen.eraseDups.length with hj | hj
  · rw [List.getElem?_append_left hj] at hb
    rw [List.getElem?_append_left (hsize ▸ hj)] at hk
    obtain ⟨hheld, hweight⟩ := ht.held j b k hb hk
    have hne : a ≠ b := by
      rintro rfl
      exact hnew (List.mem_eraseDups.mp (List.mem_of_getElem? hb))
    exact ⟨hheld, hweight.trans (count_concat_of_ne seen hne).symm⟩
  · rw [List.getElem?_append_right hj, List.getElem?_singleton] at hb
    rw [List.getElem?_append_right (hsize ▸ hj), List.getElem?_singleton, hsize] at hk
    split at hb
    next hz =>
      rw [if_pos hz] at hk
      obtain rfl : a = b := by simpa using hb
      obtain rfl : Cluster.ofSample x = k := by simpa using hk
      exact ⟨hx, by simp [Cluster.ofSample, List.count_eq_zero_of_not_mem hnew]⟩
    next => simp at hb

theorem Tracks.insert (ht : Tracks box seen d) (hsep : Separated d.tolerance box labels)
    (hseen : seen ⊆ labels) (hn : seen.length < 2 ^ 56) (ha : a ∈ labels)
    (hx : (box a).Holds x) : Tracks box (seen ++ [a]) (d.insert x).1 := by
  by_cases hmem : a ∈ seen
  · exact ht.insert_of_mem hsep hseen hn hmem hx
  · exact ht.insert_of_not_mem hsep hseen ha hmem hx

theorem tracks_ofSamples (hsep : Separated t box labels) (samples : List (α × Color))
    (hlabels : ∀ s ∈ samples, s.1 ∈ labels ∧ (box s.1).Holds s.2)
    (hn : samples.length < 2 ^ 56) :
    Tracks box (samples.map Prod.fst) (ofSamples t (samples.map Prod.snd)) := by
  induction samples using List.reverseRecOn with
  | nil => exact tracks_empty t
  | append_singleton samples s ih =>
    simp only [List.mem_append, List.mem_singleton] at hlabels
    rw [List.length_append] at hn
    have ht := ih (fun s' h => hlabels s' (.inl h)) (by omega)
    have hseen : samples.map Prod.fst ⊆ labels := by
      intro a ha
      obtain ⟨s', hs', rfl⟩ := List.mem_map.mp ha
      exact (hlabels s' (.inl hs')).1
    obtain ⟨ha, hx⟩ := hlabels s (.inr rfl)
    rw [List.map_append, List.map_append, ofSamples, List.foldl_append]
    rw [← tolerance_ofSamples t (samples.map Prod.snd)] at hsep
    exact ht.insert hsep hseen (by rw [List.length_map]; omega) ha hx

end Discovery

end PaletteSnap
