import PaletteSnap.Proofs.Annotation
import PaletteSnap.Proofs.Ratchet

namespace PaletteSnap

theorem Discovery.exists_level_insertAll {d : Discovery} {i : Nat} {k : Cluster}
    (xs : List Color) (hk : d.clusters[i]? = some k) :
    ∃ k', (d.insertAll xs).1.clusters[i]? = some k' ∧ k'.level = k.level := by
  induction xs generalizing d k with
  | nil => exact ⟨k, hk, rfl⟩
  | cons x xs ih =>
    rcases getElem?_insert_of_some hk x with hsame | ⟨-, hmerged⟩
    · exact ih hsame
    · obtain ⟨k', hk', hlevel⟩ := ih hmerged
      exact ⟨k', hk', hlevel⟩

namespace Buckets

variable {b : Buckets} {d : Discovery} {h : Hue} {i margin : Nat}

theorem levelAt_insertAll (xs : List Color) (hi : i < d.size) :
    levelAt (d.insertAll xs).1 i = levelAt d i := by
  have hk := List.getElem?_eq_getElem hi
  obtain ⟨k', hk', hlevel⟩ := Discovery.exists_level_insertAll xs hk
  rw [levelAt, levelAt, hk, hk']
  exact hlevel

theorem sortByLevel_eq_self
    (hsorted : ∀ h, h.isChromatic →
      (b.members h).Pairwise fun i j => levelAt d i ≤ levelAt d j) :
    b.sortByLevel d = b := by
  apply Buckets.ext
  funext h
  by_cases hh : h.isChromatic
  · rw [members_sortByLevel_of_chromatic d b hh, sortByKey_of_pairwise (hsorted h hh)]
  · exact members_sortByLevel_of_gray d b hh

theorem sortByLevel_again (hfits : b.Fits d.size) (hasc : ∀ h, (b.members h).Pairwise (· < ·))
    (xs : List Color) :
    (b.sortByLevel d).sortByLevel (d.insertAll xs).1 = b.sortByLevel d := by
  apply sortByLevel_eq_self
  intro h hh
  have hbefore := pairwise_sortByKey (levelAt d) (hasc h)
  rw [← members_sortByLevel_of_chromatic d b hh] at hbefore
  refine hbefore.imp_of_mem ?_
  intro i j hi hj hij
  have hfits' := hfits.sortByLevel d
  rw [levelAt_insertAll xs (hfits'.lt h i hi), levelAt_insertAll xs (hfits'.lt h j hj)]
  exact hij.le

theorem mem_members_classify {k : Cluster} (hk : d.clusters[i]? = some k) :
    i ∈ (classify margin d).2.members h ↔ h = k.average.family margin := by
  change i ∈ d.familyIndices margin h ↔ _
  rw [Discovery.mem_familyIndices]
  constructor
  · rintro ⟨k', hk', rfl⟩
    rw [Option.some.inj (hk.symm.trans hk')]
  · rintro rfl
    exact ⟨k, hk, rfl⟩

theorem count_members_classify {k : Cluster} (hk : d.clusters[i]? = some k) (h : Hue) :
    ((classify margin d).2.members h).count i =
      if h = k.average.family margin then 1 else 0 := by
  rw [((fits_classify margin d).nodup h).count]
  exact if_congr (mem_members_classify hk) rfl rfl

theorem classified_buckets_sort_once (margin : Nat) (d : Discovery) :
    let marked := (classify margin d).1
    let grouped := (classify margin d).2
    let sorted := grouped.sortByLevel marked
    (marked.size = d.size ∧ ∀ i < marked.size, ∃ k h, marked.clusters[i]? = some k ∧
      k.family = some h ∧ k.average.classify margin = ⟨h, k.level⟩ ∧
        ∀ h', (grouped.members h').count i = if h' = h then 1 else 0) ∧
      (∀ h, (∀ i ∈ grouped.members h, i < marked.size) ∧
        (grouped.members h).Pairwise (· < ·)) ∧
      (∀ h, h.isChromatic → (sorted.members h).Perm (grouped.members h) ∧
        (sorted.members h).Pairwise (Before (levelAt marked))) ∧
      (∀ h, ¬ h.isChromatic → sorted.members h = grouped.members h) ∧
      sorted.sortByLevel marked = sorted ∧
      ∀ xs, sorted.sortByLevel (marked.insertAll xs).1 = sorted := by
  intro marked grouped sorted
  have hsize : marked.size = d.size := (Discovery.agrees_classify margin d).size_eq
  have hfits : grouped.Fits marked.size := hsize ▸ fits_classify margin d
  have hasc (h : Hue) : (grouped.members h).Pairwise (· < ·) := pairwise_indicesOf _ h
  have hagain (xs : List Color) : sorted.sortByLevel (marked.insertAll xs).1 = sorted :=
    sortByLevel_again hfits hasc xs
  refine ⟨⟨hsize, fun i hi => ?_⟩, fun h => ⟨hfits.lt h, hasc h⟩, fun h hh => ⟨?_, ?_⟩,
    fun h hh => members_sortByLevel_of_gray marked grouped hh, hagain [], hagain⟩
  · rw [hsize] at hi
    have hk := List.getElem?_eq_getElem hi
    refine ⟨mark margin d.clusters[i], _, ?_, rfl, rfl, count_members_classify hk⟩
    change (d.clusters.map (mark margin))[i]? = _
    rw [List.getElem?_map, hk, Option.map_some]
  · exact perm_members_sortByLevel marked grouped h
  · rw [members_sortByLevel_of_chromatic marked grouped hh]
    exact pairwise_sortByKey _ (hasc h)

end Buckets

end PaletteSnap
