import PaletteSnap.Proofs.Coverage

namespace PaletteSnap

namespace Discovery

variable {t i j : Nat} {xs : List Color} {x : Color}

def placed (t : Nat) (xs : List Color) : List (Color × Nat) :=
  xs.zip ((empty t).insertAll xs).2

def Compact (t : Nat) (xs : List Color) : Prop :=
  ∀ p ∈ placed t xs, ∀ q ∈ placed t xs, p.2 = q.2 → Color.Near t p.1 q.1

instance (t : Nat) (xs : List Color) : Decidable (Compact t xs) :=
  inferInstanceAs (Decidable (∀ p ∈ _, ∀ q ∈ _, _ → _))

theorem mem_received_iff : x ∈ (empty t).received j xs ↔ (x, j) ∈ placed t xs := by
  simp [received, placed]

theorem mem_of_mem_placed (h : (x, i) ∈ placed t xs) : x ∈ xs :=
  (List.of_mem_zip h).1

theorem exists_mem_placed (t : Nat) (hx : x ∈ xs) : ∃ i, (x, i) ∈ placed t xs := by
  obtain ⟨i, hi⟩ := (empty t).exists_mem_received hx
  exact ⟨i, mem_received_iff.mp hi⟩

theorem exists_cluster_of_mem_placed (h : (x, i) ∈ placed t xs) :
    ∃ k, (ofSamples t xs).clusters[i]? = some k := by
  rw [ofSamples_eq_insertAll]
  exact exists_cluster_of_mem_received (mem_received_iff.mpr h)

theorem Compact.exists_find?_le (hc : Compact t xs) (hn : xs.length < 2 ^ 56)
    (h : (x, i) ∈ placed t xs) : ∃ j ≤ i, (ofSamples t xs).find? x = some j := by
  obtain ⟨k, hk⟩ := exists_cluster_of_mem_placed h
  have hall : ∀ y ∈ (empty t).received i xs, Color.Near t x y := by
    intro y hy
    exact hc (x, i) h (y, i) (mem_received_iff.mp hy) rfl
  have hnear : Color.Near t k.average x := near_average_ofSamples hn hk hall
  refine Discovery.exists_find?_le hk (Cluster.accepts_iff.mpr ?_)
  rwa [tolerance_ofSamples]

end Discovery

namespace Snapper

variable {s : Snapper} {pixels : List Color} {x : Color} {i : Nat}

theorem exists_color_of_find? {d : Discovery} (hfit : d.FamiliesFit s.margin)
    (hi : d.find? x = some i) :
    ∃ k c, (s.legend d).discovery.clusters[i]? = some k ∧ k.reference = some c ∧
      (s.legend d).colorFor? x = some c := by
  obtain ⟨k₀, hk₀, -⟩ := Discovery.find?_eq_some_iff.mp hi
  obtain ⟨c, -, hk⟩ := exists_color_at_place hfit hk₀
  exact ⟨_, c, hk, rfl, colorFor?_eq_some_iff.mpr ⟨i, _, hi, hk, rfl⟩⟩

theorem result_snap_ne_unmatchedPixel (hall : ∀ x ∈ pixels, ¬ s.OutOfReach pixels x)
    (w h i : Nat) : (s.snap pixels w h).result ≠ .error (.unmatchedPixel i) := by
  by_cases hpass : pixels.length = w * h ∧ s.Passes pixels
  · have hnone : (s.legend (.ofSamples s.tolerance pixels)).firstMiss? pixels = none := by
      rw [Legend.firstMiss?_eq_none_iff]
      intro x hx hmiss
      exact hall x hx ((colorFor?_eq_none_iff_outOfReach hpass.2).mp hmiss)
    simp [result_snap_of_passes hpass.1 hpass.2, hnone]
  · obtain ⟨e, he, hne⟩ := result_snap_of_not_passes hpass
    rw [he]
    intro h
    exact hne i (Except.error.inj h)

theorem compact_scan_is_covered {t : Nat} {xs : List Color} (hn : xs.length < 2 ^ 56)
    (hc : Discovery.Compact t xs) :
    (∀ x i, (x, i) ∈ Discovery.placed t xs →
      ∃ j ≤ i, (Discovery.ofSamples t xs).find? x = some j) ∧
    ∀ s : Snapper, s.tolerance = t →
      (∀ m, (s.analyze xs).result = .ok m → ∀ x i, (x, i) ∈ Discovery.placed t xs →
        ∃ j ≤ i, m.discovery.find? x = some j ∧ ∃ k c, m.discovery.clusters[j]? = some k ∧
          k.reference = some c ∧ m.colorFor? x = some c) ∧
      ∀ w h i, (s.snap xs w h).result ≠ .error (.unmatchedPixel i) := by
  refine ⟨fun x i h => hc.exists_find?_le hn h, ?_⟩
  rintro s rfl
  constructor
  · intro m hm x i h
    obtain ⟨hpass, rfl⟩ := result_analyze_eq_ok_iff.mp hm
    obtain ⟨j, hj, hfind⟩ := hc.exists_find?_le hn h
    refine ⟨j, hj, ?_, exists_color_of_find? hpass.families hfind⟩
    rw [find?_legend]
    exact hfind
  · refine result_snap_ne_unmatchedPixel fun x hx hout => ?_
    obtain ⟨i, hi⟩ := Discovery.exists_mem_placed s.tolerance hx
    obtain ⟨j, -, hfind⟩ := hc.exists_find?_le hn hi
    obtain ⟨k, hk, hacc, -⟩ := Discovery.find?_eq_some_iff.mp hfind
    rw [Discovery.tolerance_ofSamples] at hacc
    exact hout k (List.mem_of_getElem? hk) (Cluster.accepts_iff.mp hacc)

-- The third gray moves the first cluster so far that it takes the second gray as well.
def threeGrays : List Color :=
  [⟨100, 100, 100⟩, ⟨111, 111, 111⟩, ⟨110, 110, 110⟩]

theorem compact_scan_threeGrays :
    threeGrays.length < 2 ^ 56 ∧ Discovery.Compact 10 threeGrays ∧
      Discovery.placed 10 threeGrays =
        [(⟨100, 100, 100⟩, 0), (⟨111, 111, 111⟩, 1), (⟨110, 110, 110⟩, 0)] ∧
      (∃ j ≤ 1, (Discovery.ofSamples 10 threeGrays).find? ⟨111, 111, 111⟩ = some j) ∧
      (Discovery.ofSamples 10 threeGrays).find? ⟨111, 111, 111⟩ = some 0 := by
  have hn : threeGrays.length < 2 ^ 56 := by decide
  have hc : Discovery.Compact 10 threeGrays := by decide
  obtain ⟨hfind, -⟩ := compact_scan_is_covered hn hc
  exact ⟨hn, hc, by decide, hfind ⟨111, 111, 111⟩ 1 (by decide), by decide⟩

end Snapper

end PaletteSnap
