import PaletteSnap.Proofs.Recoloring

namespace PaletteSnap

def Cluster.standing (k : Cluster) : Option Hue × Nat :=
  (k.family, k.level)

namespace Discovery

def rank (d : Discovery) (h : Hue) (level i : Nat) : Nat :=
  d.clusters.zipIdx.countP fun (k, j) =>
    k.family = some h ∧ (k.level < level ∨ k.level = level ∧ j < i)

variable {d : Discovery} {margin i : Nat} {k : Cluster}

theorem rank_eq_countP_standing (d : Discovery) (h : Hue) (level i : Nat) :
    d.rank h level i = (d.clusters.map Cluster.standing).zipIdx.countP fun (p, j) =>
      p.1 = some h ∧ (p.2 < level ∨ p.2 = level ∧ j < i) := by
  rw [List.zipIdx_map, List.countP_map]
  rfl

theorem rank_classify (hk : d.clusters[i]? = some k) (h : Hue) :
    (Buckets.classify margin d).1.rank h (k.average.level margin) i = d.place margin h i := by
  rw [place, familyIndices, Buckets.indicesOf, List.countP_filterMap]
  refine List.countP_congr ?_
  rintro ⟨k', j⟩ hmem
  have hlevel : d.levelOf margin j = k'.level := by
    have hk' := List.mk_mem_zipIdx_iff_getElem?.mp hmem
    simp only [levelOf, Buckets.levelAt, hk']
  by_cases hfam : k'.family = some h <;> simp [hfam, Before, hlevel, levelOf_eq hk]

end Discovery

namespace Snapper

variable {s : Snapper} {pixels : List Color} {d : Discovery} {i : Nat} {k : Cluster}

theorem rank_legend (hk : d.clusters[i]? = some k) (h : Hue) :
    (s.legend d).discovery.rank h (k.average.level s.margin) i = d.place s.margin h i := by
  have hstanding : (s.legend d).discovery.clusters.map Cluster.standing =
      (Buckets.classify s.margin d).1.clusters.map Cluster.standing := by
    rw [map_legend fun _ _ => rfl, Buckets.classify, List.map_map]
    rfl
  rw [← Discovery.rank_classify hk, Discovery.rank_eq_countP_standing, hstanding,
    ← Discovery.rank_eq_countP_standing]

theorem reference_eq_color?_rank (hfit : d.FamiliesFit s.margin)
    (hk : (s.legend d).discovery.clusters[i]? = some k) :
    ∃ h c, k.family = some h ∧ k.reference = some c ∧
      Palette.color? h ((s.legend d).discovery.rank h k.level i) = some c := by
  obtain ⟨k₀, c, hk₀, hc, rfl⟩ := exists_of_getElem?_legend hfit hk
  refine ⟨k₀.average.family s.margin, c, rfl, rfl, ?_⟩
  rw [← hc, ← rank_legend hk₀]
  rfl

theorem analyze_matches_palette {m : Legend} (hm : (s.analyze pixels).result = .ok m) :
    m.discovery.size = 20 ∧
      (m.discovery.clusters.map (·.reference)).Perm (Palette.colors.map some) ∧
      (∀ i k, m.discovery.clusters[i]? = some k → ∃ h c, k.family = some h ∧ k.reference = some c ∧
        Palette.color? h (m.discovery.rank h k.level i) = some c ∧
        (¬ h.isChromatic → m.discovery.rank h k.level i = 0)) ∧
      ∀ x, m.colorFor? x = none ↔
        ∀ k ∈ m.discovery.clusters, ¬ Color.Near s.tolerance k.average x := by
  obtain ⟨hpass, rfl⟩ := result_analyze_eq_ok_iff.mp hm
  have hfit := hpass.families
  refine ⟨(length_legend s _).trans hpass.count, perm_references hfit hpass.count, ?_, fun x => ?_⟩
  · intro i k hk
    obtain ⟨h, c, hfam, href, hc⟩ := reference_eq_color?_rank hfit hk
    refine ⟨h, c, hfam, href, hc, fun hgray => ?_⟩
    have hlt := Palette.lt_of_color? hc
    rw [Hue.expectedMembers, if_neg hgray] at hlt
    omega
  · rw [colorFor?_eq_none_iff hfit, Discovery.tolerance_ofSamples]
    have hforall (ks : List Cluster) : (∀ k ∈ ks, ¬ Color.Near s.tolerance k.average x) ↔
        ∀ a ∈ ks.map (·.average), ¬ Color.Near s.tolerance a x := by
      rw [List.forall_mem_map]
    rw [hforall, hforall, map_average_legend]

theorem analyze_matches_palette_reversed :
    ∃ m, (({} : Snapper).analyze Palette.colors.reverse).result = .ok m ∧
      m.discovery.size = 20 ∧ m.colorFor? ⟨128, 128, 128⟩ = none := by
  have hm : (({} : Snapper).analyze Palette.colors.reverse).result = .ok _ := rfl
  obtain ⟨hsize, -, -, hnone⟩ := analyze_matches_palette hm
  exact ⟨_, hm, hsize, (hnone _).mpr (by decide)⟩

end Snapper

end PaletteSnap
