import PaletteSnap.Proofs.Recoloring

namespace PaletteSnap

theorem channelGap_triangle (a b c : UInt8) :
    channelGap a c ≤ channelGap a b + channelGap b c := by
  simp only [channelGap]
  omega

theorem Color.Near.trans {s t : Nat} {a b c : Color} (hab : Color.Near s a b)
    (hbc : Color.Near t b c) : Color.Near (s + t) a c :=
  ⟨Nat.le_trans (channelGap_triangle _ b.red _) (Nat.add_le_add hab.1 hbc.1),
    Nat.le_trans (channelGap_triangle _ b.green _) (Nat.add_le_add hab.2.1 hbc.2.1),
    Nat.le_trans (channelGap_triangle _ b.blue _) (Nat.add_le_add hab.2.2 hbc.2.2)⟩

namespace Snapper

variable {s : Snapper} {pixels : List Color} {w h i : Nat}

def OutOfReach (s : Snapper) (pixels : List Color) (x : Color) : Prop :=
  ∀ k ∈ (Discovery.ofSamples s.tolerance pixels).clusters,
    ¬ Color.Near s.tolerance k.average x

theorem OutOfReach.exists_far {x : Color} (h : s.OutOfReach pixels x) (hx : x ∈ pixels)
    (hn : pixels.length < 2 ^ 56) :
    ∃ j, x ∈ (Discovery.empty s.tolerance).received j pixels ∧
      ∃ y ∈ (Discovery.empty s.tolerance).received j pixels, ¬ Color.Near s.tolerance x y := by
  obtain ⟨j, hj⟩ := (Discovery.empty s.tolerance).exists_mem_received hx
  refine ⟨j, hj, ?_⟩
  by_contra hnear
  -- all that the cluster received is within reach of `x`, so the final average is, too
  have hall : ∀ y ∈ (Discovery.empty s.tolerance).received j pixels,
      Color.Near s.tolerance x y := by
    intro y hy
    by_contra hfar
    exact hnear ⟨y, hy, hfar⟩
  obtain ⟨k, hk⟩ := Discovery.exists_cluster_of_mem_received hj
  rw [← Discovery.ofSamples_eq_insertAll] at hk
  exact h k (List.mem_of_getElem? hk) (Discovery.near_average_ofSamples hn hk hall)

theorem colorFor?_eq_none_iff_outOfReach (hpass : s.Passes pixels) {x : Color} :
    (s.legend (.ofSamples s.tolerance pixels)).colorFor? x = none ↔ s.OutOfReach pixels x := by
  rw [colorFor?_eq_none_iff hpass.families, Discovery.tolerance_ofSamples]
  rfl

theorem snap_unmatchedPixel_iff (s : Snapper) (pixels : List Color) (w h i : Nat) :
    (s.snap pixels w h).result = .error (.unmatchedPixel i) ↔
      (pixels.length = w * h ∧ s.Passes pixels) ∧
        (∃ x, pixels[i]? = some x ∧ s.OutOfReach pixels x) ∧
          ∀ j x, j < i → pixels[j]? = some x → ¬ s.OutOfReach pixels x := by
  by_cases hpass : pixels.length = w * h ∧ s.Passes pixels
  · have hmiss : (s.legend (.ofSamples s.tolerance pixels)).firstMiss? pixels = some i ↔ _ :=
      Legend.firstMiss?_eq_some_iff
    simp only [ne_eq, colorFor?_eq_none_iff_outOfReach hpass.2] at hmiss
    rw [← hmiss, result_snap_of_passes hpass.1 hpass.2]
    cases (s.legend (.ofSamples s.tolerance pixels)).firstMiss? pixels <;> simp [hpass]
  · obtain ⟨e, he, hne⟩ := result_snap_of_not_passes hpass
    simp [he, hne, hpass]

-- Grays that pull the average of black away from the first of them, then the other colors.
def driftingBlack : List Color :=
  [⟨0, 0, 0⟩, ⟨10, 10, 10⟩, ⟨15, 15, 15⟩, ⟨18, 18, 18⟩, ⟨20, 20, 20⟩] ++ Palette.colors.tail

theorem snap_driftingBlack :
    (({} : Snapper).snap driftingBlack 24 1).result = .error (.unmatchedPixel 0) :=
  rfl

theorem exists_received_of_passes (hpass : s.Passes pixels) (hn : pixels.length < 2 ^ 56)
    {j : Nat} {k : Cluster}
    (hk : (s.legend (.ofSamples s.tolerance pixels)).discovery.clusters[j]? = some k) :
    ∃ x, ((Discovery.empty s.tolerance).received j pixels).getLast? = some x ∧
      k.accepts s.tolerance x := by
  obtain ⟨k₀, c, hk₀, -, rfl⟩ := exists_of_getElem?_legend hpass.families hk
  obtain ⟨x, hx⟩ := Discovery.exists_getLast?_received hk₀
  rw [Discovery.ofSamples_eq_insertAll] at hk₀
  refine ⟨x, hx, ?_⟩
  exact Discovery.accepts_getLast?_received (Discovery.weightsAtMost_empty s.tolerance 0)
    (by omega) hk₀ hx

theorem mem_pixels_iff {g : Grid} (hg : (s.snap pixels w h).result = .ok g) {c : Color} :
    c ∈ g.pixels ↔
      ∃ x ∈ pixels, (s.legend (.ofSamples s.tolerance pixels)).colorFor? x = some c := by
  obtain ⟨-, -, -, hmap⟩ := result_snap_eq_ok_iff.mp hg
  have hmem : some c ∈ g.pixels.map some ↔ c ∈ g.pixels := by simp
  rw [← hmem, ← hmap, List.mem_map]

theorem mem_pixels_iff_find? {g : Grid} (hg : (s.snap pixels w h).result = .ok g) {j : Nat}
    {k : Cluster} {c : Color}
    (hk : (s.legend (.ofSamples s.tolerance pixels)).discovery.clusters[j]? = some k)
    (hc : k.reference = some c) :
    c ∈ g.pixels ↔
      ∃ x ∈ pixels, (s.legend (.ofSamples s.tolerance pixels)).discovery.find? x = some j := by
  obtain ⟨⟨-, hpass⟩, -⟩ := result_snap_eq_ok_iff.mp hg
  rw [mem_pixels_iff hg]
  refine exists_congr fun x => and_congr_right fun _ => ?_
  rw [colorFor?_eq_some_iff, find?_legend]
  constructor
  · rintro ⟨i, k', hi, hk', hc'⟩
    rw [← reference_inj hpass.families hk' hk (hc'.trans hc.symm)]
    exact hi
  · intro hj
    exact ⟨j, k, hj, hk, hc⟩

theorem canonical_color_shows_iff {g : Grid} (hg : (s.snap pixels w h).result = .ok g) :
    ∃ m, (s.analyze pixels).result = .ok m ∧
      (m.discovery.clusters.map (·.reference)).Perm (Palette.colors.map some) ∧
      ∀ j k c, m.discovery.clusters[j]? = some k → k.reference = some c →
        (c ∈ g.pixels ↔ ∃ x ∈ pixels, m.discovery.find? x = some j) ∧
        (pixels.length < 2 ^ 56 →
          (∃ x, ((Discovery.empty s.tolerance).received j pixels).getLast? = some x ∧
            k.accepts s.tolerance x) ∧
          ((∀ i k', i < j → m.discovery.clusters[i]? = some k' →
            ¬ Color.Near (2 * s.tolerance) k'.average k.average) → c ∈ g.pixels)) := by
  obtain ⟨⟨-, hpass⟩, -⟩ := result_snap_eq_ok_iff.mp hg
  refine ⟨_, result_analyze_of_passes hpass, perm_references hpass.families hpass.count, ?_⟩
  intro j k c hk hc
  have hiff := mem_pixels_iff_find? hg hk hc
  refine ⟨hiff, fun hn => ?_⟩
  obtain ⟨x, hx, hacc⟩ := exists_received_of_passes hpass hn hk
  refine ⟨⟨x, hx, hacc⟩, fun hfar => ?_⟩
  have hmem : x ∈ pixels := Discovery.mem_of_mem_received (List.mem_of_getLast? hx)
  have htol : (s.legend (.ofSamples s.tolerance pixels)).discovery.tolerance = s.tolerance :=
    Discovery.tolerance_ofSamples _ _
  refine hiff.mpr ⟨x, hmem, Discovery.find?_eq_some_iff.mpr ⟨k, hk, by rwa [htol], ?_⟩⟩
  -- an earlier cluster that accepts `x` as well lies within twice the tolerance
  intro i k' hi hk' hacc'
  rw [htol] at hacc'
  simp only [Cluster.accepts, decide_eq_true_eq] at hacc hacc'
  have hnear := hacc'.trans (Color.near_comm.mp hacc)
  rw [← Nat.two_mul] at hnear
  exact hfar i k' hi hk' hnear

-- The second red arrives after a darker one whose average then moves up to it.
def coveredRed : List Color :=
  (Palette.colors.set 11 ⟨203, 0, 0⟩).set 12 ⟨202, 0, 0⟩ ++ [⟨255, 0, 0⟩]

theorem color_missing_coveredRed :
    ∃ g, (({} : Snapper).snap coveredRed 21 1).result = .ok g ∧
      Palette.color .red .normal ∉ g.pixels :=
  ⟨_, rfl, by decide⟩

theorem canonical_color_shows_coveredRed :
    ∃ g, (({} : Snapper).snap coveredRed 21 1).result = .ok g ∧ coveredRed.length < 2 ^ 56 ∧
      Palette.black ∈ g.pixels ∧ Palette.color .red .light ∈ g.pixels := by
  have hg : (({} : Snapper).snap coveredRed 21 1).result = .ok _ := rfl
  have hn : coveredRed.length < 2 ^ 56 := by decide
  obtain ⟨m, hm, -, hcolors⟩ := canonical_color_shows_iff hg
  obtain rfl : ({} : Snapper).legend (.ofSamples 10 coveredRed) = m := Except.ok.inj hm
  obtain ⟨-, hblack⟩ := hcolors 0 _ Palette.black rfl rfl
  obtain ⟨-, hred⟩ := hcolors 19 _ (Palette.color .red .light) rfl rfl
  refine ⟨_, hg, hn, (hblack hn).2 fun i k' hi => absurd hi (Nat.not_lt_zero i),
    (hred hn).2 fun i k' hi hk' => ?_⟩
  have hfar : ((({} : Snapper).legend (.ofSamples 10 coveredRed)).discovery.clusters.take 19).all
      fun k => !decide (Color.Near 20 k.average ⟨255, 0, 0⟩) := rfl
  have hmem := List.mem_of_getElem? ((List.getElem?_take_of_lt hi).trans hk')
  have hgap : ¬ Color.Near 20 k'.average ⟨255, 0, 0⟩ := by
    simpa using List.all_eq_true.mp hfar k' hmem
  exact hgap

end Snapper

end PaletteSnap
