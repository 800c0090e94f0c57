import PaletteSnap.Proofs.NoiseRemoval

namespace PaletteSnap

namespace Snapper

variable {s : Snapper} {pixels : List Color} {w h : Nat} {g : Grid}

theorem noisyImage_zero (htol : s.tolerance ≤ 62) (hpos : 1 ≤ s.margin) (hmargin : s.margin ≤ 63)
    {pixels : List Color} (hsize : pixels.length < 2 ^ 56) (hcanon : pixels ⊆ Palette.colors) :
    NoisyImage s 0 pixels pixels :=
  ⟨Nat.zero_le _, htol, hpos, hmargin, hsize, hcanon,
    List.forall₂_same.mpr fun c _ => shifted_self 0 c⟩

theorem snap_snap_eq_iff (htol : s.tolerance ≤ 62) (hpos : 1 ≤ s.margin) (hmargin : s.margin ≤ 63)
    (hsize : pixels.length < 2 ^ 56) (hg : (s.snap pixels w h).result = .ok g) :
    (s.snap g.pixels g.width g.height).result = .ok g ↔
      Palette.colors ⊆ g.pixels ∧
        ∀ hue ∈ Hue.chromatic, g.pixels.idxOf (Palette.color hue .normal) <
          g.pixels.idxOf (Palette.color hue .light) := by
  have hcanon := pixels_subset_colors hg
  have hlen := length_pixels hg
  have hi := noisyImage_zero htol hpos hmargin (hlen ▸ hsize) hcanon
  have hfilled := filled hg
  constructor
  · intro hagain
    have hall := hi.passes_iff.mp (result_snap_eq_ok_iff.mp hagain).1.2
    rw [hi.result_snap hall hfilled, Except.ok.injEq] at hagain
    exact ⟨hall, (map_exchange_eq_self_iff hcanon hall).mp (congrArg Grid.pixels hagain)⟩
  · rintro ⟨hall, horder⟩
    rw [hi.result_snap hall hfilled, (map_exchange_eq_self_iff hcanon hall).mpr horder]

theorem snap_snap_darkerRed :
    ∃ g, (({} : Snapper).snap (Palette.colors.set 11 ⟨254, 0, 0⟩) 20 1).result = .ok g ∧
      (({} : Snapper).snap g.pixels g.width g.height).result = .ok g := by
  have hg : (({} : Snapper).snap (Palette.colors.set 11 ⟨254, 0, 0⟩) 20 1).result =
      .ok ⟨20, 1, Palette.colors⟩ := rfl
  have hagain := snap_snap_eq_iff (by decide) (by decide) (by decide) (by decide) hg
  exact ⟨_, hg, hagain.mpr ⟨by decide, by decide⟩⟩

-- Light red comes before normal red, which is a shade darker.
def lightRedFirst : List Color :=
  (Palette.colors.set 11 ⟨255, 192, 192⟩).set 12 ⟨254, 0, 0⟩

theorem snap_snap_ne_lightRedFirst :
    ∃ g, (({} : Snapper).snap lightRedFirst 20 1).result = .ok g ∧
      (({} : Snapper).snap g.pixels 20 1).result ≠ .ok g := by
  refine ⟨_, rfl, fun hagain => ?_⟩
  exact absurd (Except.ok.inj hagain) (by decide)

end Snapper

end PaletteSnap
