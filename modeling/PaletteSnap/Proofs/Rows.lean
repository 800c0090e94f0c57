import Mathlib.Order.Bounds.Defs
import PaletteSnap.Proofs.Recoloring

namespace PaletteSnap

namespace Legend

variable {m : Legend} {pixels top bottom : List Color} {w h i : Nat}

theorem recolor_of_length_ne (hlen : pixels.length ≠ w * h) :
    m.recolor pixels w h =
      .error (.dimensions w h (min (w * h) maxCount) pixels.length) := by
  rw [recolor, checkDimensions, if_neg hlen]

theorem recolor_of_length_eq (hlen : pixels.length = w * h) :
    m.recolor pixels w h =
      match m.firstMiss? pixels with
      | some i => .error (.unmatchedPixel i)
      | none => .ok ⟨w, h, pixels.filterMap m.colorFor?⟩ := by
  rw [recolor, checkDimensions_eq_ok_iff.mpr hlen]
  simp only [recolorFrom_eq, Nat.zero_add]
  cases m.firstMiss? pixels <;> rfl

theorem min_maxCount (n : Nat) : min n maxCount = if n < 2 ^ 64 then n else 2 ^ 64 - 1 := by
  rw [maxCount]
  split <;> omega

theorem recolor_eq_dimensions_iff :
    (∃ w' h' expected actual,
      m.recolor pixels w h = .error (.dimensions w' h' expected actual)) ↔
        pixels.length ≠ w * h := by
  by_cases hlen : pixels.length = w * h
  · rw [recolor_of_length_eq hlen]
    cases m.firstMiss? pixels <;> simp [hlen]
  · simp [recolor_of_length_ne hlen, hlen]

theorem recolor_eq_unmatchedPixel_iff (hlen : pixels.length = w * h) :
    m.recolor pixels w h = .error (.unmatchedPixel i) ↔ m.firstMiss? pixels = some i := by
  rw [recolor_of_length_eq hlen]
  cases m.firstMiss? pixels <;> simp

theorem firstMiss?_eq_some_iff_isLeast :
    m.firstMiss? pixels = some i ↔
      IsLeast {i | ∃ x, pixels[i]? = some x ∧ m.colorFor? x = none} i := by
  rw [firstMiss?_eq_some_iff]
  refine and_congr_right fun _ => ?_
  constructor
  · rintro hbefore j ⟨x, hx, hnone⟩
    by_contra hlt
    exact hbefore j x (Nat.not_le.mp hlt) hx hnone
  · intro hleast j x hj hx hnone
    exact Nat.not_lt.mpr (hleast ⟨x, hx, hnone⟩) hj

theorem exists_recolor_eq_ok (hlen : pixels.length = w * h)
    (hall : ∀ x ∈ pixels, m.colorFor? x ≠ none) :
    ∃ g, m.recolor pixels w h = .ok g ∧ g.width = w ∧ g.height = h ∧
      g.pixels.map some = pixels.map m.colorFor? := by
  have hnone := firstMiss?_eq_none_iff.mpr hall
  refine ⟨⟨w, h, pixels.filterMap m.colorFor?⟩, ?_, rfl, rfl, ?_⟩
  · rw [recolor_of_length_eq hlen, hnone]
  · exact (map_colorFor?_eq_iff.mpr ⟨hnone, rfl⟩).symm

theorem firstMiss?_append (m : Legend) (top bottom : List Color) :
    m.firstMiss? (top ++ bottom) =
      (m.firstMiss? top).or ((m.firstMiss? bottom).map (top.length + ·)) := by
  rw [firstMiss?, List.findIdx?_append]
  simp only [firstMiss?, Nat.add_comm]

def stack (start : Nat) : (top bottom : Except SnapError Grid) → Except SnapError Grid
  | .error e, _ => .error e
  | .ok _, .error (.unmatchedPixel i) => .error (.unmatchedPixel (start + i))
  | .ok _, .error e => .error e
  | .ok top, .ok bottom =>
    .ok ⟨top.width, top.height + bottom.height, top.pixels ++ bottom.pixels⟩

theorem recolor_append {h₁ h₂ : Nat} (htop : top.length = w * h₁)
    (hbottom : bottom.length = w * h₂) :
    m.recolor (top ++ bottom) w (h₁ + h₂) =
      stack top.length (m.recolor top w h₁) (m.recolor bottom w h₂) := by
  have hlen : (top ++ bottom).length = w * (h₁ + h₂) := by
    rw [List.length_append, htop, hbottom, Nat.mul_add]
  rw [recolor_of_length_eq hlen, recolor_of_length_eq htop, recolor_of_length_eq hbottom,
    firstMiss?_append, List.filterMap_append]
  cases m.firstMiss? top with
  | some i => rfl
  | none => cases m.firstMiss? bottom <;> rfl

end Legend

namespace Snapper

variable {s : Snapper} {d : Discovery} {m : Legend} {x : Color}

theorem colorFor?_legend_eq_none_iff (hfit : d.FamiliesFit s.margin) :
    (s.legend d).colorFor? x = none ↔
      ∀ k ∈ (s.legend d).discovery.clusters, ¬ Color.Near d.tolerance k.average x := by
  rw [colorFor?_eq_none_iff hfit]
  have haverages := congrArg (∀ a ∈ ·, ¬ Color.Near d.tolerance a x) (map_average_legend s d)
  simp only [List.forall_mem_map] at haverages
  exact haverages.symm.to_iff

theorem legend_recolors_each_pixel {seen : List Color} (hm : (s.analyze seen).result = .ok m) :
    let Matched (x : Color) := ∃ k ∈ m.discovery.clusters, Color.Near s.tolerance k.average x
    (∀ pixels w h,
      ((∃ w' h' expected actual,
          m.recolor pixels w h = .error (.dimensions w' h' expected actual)) ↔
        pixels.length ≠ w * h) ∧
      (pixels.length ≠ w * h → m.recolor pixels w h = .error (.dimensions w h
        (if w * h < 2 ^ 64 then w * h else 2 ^ 64 - 1) pixels.length)) ∧
      (pixels.length = w * h →
        (∀ i, m.recolor pixels w h = .error (.unmatchedPixel i) ↔
          IsLeast {i | ∃ x, pixels[i]? = some x ∧ ¬ Matched x} i) ∧
        ((∀ x ∈ pixels, Matched x) → ∃ g, m.recolor pixels w h = .ok g ∧ g.width = w ∧
          g.height = h ∧ g.pixels.map some = pixels.map m.colorFor?))) ∧
    ∀ top bottom w h₁ h₂, top.length = w * h₁ → bottom.length = w * h₂ →
      m.recolor (top ++ bottom) w (h₁ + h₂) =
        Legend.stack top.length (m.recolor top w h₁) (m.recolor bottom w h₂) := by
  intro Matched
  obtain ⟨hpass, rfl⟩ := result_analyze_eq_ok_iff.mp hm
  have hnone (x : Color) :
      (s.legend (.ofSamples s.tolerance seen)).colorFor? x = none ↔ ¬ Matched x := by
    rw [colorFor?_legend_eq_none_iff hpass.families, Discovery.tolerance_ofSamples]
    simp [Matched]
  refine ⟨fun pixels w h => ⟨Legend.recolor_eq_dimensions_iff, ?_, fun hlen => ⟨?_, ?_⟩⟩, ?_⟩
  · intro hlen
    rw [Legend.recolor_of_length_ne hlen, Legend.min_maxCount]
  · intro i
    rw [Legend.recolor_eq_unmatchedPixel_iff hlen, Legend.firstMiss?_eq_some_iff_isLeast]
    simp only [hnone]
  · intro hall
    refine Legend.exists_recolor_eq_ok hlen fun x hx => ?_
    rw [ne_eq, hnone, not_not]
    exact hall x hx
  · intro top bottom w h₁ h₂ htop hbottom
    exact Legend.recolor_append htop hbottom

-- A foreign image of two rows, with a gray in the second one that no color of the palette reaches.
theorem legend_recolors_each_pixel_foreign :
    ∃ m, (({} : Snapper).analyze Palette.colors.reverse).result = .ok m ∧
      m.recolor [⟨4, 4, 4⟩, ⟨250, 9, 0⟩, ⟨0, 0, 0⟩, ⟨128, 128, 128⟩] 2 2 =
        .error (.unmatchedPixel 3) := by
  have hm : (({} : Snapper).analyze Palette.colors.reverse).result = .ok _ := rfl
  obtain ⟨-, hsplit⟩ := legend_recolors_each_pixel hm
  have hrows := hsplit [⟨4, 4, 4⟩, ⟨250, 9, 0⟩] [⟨0, 0, 0⟩, ⟨128, 128, 128⟩] 2 1 1 rfl rfl
  exact ⟨_, hm, hrows⟩

end Snapper

end PaletteSnap
