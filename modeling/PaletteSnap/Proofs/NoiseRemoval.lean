import Mathlib.Data.List.Forall2
import PaletteSnap.Proofs.Noise
import PaletteSnap.Proofs.Recoloring

namespace PaletteSnap

def Lightness.exchange : Lightness → Lightness
  | .dark => .dark
  | .normal => .light
  | .light => .normal

namespace Palette

def exchange (chosen : Hue → Bool) (c : Color) : Color :=
  match slots.find? (·.color = c) with
  | some ⟨h, some l, _⟩ => if chosen h then color h l.exchange else c
  | _ => c

theorem exchange_color (chosen : Hue → Bool) (h : Hue) (l : Lightness) :
    exchange chosen (color h l) = if chosen h then color h l.exchange else color h l := by
  cases h with
  | black => cases l <;> exact (ite_self black).symm
  | white => cases l <;> exact (ite_self white).symm
  | _ => cases l <;> rfl

end Palette

def lightFirst (pixels : List Color) (h : Hue) : Bool :=
  pixels.idxOf (Palette.color h .light) < pixels.idxOf (Palette.color h .normal)

theorem length_eraseDups_le {pixels : List Color} (hcanon : pixels ⊆ Palette.colors) :
    pixels.eraseDups.length ≤ Palette.size := by
  have hsub : pixels.eraseDups ⊆ Palette.colors := fun c hc => hcanon (List.mem_eraseDups.mp hc)
  exact ((nodup_eraseDups pixels).subperm hsub).length_le

theorem length_eraseDups_eq_iff {pixels : List Color} (hcanon : pixels ⊆ Palette.colors) :
    pixels.eraseDups.length = Palette.size ↔ Palette.colors ⊆ pixels := by
  constructor
  · intro hlen c hc
    have hsub : pixels.eraseDups ⊆ Palette.colors := fun c hc => hcanon (List.mem_eraseDups.mp hc)
    have hperm := ((nodup_eraseDups pixels).subperm hsub).perm_of_length_le (Nat.le_of_eq hlen.symm)
    exact List.mem_eraseDups.mp (hperm.mem_iff.mpr hc)
  · intro hall
    have hback := Palette.nodup_colors.subperm fun c hc => List.mem_eraseDups.mpr (hall hc)
    exact Nat.le_antisymm (length_eraseDups_le hcanon) hback.length_le

structure NoisyImage (s : Snapper) (amount : Nat) (clean noisy : List Color) : Prop where
  near : 2 * amount ≤ s.tolerance
  apart : s.tolerance + amount ≤ 62
  wide : 2 * amount < s.margin
  bound : s.margin + amount ≤ 63
  size : clean.length < 2 ^ 56
  canonical : clean ⊆ Palette.colors
  shifted : List.Forall₂ (Shifted amount) clean noisy

namespace NoisyImage

variable {s : Snapper} {amount : Nat} {clean noisy : List Color}

theorem tracks (hi : NoisyImage s amount clean noisy) :
    Discovery.Tracks (noiseBox amount) clean (.ofSamples s.tolerance noisy) := by
  obtain ⟨hlen, hzip⟩ := List.forall₂_iff_zip.mp hi.shifted
  have hrun := Discovery.tracks_ofSamples (separated_noiseBox hi.near hi.apart)
    (clean.zip noisy) ?_ ?_
  · rwa [List.map_fst_zip (Nat.le_of_eq hlen), List.map_snd_zip (Nat.le_of_eq hlen.symm)] at hrun
  · rintro ⟨c, x⟩ hmem
    exact ⟨hi.canonical (List.of_mem_zip hmem).1, holds_noiseBox_iff.mpr (hzip hmem)⟩
  · rw [List.length_zip]
    exact Nat.lt_of_le_of_lt (Nat.min_le_left _ _) hi.size

theorem exists_cluster (hi : NoisyImage s amount clean noisy) {c : Color} (hc : c ∈ clean) :
    ∃ k, (Discovery.ofSamples s.tolerance noisy).clusters[clean.eraseDups.idxOf c]? = some k ∧
      (noiseBox amount c).Holds k.average := by
  obtain ⟨k, hk, hheld, -⟩ := hi.tracks.exists_cluster hc
  exact ⟨k, hk, hheld⟩

theorem family_average (hi : NoisyImage s amount clean noisy) {h : Hue} {l : Lightness}
    {x : Color} (hx : (noiseBox amount (Palette.color h l)).Holds x) : x.family s.margin = h :=
  family_of_noise hi.wide hi.bound hx

theorem mem_familyIndices_iff (hi : NoisyImage s amount clean noisy) {h : Hue} {i : Nat} :
    i ∈ (Discovery.ofSamples s.tolerance noisy).familyIndices s.margin h ↔
      ∃ c ∈ Palette.ofHue h, c ∈ clean ∧ clean.eraseDups.idxOf c = i := by
  rw [Discovery.mem_familyIndices]
  constructor
  · rintro ⟨k, hk, hfam⟩
    obtain ⟨c, hc, hlabel⟩ := hi.tracks.exists_label hk
    obtain ⟨hlt, hget⟩ := List.getElem?_eq_some_iff.mp hlabel
    obtain ⟨h', l, rfl⟩ := Palette.exists_color_of_mem (hi.canonical hc)
    have hheld := (hi.tracks.held i _ k hlabel hk).1
    obtain rfl : h' = h := (hi.family_average hheld).symm.trans hfam
    refine ⟨_, Palette.mem_ofHue_iff.mpr ⟨l, rfl⟩, hc, ?_⟩
    rw [← hget, (nodup_eraseDups clean).idxOf_getElem i hlt]
  · rintro ⟨c, hc, hmem, rfl⟩
    obtain ⟨k, hk, hheld⟩ := hi.exists_cluster hmem
    obtain ⟨l, rfl⟩ := Palette.mem_ofHue_iff.mp hc
    exact ⟨k, hk, hi.family_average hheld⟩

theorem perm_familyIndices (hi : NoisyImage s amount clean noisy)
    (hall : Palette.colors ⊆ clean) (h : Hue) :
    ((Discovery.ofSamples s.tolerance noisy).familyIndices s.margin h).Perm
      ((Palette.ofHue h).map clean.eraseDups.idxOf) := by
  have hmem {c : Color} (hc : c ∈ Palette.ofHue h) : c ∈ clean := by
    obtain ⟨l, rfl⟩ := Palette.mem_ofHue_iff.mp hc
    exact hall (Palette.color_mem_colors h l)
  have hinj : ∀ c ∈ Palette.ofHue h, ∀ c' ∈ Palette.ofHue h,
      clean.eraseDups.idxOf c = clean.eraseDups.idxOf c' → c = c' := fun c hc c' _ hcc' =>
    (List.idxOf_inj (List.mem_eraseDups.mpr (hmem hc))).mp hcc'
  refine (List.perm_ext_iff_of_nodup ?_ ?_).mpr fun i => ?_
  · exact (Discovery.pairwise_familyIndices _ _ _).imp Nat.ne_of_lt
  · exact (Palette.nodup_ofHue h).map_on hinj
  · rw [hi.mem_familyIndices_iff, List.mem_map]
    exact exists_congr fun c => and_congr_right fun hc => and_iff_right (hmem hc)

theorem size_eq (hi : NoisyImage s amount clean noisy) :
    (Discovery.ofSamples s.tolerance noisy).size = Palette.size ↔ Palette.colors ⊆ clean := by
  rw [hi.tracks.size]
  exact length_eraseDups_eq_iff hi.canonical

theorem familiesFit (hi : NoisyImage s amount clean noisy) (hall : Palette.colors ⊆ clean) :
    (Discovery.ofSamples s.tolerance noisy).FamiliesFit s.margin := by
  intro h
  rw [← Discovery.length_familyIndices, (hi.perm_familyIndices hall h).length_eq, List.length_map,
    Palette.length_ofHue]

theorem passes_iff (hi : NoisyImage s amount clean noisy) :
    s.Passes noisy ↔ Palette.colors ⊆ clean := by
  constructor
  · intro hpass
    exact hi.size_eq.mp hpass.count
  · intro hall
    have hmargin : s.margin ≠ 0 := Nat.ne_of_gt (Nat.lt_of_le_of_lt (Nat.zero_le _) hi.wide)
    exact ⟨hmargin, hi.size_eq.mpr hall, hi.familiesFit hall⟩

theorem levelOf_dark (hi : NoisyImage s amount clean noisy) {h : Hue} (hh : h.isChromatic)
    (hmem : Palette.color h .dark ∈ clean) :
    (Discovery.ofSamples s.tolerance noisy).levelOf s.margin
      (clean.eraseDups.idxOf (Palette.color h .dark)) < 255 := by
  obtain ⟨k, hk, hheld⟩ := hi.exists_cluster hmem
  rw [Discovery.levelOf_eq hk]
  exact level_of_dark_noise hi.wide hi.bound hh hheld

theorem levelOf_full (hi : NoisyImage s amount clean noisy) {h : Hue} {l : Lightness}
    (hh : h.isChromatic) (hl : l ≠ .dark) (hmem : Palette.color h l ∈ clean) :
    (Discovery.ofSamples s.tolerance noisy).levelOf s.margin
      (clean.eraseDups.idxOf (Palette.color h l)) = 255 := by
  obtain ⟨k, hk, hheld⟩ := hi.exists_cluster hmem
  rw [Discovery.levelOf_eq hk]
  exact level_of_full_noise hi.wide hi.bound hh hl hheld

theorem color?_place (hi : NoisyImage s amount clean noisy) (hall : Palette.colors ⊆ clean)
    (h : Hue) (l : Lightness) :
    Palette.color? h ((Discovery.ofSamples s.tolerance noisy).place s.margin h
        (clean.eraseDups.idxOf (Palette.color h l))) =
      some (Palette.exchange (lightFirst clean) (Palette.color h l)) := by
  have hmem (l : Lightness) : Palette.color h l ∈ clean := hall (Palette.color_mem_colors h l)
  rw [Discovery.place, (hi.perm_familyIndices hall h).countP_eq, Palette.exchange_color]
  by_cases hh : h.isChromatic
  · have hdark := hi.levelOf_dark hh (hmem .dark)
    have hnormal := hi.levelOf_full hh (by decide) (hmem .normal)
    have hlight := hi.levelOf_full hh (by decide) (hmem .light)
    have hfirst := idxOf_eraseDups_lt_iff (hmem .light) (hmem .normal)
    rw [Palette.ofHue, if_pos hh, Palette.color?, if_pos hh]
    have hne : clean.eraseDups.idxOf (Palette.color h .normal) ≠
        clean.eraseDups.idxOf (Palette.color h .light) := fun heq =>
      Palette.normal_ne_light hh
        ((List.idxOf_inj (List.mem_eraseDups.mpr (hmem .normal))).mp heq)
    simp only [Lightness.all, List.map_cons, List.map_nil]
    cases l with
    | dark =>
      rw [countP_before_lowest hdark hnormal hlight]
      simp [Lightness.exchange]
    | normal =>
      rw [countP_before_second hdark hnormal hlight]
      simp only [hfirst, lightFirst, decide_eq_true_eq, Lightness.exchange]
      split <;> rfl
    | light =>
      rw [countP_before_third hdark hnormal hlight hne]
      simp only [hfirst, lightFirst, decide_eq_true_eq, Lightness.exchange]
      split <;> rfl
  · -- black and white have one member and one grade
    have hgray (l' : Lightness) : Palette.color h l' = Palette.color h .normal := by
      cases h with
      | black | white => rfl
      | _ => exact absurd rfl hh
    rw [hgray l, hgray l.exchange, ite_self, Palette.ofHue, if_neg hh, Palette.color?, if_neg hh]
    simp [Before.irrefl]

theorem colorFor?_eq (hi : NoisyImage s amount clean noisy) (hall : Palette.colors ⊆ clean)
    {c x : Color} (hc : c ∈ clean) (hx : Shifted amount c x) :
    (s.legend (.ofSamples s.tolerance noisy)).colorFor? x =
      some (Palette.exchange (lightFirst clean) c) := by
  have hfit := hi.familiesFit hall
  have hsep := separated_noiseBox hi.near hi.apart
  rw [← Discovery.tolerance_ofSamples s.tolerance noisy] at hsep
  have hfind := hi.tracks.find?_of_mem hsep hi.canonical hc (holds_noiseBox_iff.mpr hx)
  obtain ⟨k, hk, hheld⟩ := hi.exists_cluster hc
  obtain ⟨h, l, rfl⟩ := Palette.exists_color_of_mem (hi.canonical hc)
  obtain ⟨c', hc', hlegend⟩ := Snapper.exists_color_at_place hfit hk
  rw [hi.family_average hheld, hi.color?_place hall] at hc'
  refine Snapper.colorFor?_eq_some_iff.mpr ⟨_, _, hfind, hlegend, hc'.symm⟩

theorem result_snap (hi : NoisyImage s amount clean noisy) (hall : Palette.colors ⊆ clean)
    {w h : Nat} (hdim : clean.length = w * h) :
    (s.snap noisy w h).result =
      .ok ⟨w, h, clean.map (Palette.exchange (lightFirst clean))⟩ := by
  have hlen := hi.shifted.length_eq
  refine Snapper.result_snap_eq_ok_iff.mpr
    ⟨⟨hlen ▸ hdim, hi.passes_iff.mpr hall⟩, rfl, rfl, ?_⟩
  have hpair : List.Forall₂ (fun c x => (s.legend (.ofSamples s.tolerance noisy)).colorFor? x =
      some (Palette.exchange (lightFirst clean) c)) clean noisy :=
    List.forall₂_iff_zip.mpr ⟨hlen, fun hmem => hi.colorFor?_eq hall (List.of_mem_zip hmem).1
      ((List.forall₂_iff_zip.mp hi.shifted).2 hmem)⟩
  rw [List.map_map, ← List.forall₂_eq_eq_eq, List.forall₂_map_left_iff,
    List.forall₂_map_right_iff]
  exact hpair.flip

end NoisyImage

theorem map_exchange_eq_self_iff {pixels : List Color} (hcanon : pixels ⊆ Palette.colors)
    (hall : Palette.colors ⊆ pixels) :
    pixels.map (Palette.exchange (lightFirst pixels)) = pixels ↔
      ∀ h ∈ Hue.chromatic, pixels.idxOf (Palette.color h .normal) <
        pixels.idxOf (Palette.color h .light) := by
  have hmem (h : Hue) (l : Lightness) : Palette.color h l ∈ pixels :=
    hall (Palette.color_mem_colors h l)
  have hne {h : Hue} (hh : h ∈ Hue.chromatic) : Palette.color h .normal ≠ Palette.color h .light :=
    Palette.normal_ne_light (Hue.isChromatic_of_mem hh)
  constructor
  · intro hmap h hh
    have hfix : ∀ c ∈ pixels, Palette.exchange (lightFirst pixels) c = c :=
      List.map_inj_left.mp (hmap.trans (List.map_id pixels).symm)
    have hnormal := hfix _ (hmem h .normal)
    have hidx : pixels.idxOf (Palette.color h .normal) ≠ pixels.idxOf (Palette.color h .light) :=
      fun heq => hne hh ((List.idxOf_inj (hmem h .normal)).mp heq)
    rw [Palette.exchange_color] at hnormal
    split at hnormal
    next => exact absurd hnormal.symm (hne hh)
    next hlight =>
      simp only [lightFirst, decide_eq_true_eq] at hlight
      omega
  · intro horder
    refine (List.map_inj_left.mpr fun c hc => ?_).trans (List.map_id pixels)
    obtain ⟨h, l, rfl⟩ := Palette.exists_color_of_mem (hcanon hc)
    have hfirst : lightFirst pixels h = false := by
      simp only [lightFirst, decide_eq_false_iff_not, Nat.not_lt]
      by_cases hh : h ∈ Hue.chromatic
      · exact Nat.le_of_lt (horder h hh)
      · cases h with
        | black | white => exact Nat.le_refl _
        | _ => exact absurd (by decide) hh
    rw [Palette.exchange_color, hfirst]
    rfl

namespace Snapper

theorem snap_removes_noise (s : Snapper) (amount : Nat) (clean noisy : Grid)
    (hnear : 2 * amount ≤ s.tolerance) (hapart : s.tolerance + amount ≤ 62)
    (hwide : 2 * amount < s.margin) (hbound : s.margin ≤ 63 - amount)
    (hfilled : clean.Filled) (hsize : clean.pixels.length < 2 ^ 56)
    (hcanon : clean.pixels ⊆ Palette.colors) (hall : Palette.colors ⊆ clean.pixels)
    (horder : ∀ h ∈ Hue.chromatic, clean.pixels.idxOf (Palette.color h .normal) <
      clean.pixels.idxOf (Palette.color h .light))
    (hwidth : noisy.width = clean.width) (hheight : noisy.height = clean.height)
    (hshifted : List.Forall₂ (Shifted amount) clean.pixels noisy.pixels) :
    (s.snap noisy.pixels noisy.width noisy.height).result = .ok clean := by
  have hi : NoisyImage s amount clean.pixels noisy.pixels :=
    ⟨hnear, hapart, hwide, by omega, hsize, hcanon, hshifted⟩
  rw [hwidth, hheight, hi.result_snap hall hfilled,
    (map_exchange_eq_self_iff hcanon hall).mpr horder]

-- Every channel that is not full is raised by 4, or lowered if it is not empty.
def noisyStrip : List Color :=
  let shift (f : UInt8 → UInt8) (c : Color) : Color :=
    let channel (x : UInt8) := if x = 255 then x else f x
    ⟨channel c.red, channel c.green, channel c.blue⟩
  Palette.colors.map (shift (· + 4)) ++ Palette.colors.map (shift fun x => x - min x 4)

theorem snap_removes_noise_strip :
    List.Forall₂ (Shifted 4) (Palette.colors ++ Palette.colors) noisyStrip ∧
      (({} : Snapper).snap noisyStrip 20 2).result =
        .ok ⟨20, 2, Palette.colors ++ Palette.colors⟩ := by
  have hshifted : List.Forall₂ (Shifted 4) (Palette.colors ++ Palette.colors) noisyStrip := by
    decide
  refine ⟨hshifted, ?_⟩
  exact snap_removes_noise {} 4 ⟨20, 2, _⟩ ⟨20, 2, _⟩ (by decide) (by decide) (by decide)
    (by decide) (by decide) (by decide) (by decide) (by decide) (by decide) rfl rfl hshifted

end Snapper

end PaletteSnap
