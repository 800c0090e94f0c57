import PaletteSnap.Proofs.FixedPoint

namespace PaletteSnap

theorem idxOf_map {α β : Type*} [DecidableEq α] [DecidableEq β] {f : α → β} {xs : List α} {a : α}
    (hinj : ∀ x ∈ xs, f x = f a → x = a) : (xs.map f).idxOf (f a) = xs.idxOf a := by
  induction xs with
  | nil => rfl
  | cons x xs ih =>
    have hrest := ih fun y hy => hinj y (List.mem_cons_of_mem x hy)
    by_cases hx : x = a
    · simp [hx]
    · have hne : f x ≠ f a := fun h => hx (hinj x List.mem_cons_self h)
      rw [List.map_cons, List.idxOf_cons_ne _ hne, List.idxOf_cons_ne _ hx, hrest]

theorem Lightness.exchange_exchange (l : Lightness) : l.exchange.exchange = l := by
  cases l <;> rfl

namespace Palette

variable {c c' : Color}

theorem exchange_mem_colors (chosen : Hue → Bool) (hc : c ∈ colors) :
    exchange chosen c ∈ colors := by
  obtain ⟨h, l, rfl⟩ := exists_color_of_mem hc
  rw [exchange_color]
  split
  · exact color_mem_colors h _
  · exact hc

theorem exchange_exchange (chosen : Hue → Bool) (hc : c ∈ colors) :
    exchange chosen (exchange chosen c) = c := by
  obtain ⟨h, l, rfl⟩ := exists_color_of_mem hc
  by_cases hch : chosen h
  · rw [exchange_color, if_pos hch, exchange_color, if_pos hch, Lightness.exchange_exchange]
  · rw [exchange_color, if_neg hch, exchange_color, if_neg hch]

theorem exchange_inj {chosen : Hue → Bool} (hc : c ∈ colors) (hc' : c' ∈ colors)
    (h : exchange chosen c = exchange chosen c') : c = c' := by
  rw [← exchange_exchange chosen hc, h, exchange_exchange chosen hc']

end Palette

section

variable {pixels : List Color} (hcanon : pixels ⊆ Palette.colors)
  (hall : Palette.colors ⊆ pixels)

include hcanon

theorem map_exchange_subset (chosen : Hue → Bool) :
    pixels.map (Palette.exchange chosen) ⊆ Palette.colors := by
  intro c hc
  obtain ⟨c', hc', rfl⟩ := List.mem_map.mp hc
  exact Palette.exchange_mem_colors chosen (hcanon hc')

theorem idxOf_map_exchange (chosen : Hue → Bool) (h : Hue) (l : Lightness) :
    (pixels.map (Palette.exchange chosen)).idxOf (Palette.exchange chosen (Palette.color h l)) =
      pixels.idxOf (Palette.color h l) :=
  idxOf_map fun _ hx => Palette.exchange_inj (hcanon hx) (Palette.color_mem_colors h l)

include hall

theorem normal_first_of_exchanged {h : Hue} (hh : h ∈ Hue.chromatic) :
    (pixels.map (Palette.exchange (lightFirst pixels))).idxOf (Palette.color h .normal) <
      (pixels.map (Palette.exchange (lightFirst pixels))).idxOf (Palette.color h .light) := by
  have hnormal := idxOf_map_exchange hcanon (lightFirst pixels) h .normal
  have hlight := idxOf_map_exchange hcanon (lightFirst pixels) h .light
  rw [Palette.exchange_color] at hnormal hlight
  by_cases hch : lightFirst pixels h
  · rw [if_pos hch] at hnormal hlight
    rw [lightFirst, decide_eq_true_eq, ← hnormal, ← hlight] at hch
    exact hch
  · rw [if_neg hch] at hnormal hlight
    have hne : pixels.idxOf (Palette.color h .normal) ≠ pixels.idxOf (Palette.color h .light) :=
      fun heq => Palette.normal_ne_light (Hue.isChromatic_of_mem hh)
        ((List.idxOf_inj (hall (Palette.color_mem_colors h .normal))).mp heq)
    rw [lightFirst, decide_eq_true_eq, Nat.not_lt] at hch
    rw [hnormal, hlight]
    omega

omit hcanon

theorem subset_map_exchange (chosen : Hue → Bool) :
    Palette.colors ⊆ pixels.map (Palette.exchange chosen) := by
  intro c hc
  have hmem := hall (Palette.exchange_mem_colors chosen hc)
  rw [← Palette.exchange_exchange chosen hc]
  exact List.mem_map_of_mem hmem

end

namespace Snapper

variable {s : Snapper} {pixels : List Color} {w h : Nat}

theorem result_snap_of_count_ne (hdim : pixels.length = w * h) (hmargin : s.margin ≠ 0)
    {n : Nat} (hn : (Discovery.ofSamples s.tolerance pixels).size = n) (hne : n ≠ Palette.size) :
    (s.snap pixels w h).result =
      .error (.colorCount n Palette.size (Hint.forCount n Palette.size)) := by
  subst hn
  have hok := checkDimensions_eq_ok_iff.mpr hdim
  simp only [snap, hok, analyze, if_neg hmargin, if_neg hne]

theorem snap_clean (s : Snapper) (clean : Grid) (htol : s.tolerance ≤ 62) (hpos : 1 ≤ s.margin)
    (hmargin : s.margin ≤ 63) (hfilled : clean.Filled) (hsize : clean.pixels.length < 2 ^ 56)
    (hcanon : clean.pixels ⊆ Palette.colors) :
    (¬ Palette.colors ⊆ clean.pixels →
      clean.pixels.eraseDups.length < 20 ∧
        (s.snap clean.pixels clean.width clean.height).result =
          .error (.colorCount clean.pixels.eraseDups.length 20 .decrease)) ∧
    (Palette.colors ⊆ clean.pixels →
      let out : Grid :=
        ⟨clean.width, clean.height, clean.pixels.map (Palette.exchange (lightFirst clean.pixels))⟩
      (s.snap clean.pixels clean.width clean.height).result = .ok out ∧
        (s.snap out.pixels out.width out.height).result = .ok out) := by
  have hi := noisyImage_zero htol hpos hmargin hsize hcanon
  constructor
  · intro hmissing
    have hcount : (Discovery.ofSamples s.tolerance clean.pixels).size =
        clean.pixels.eraseDups.length := hi.tracks.size
    have hne : clean.pixels.eraseDups.length ≠ Palette.size := fun h =>
      hmissing ((length_eraseDups_eq_iff hcanon).mp h)
    have hle := length_eraseDups_le hcanon
    have hlt : clean.pixels.eraseDups.length < 20 := Nat.lt_of_le_of_ne hle hne
    refine ⟨hlt, ?_⟩
    rw [result_snap_of_count_ne hfilled (by omega) hcount hne, Hint.forCount,
      if_neg (Nat.not_lt.mpr hle)]
    rfl
  · intro hall out
    have hout : out.pixels ⊆ Palette.colors := map_exchange_subset hcanon _
    have hoall : Palette.colors ⊆ out.pixels := subset_map_exchange hall _
    have hlen : out.pixels.length = clean.pixels.length := List.length_map _
    have ho := noisyImage_zero htol hpos hmargin (hlen ▸ hsize) hout
    have hagain := ho.result_snap hoall (hlen.trans hfilled)
    rw [(map_exchange_eq_self_iff hout hoall).mpr fun h hh =>
      normal_first_of_exchanged hcanon hall hh] at hagain
    exact ⟨hi.result_snap hall hfilled, hagain⟩

theorem snap_clean_reversed :
    (({} : Snapper).snap Palette.colors.reverse 20 1).result =
        .ok ⟨20, 1, (Palette.colors.map (Palette.exchange Hue.isChromatic)).reverse⟩ ∧
      (({} : Snapper).snap (Palette.colors.drop 1) 19 1).result =
        .error (.colorCount 19 20 .decrease) := by
  obtain ⟨-, hall⟩ := snap_clean {} ⟨20, 1, Palette.colors.reverse⟩ (by decide) (by decide)
    (by decide) (by decide) (by decide) (by decide)
  obtain ⟨hmissing, -⟩ := snap_clean {} ⟨19, 1, Palette.colors.drop 1⟩ (by decide) (by decide)
    (by decide) (by decide) (by decide) (by decide)
  exact ⟨(hall (by decide)).1, (hmissing (by decide)).2⟩

end Snapper

end PaletteSnap
