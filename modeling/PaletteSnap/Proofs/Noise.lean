import PaletteSnap.Proofs.Dominance
import PaletteSnap.Proofs.Grouping
import PaletteSnap.Proofs.Palette

namespace PaletteSnap

def ShiftedChannel (amount : Nat) (x y : UInt8) : Prop :=
  if x = 255 then y = 255
  else ∃ δ : Int, δ.natAbs ≤ amount ∧ (y.toNat : Int) = max 0 (x.toNat + δ)

def Shifted (amount : Nat) (c x : Color) : Prop :=
  ShiftedChannel amount c.red x.red ∧ ShiftedChannel amount c.green x.green ∧
    ShiftedChannel amount c.blue x.blue

def noiseBand (amount : Nat) (x : UInt8) : Band :=
  if x = 255 then ⟨255, 255⟩ else .around amount x

def noiseBox (amount : Nat) (c : Color) : Box :=
  ⟨noiseBand amount c.red, noiseBand amount c.green, noiseBand amount c.blue⟩

theorem noiseBand_zero (amount : Nat) : noiseBand amount 0 = ⟨0, amount⟩ := by
  simp [noiseBand, Band.around]

theorem noiseBand_dark (amount : Nat) : noiseBand amount 192 = ⟨192 - amount, 192 + amount⟩ :=
  rfl

theorem noiseBand_full (amount : Nat) : noiseBand amount 255 = ⟨255, 255⟩ :=
  rfl

theorem holds_noiseBand_iff {amount : Nat} {x y : UInt8} :
    (noiseBand amount x).Holds y ↔ ShiftedChannel amount x y := by
  rw [noiseBand, ShiftedChannel, Band.Holds]
  split
  next =>
    rw [← UInt8.toNat_inj]
    exact ⟨fun h => Nat.le_antisymm h.2 h.1, fun h => ⟨Nat.le_of_eq h.symm, Nat.le_of_eq h⟩⟩
  next =>
    constructor
    · intro h
      simp only [Band.around] at h
      exact ⟨y.toNat - x.toNat, by omega, by omega⟩
    · rintro ⟨δ, hδ, hy⟩
      simp only [Band.around]
      omega

theorem holds_noiseBox_iff {amount : Nat} {c x : Color} :
    (noiseBox amount c).Holds x ↔ Shifted amount c x := by
  simp only [Box.Holds, noiseBox, holds_noiseBand_iff, Shifted]

instance (amount : Nat) (x y : UInt8) : Decidable (ShiftedChannel amount x y) :=
  decidable_of_iff (_ ∧ _) holds_noiseBand_iff

instance (amount : Nat) (c x : Color) : Decidable (Shifted amount c x) :=
  inferInstanceAs (Decidable (_ ∧ _))

theorem shifted_self (amount : Nat) (c : Color) : Shifted amount c c := by
  have hself (x : UInt8) : ShiftedChannel amount x x := by
    rw [ShiftedChannel]
    split
    next h => exact h
    next => exact ⟨0, by simp, by simp⟩
  exact ⟨hself _, hself _, hself _⟩

section

variable {amount tolerance : Nat}

theorem narrow_noiseBand (h : 2 * amount ≤ tolerance) (x : UInt8) :
    (noiseBand amount x).Narrow tolerance := by
  rw [noiseBand, Band.Narrow]
  split <;> simp only [Band.around] <;> omega

def IsCanonicalLevel (x : UInt8) : Prop :=
  x = 0 ∨ x = 192 ∨ x = 255

theorem isCanonicalLevel_level (l : Lightness) (lit : Bool) :
    IsCanonicalLevel (Palette.level l lit) := by
  cases lit with
  | true =>
    cases l with
    | dark => exact .inr (.inl rfl)
    | normal | light => exact .inr (.inr rfl)
  | false =>
    cases l with
    | dark | normal => exact .inl rfl
    | light => exact .inr (.inl rfl)

theorem isCanonicalLevel_of_mem {c : Color} (hc : c ∈ Palette.colors) :
    IsCanonicalLevel c.red ∧ IsCanonicalLevel c.green ∧ IsCanonicalLevel c.blue := by
  obtain ⟨h, l, rfl⟩ := Palette.exists_color_of_mem hc
  cases h with
  | black => exact ⟨.inl rfl, .inl rfl, .inl rfl⟩
  | white => exact ⟨.inr (.inr rfl), .inr (.inr rfl), .inr (.inr rfl)⟩
  | _ =>
    exact ⟨isCanonicalLevel_level l _, isCanonicalLevel_level l _, isCanonicalLevel_level l _⟩

theorem apart_noiseBand (hnarrow : 2 * amount ≤ tolerance) (hapart : tolerance + amount ≤ 62)
    {x y : UInt8} (hx : IsCanonicalLevel x) (hy : IsCanonicalLevel y) (hxy : x ≠ y) :
    (noiseBand amount x).Apart tolerance (noiseBand amount y) := by
  rcases hx with rfl | rfl | rfl <;> rcases hy with rfl | rfl | rfl <;>
    simp only [noiseBand_zero, noiseBand_dark, noiseBand_full, Band.Apart, ne_eq,
      not_true_eq_false] at hxy ⊢ <;> omega

theorem separated_noiseBox (hnarrow : 2 * amount ≤ tolerance)
    (hapart : tolerance + amount ≤ 62) :
    Separated tolerance (noiseBox amount) Palette.colors := by
  refine ⟨fun c _ => ⟨narrow_noiseBand hnarrow _, narrow_noiseBand hnarrow _,
    narrow_noiseBand hnarrow _⟩, fun a ha b hb hab => ?_⟩
  obtain ⟨har, hag, hab'⟩ := isCanonicalLevel_of_mem ha
  obtain ⟨hbr, hbg, hbb⟩ := isCanonicalLevel_of_mem hb
  rcases Color.exists_channel_ne hab with hr | hg | hblue
  · exact .inl (apart_noiseBand hnarrow hapart har hbr hr)
  · exact .inr (.inl (apart_noiseBand hnarrow hapart hag hbg hg))
  · exact .inr (.inr (apart_noiseBand hnarrow hapart hab' hbb hblue))

end

section

variable {amount margin : Nat} {h : Hue} {l : Lightness} {x : Color}

theorem standsAs_of_chromatic (hwide : 2 * amount < margin) (hbound : margin + amount ≤ 63)
    (hh : h.isChromatic) (hx : (noiseBox amount (Palette.color h l)).Holds x) :
    StandsAs margin (noiseBand amount (Palette.level l true)) h x := by
  have hcolor : Palette.color h l =
      ⟨Palette.level l h.redLit, Palette.level l h.greenLit, Palette.level l h.blueLit⟩ := by
    cases h with
    | black | white => cases hh
    | _ => rfl
  have hstand {lit : Bool} {y : UInt8}
      (hy : (noiseBand amount (Palette.level l lit)).Holds y) :
      Stands margin (noiseBand amount (Palette.level l true)) lit y := by
    cases lit with
    | true => exact hy
    | false =>
      change y.toNat + margin ≤ (noiseBand amount (Palette.level l true)).low
      cases l <;> simp only [Palette.level, noiseBand_zero, noiseBand_dark, noiseBand_full,
        Band.Holds] at hy ⊢ <;> omega
  rw [hcolor] at hx
  refine ⟨?_, .inl ?_, hstand hx.1, hstand hx.2.1, hstand hx.2.2⟩
  · cases l <;> simp only [Palette.level, noiseBand_dark, noiseBand_full] <;> omega
  · cases l <;> simp only [Palette.level, noiseBand_dark, noiseBand_full] <;> omega

theorem standsAs_of_white (hbound : margin + amount ≤ 63) (hpos : 0 < margin)
    (hx : (noiseBox amount Palette.white).Holds x) : StandsAs margin ⟨255, 255⟩ .white x :=
  ⟨by dsimp only; omega, .inl (by dsimp only; omega), hx.1, hx.2.1, hx.2.2⟩

theorem standsAs_of_black (hwide : 2 * amount < margin)
    (hx : (noiseBox amount Palette.black).Holds x) : StandsAs margin ⟨0, amount⟩ .white x := by
  obtain ⟨hr, hg, hb⟩ := hx
  simp only [noiseBox, Palette.black, noiseBand_zero] at hr hg hb
  exact ⟨by dsimp only; omega, .inr rfl, hr, hg, hb⟩

theorem family_of_noise (hwide : 2 * amount < margin) (hbound : margin + amount ≤ 63)
    (hx : (noiseBox amount (Palette.color h l)).Holds x) : x.family margin = h := by
  have hred := hx.1
  cases h with
  | black =>
    simp only [noiseBox, Palette.color, Palette.black, noiseBand_zero, Band.Holds] at hred
    have hlt : x.red.toNat < 128 := by omega
    rw [(standsAs_of_black hwide hx).family_eq (by decide), if_pos]
    exact ⟨rfl, UInt8.lt_iff_toNat_lt.mpr hlt⟩
  | white =>
    simp only [noiseBox, Palette.color, Palette.white, noiseBand_full, Band.Holds] at hred
    have hle : ¬ x.red.toNat < 128 := by omega
    rw [(standsAs_of_white hbound (by omega) hx).family_eq (by decide), if_neg]
    exact fun h => hle (UInt8.lt_iff_toNat_lt.mp h.2)
  | _ =>
    rw [(standsAs_of_chromatic hwide hbound rfl hx).family_eq (by decide), if_neg]
    simp

theorem level_of_dark_noise (hwide : 2 * amount < margin) (hbound : margin + amount ≤ 63)
    (hh : h.isChromatic) (hx : (noiseBox amount (Palette.color h .dark)).Holds x) :
    x.level margin < 255 := by
  have hlevel := (standsAs_of_chromatic hwide hbound hh hx).level_between
    (Hue.ne_black_of_isChromatic hh)
  simp only [Palette.level, noiseBand_dark] at hlevel
  omega

theorem level_of_full_noise (hwide : 2 * amount < margin) (hbound : margin + amount ≤ 63)
    (hh : h.isChromatic) (hl : l ≠ .dark) (hx : (noiseBox amount (Palette.color h l)).Holds x) :
    x.level margin = 255 := by
  have hlevel := (standsAs_of_chromatic hwide hbound hh hx).level_between
    (Hue.ne_black_of_isChromatic hh)
  have hfull : Palette.level l true = 255 := by
    cases l with
    | dark => exact absurd rfl hl
    | normal | light => rfl
  rw [hfull] at hlevel
  simp only [noiseBand_full] at hlevel
  omega

end

end PaletteSnap
