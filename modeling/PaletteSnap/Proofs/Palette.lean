import PaletteSnap.Classification
import PaletteSnap.Palette

namespace PaletteSnap

theorem Hue.mem_all (h : Hue) : h ∈ Hue.all := by
  cases h <;> decide

theorem Hue.ne_black_of_isChromatic {h : Hue} (hh : h.isChromatic) : h ≠ .black := by
  rintro rfl
  cases hh

theorem Hue.isChromatic_of_mem {h : Hue} (hh : h ∈ Hue.chromatic) : h.isChromatic := by
  revert hh
  cases h <;> decide

theorem Hue.expectedMembers_le (h : Hue) : h.expectedMembers ≤ 3 := by
  cases h <;> decide

namespace Palette

theorem isSome_color?_iff {h : Hue} {n : Nat} :
    (color? h n).isSome ↔ n < h.expectedMembers := by
  rw [color?, Hue.expectedMembers]
  split
  · simp [Lightness.all]
  · split <;> simp <;> omega

theorem lt_of_color? {h : Hue} {n : Nat} {c : Color} (hc : color? h n = some c) :
    n < h.expectedMembers :=
  isSome_color?_iff.mp (by rw [hc]; rfl)

theorem family_of_color? {h : Hue} {n : Nat} {c : Color} (hc : color? h n = some c) :
    c.family 1 = h := by
  have htable : ∀ h ∈ Hue.all, ∀ n < 3, ∀ c ∈ color? h n, c.family 1 = h := by decide
  exact htable h h.mem_all n (Nat.lt_of_lt_of_le (lt_of_color? hc) h.expectedMembers_le) c hc

theorem color?_inj {h h' : Hue} {m n : Nat} {c : Color} (hm : color? h m = some c)
    (hn : color? h' n = some c) : h = h' ∧ m = n := by
  obtain rfl : h = h' := (family_of_color? hm).symm.trans (family_of_color? hn)
  have htable : ∀ h ∈ Hue.all, ∀ m < 3, ∀ n < 3, ∀ c ∈ color? h m, c ∈ color? h n → m = n := by
    decide
  refine ⟨rfl, htable h h.mem_all m ?_ n ?_ c hm hn⟩
  · exact Nat.lt_of_lt_of_le (lt_of_color? hm) h.expectedMembers_le
  · exact Nat.lt_of_lt_of_le (lt_of_color? hn) h.expectedMembers_le

theorem mem_colors_of_color? {h : Hue} {n : Nat} {c : Color} (hc : color? h n = some c) :
    c ∈ colors := by
  have htable : ∀ h ∈ Hue.all, ∀ n < 3, ∀ c ∈ color? h n, c ∈ colors := by decide
  exact htable h h.mem_all n (Nat.lt_of_lt_of_le (lt_of_color? hc) h.expectedMembers_le) c hc

theorem color_mem_colors (h : Hue) (l : Lightness) : color h l ∈ colors := by
  cases h <;> cases l <;> decide

theorem normal_ne_light {h : Hue} (hh : h.isChromatic) : color h .normal ≠ color h .light := by
  revert hh
  cases h <;> decide

theorem exists_color_of_mem {c : Color} (hc : c ∈ colors) : ∃ h l, c = color h l := by
  have hslot : ∀ s ∈ slots, s.color = color s.hue (s.lightness.getD .normal) := by decide
  obtain ⟨s, hs, rfl⟩ := List.mem_map.mp hc
  exact ⟨_, _, hslot s hs⟩

def ofHue (h : Hue) : List Color :=
  if h.isChromatic then Lightness.all.map (color h) else [color h .normal]

theorem length_ofHue (h : Hue) : (ofHue h).length = h.expectedMembers := by
  cases h <;> rfl

theorem nodup_ofHue (h : Hue) : (ofHue h).Nodup := by
  cases h <;> decide

theorem mem_ofHue_iff {h : Hue} {c : Color} : c ∈ ofHue h ↔ ∃ l, c = color h l := by
  constructor
  · intro hc
    rw [ofHue] at hc
    split at hc
    · obtain ⟨l, -, rfl⟩ := List.mem_map.mp hc
      exact ⟨l, rfl⟩
    · exact ⟨.normal, List.mem_singleton.mp hc⟩
  · rintro ⟨l, rfl⟩
    cases h <;> cases l <;> decide

end Palette

end PaletteSnap
