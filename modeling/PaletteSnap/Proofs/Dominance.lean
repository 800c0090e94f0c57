import Mathlib.Algebra.Order.BigOperators.Group.List
import Mathlib.Algebra.Order.Ring.Nat
import PaletteSnap.Classification
import PaletteSnap.Proofs.Averaging

namespace PaletteSnap

theorem Color.level_between {margin low high : Nat} {c : Color} (hne : c.dominant margin ≠ [])
    (hall : ∀ x ∈ c.dominant margin, low ≤ x.toNat ∧ x.toNat ≤ high) :
    low ≤ c.level margin ∧ c.level margin ≤ high := by
  have hpos : 0 < (c.dominant margin).length := List.length_pos_iff.mpr hne
  have hbounds {n : Nat} (hn : n ∈ (c.dominant margin).map UInt8.toNat) : low ≤ n ∧ n ≤ high := by
    obtain ⟨x, hx, rfl⟩ := List.mem_map.mp hn
    exact hall x hx
  have hlow := List.card_nsmul_le_sum _ low fun n hn => (hbounds hn).1
  have hhigh := List.sum_le_card_nsmul _ high fun n hn => (hbounds hn).2
  simp only [List.length_map, Nat.nsmul_eq_mul] at hlow hhigh
  rw [Color.level, ← List.sum_eq_foldl_nat]
  constructor
  · rw [Nat.le_div_iff_mul_le hpos, Nat.mul_comm]
    exact hlow
  · exact Nat.div_le_of_le_mul hhigh

def Stands (margin : Nat) (band : Band) (lit : Bool) (x : UInt8) : Prop :=
  if lit then band.Holds x else x.toNat + margin ≤ band.low

structure StandsAs (margin : Nat) (band : Band) (h : Hue) (c : Color) : Prop where
  width : band.high < band.low + margin
  start : margin ≤ band.low ∨ band.low = 0
  red : Stands margin band h.redLit c.red
  green : Stands margin band h.greenLit c.green
  blue : Stands margin band h.blueLit c.blue

namespace StandsAs

variable {margin : Nat} {band : Band} {h : Hue} {c : Color}

theorem top_between (hc : StandsAs margin band h c) (hh : h ≠ .black) :
    band.low ≤ c.top margin ∧ c.top margin ≤ band.high := by
  obtain ⟨hwidth, hstart, hred, hgreen, hblue⟩ := hc
  simp only [Color.top, Color.channels, List.foldl_cons, List.foldl_nil]
  cases h <;>
    simp only [Stands, Band.Holds, Hue.redLit, Hue.greenLit, Hue.blueLit, if_true,
      Bool.false_eq_true, if_false] at hred hgreen hblue
  case black => exact absurd rfl hh
  all_goals
    split <;> split <;> split <;> omega

theorem dominates_eq (hc : StandsAs margin band h c) (hh : h ≠ .black) {lit : Bool} {x : UInt8}
    (hx : Stands margin band lit x) : Color.dominates margin (c.top margin) x = lit := by
  obtain ⟨hlow, hhigh⟩ := hc.top_between hh
  have hwidth := hc.width
  rw [Color.dominates]
  cases lit with
  | true =>
    obtain ⟨hxlow, hxhigh⟩ : band.Holds x := hx
    rw [decide_eq_true_eq]
    omega
  | false =>
    have hxlow : x.toNat + margin ≤ band.low := hx
    rw [decide_eq_false_iff_not]
    omega

theorem family_eq (hc : StandsAs margin band h c) (hh : h ≠ .black) :
    c.family margin = if h = .white ∧ c.red < 128 then .black else h := by
  simp only [Color.family, hc.dominates_eq hh hc.red, hc.dominates_eq hh hc.green,
    hc.dominates_eq hh hc.blue, Hue.ofLit_lit]
  cases h <;> simp

theorem holds_of_mem_dominant (hc : StandsAs margin band h c) (hh : h ≠ .black) {x : UInt8}
    (hx : x ∈ c.dominant margin) : band.Holds x := by
  obtain ⟨hmem, hdom⟩ := List.mem_filter.mp hx
  have hlit {lit : Bool} (hs : Stands margin band lit x) : band.Holds x := by
    have : lit = true := (hc.dominates_eq hh hs).symm.trans hdom
    subst this
    exact hs
  simp only [Color.channels, List.mem_cons, List.not_mem_nil, or_false] at hmem
  rcases hmem with rfl | rfl | rfl
  · exact hlit hc.red
  · exact hlit hc.green
  · exact hlit hc.blue

theorem dominant_ne_nil (hc : StandsAs margin band h c) (hh : h ≠ .black) :
    c.dominant margin ≠ [] := by
  have hmem {lit : Bool} {x : UInt8} (hx : x ∈ c.channels) (hs : Stands margin band lit x)
      (hlit : lit = true) : c.dominant margin ≠ [] :=
    List.ne_nil_of_mem (List.mem_filter.mpr ⟨hx, (hc.dominates_eq hh hs).trans hlit⟩)
  cases h with
  | black => exact absurd rfl hh
  | red | magenta | yellow | white => exact hmem (by simp [Color.channels]) hc.red rfl
  | green | cyan => exact hmem (by simp [Color.channels]) hc.green rfl
  | blue => exact hmem (by simp [Color.channels]) hc.blue rfl

theorem level_between (hc : StandsAs margin band h c) (hh : h ≠ .black) :
    band.low ≤ c.level margin ∧ c.level margin ≤ band.high :=
  Color.level_between (hc.dominant_ne_nil hh) fun _ hx => hc.holds_of_mem_dominant hh hx

end StandsAs

end PaletteSnap
