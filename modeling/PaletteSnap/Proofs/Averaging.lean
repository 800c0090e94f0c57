import Mathlib.Algebra.Group.Nat.Defs
import PaletteSnap.Cluster

namespace PaletteSnap

structure Band where
  low : Nat
  high : Nat
deriving DecidableEq, Repr

namespace Band

def Holds (b : Band) (x : UInt8) : Prop :=
  b.low ≤ x.toNat ∧ x.toNat ≤ b.high

def around (radius : Nat) (x : UInt8) : Band :=
  ⟨x.toNat - radius, x.toNat + radius⟩

def Narrow (tolerance : Nat) (b : Band) : Prop :=
  b.high ≤ b.low + tolerance

def Apart (tolerance : Nat) (a b : Band) : Prop :=
  a.high + tolerance < b.low ∨ b.high + tolerance < a.low

theorem holds_around_iff {t : Nat} {x y : UInt8} :
    (around t x).Holds y ↔ channelGap x y ≤ t := by
  simp only [around, Holds, channelGap]
  omega

theorem Narrow.channelGap_le {t : Nat} {b : Band} (h : b.Narrow t) {x y : UInt8}
    (hx : b.Holds x) (hy : b.Holds y) : channelGap x y ≤ t := by
  simp only [Narrow, Holds] at h hx hy
  simp only [channelGap]
  omega

theorem Apart.lt_channelGap {t : Nat} {a b : Band} (h : a.Apart t b) {x y : UInt8}
    (hx : a.Holds x) (hy : b.Holds y) : t < channelGap x y := by
  simp only [Apart, Holds] at h hx hy
  simp only [channelGap]
  omega

end Band

namespace Cluster

variable {w : UInt64} {a x : UInt8}

structure ChannelFits (w : UInt64) (a x : UInt8) : Prop where
  product : a.toNat * w.toNat < 2 ^ 64
  total : a.toNat * w.toNat + x.toNat < 2 ^ 64
  weight : w.toNat + 1 < 2 ^ 64
  quotient : (a.toNat * w.toNat + x.toNat) / (w.toNat + 1) < 2 ^ 8

theorem channelFits (hw : 255 * (w.toNat + 1) < 2 ^ 64) (a x : UInt8) : ChannelFits w a x := by
  have ha : a.toNat ≤ 255 := Nat.le_of_lt_succ a.toNat_lt
  have hx : x.toNat ≤ 255 := Nat.le_of_lt_succ x.toNat_lt
  have hmul : a.toNat * w.toNat ≤ 255 * w.toNat := Nat.mul_le_mul_right _ ha
  have hquot : (a.toNat * w.toNat + x.toNat) / (w.toNat + 1) ≤ 255 := by
    apply Nat.div_le_of_le_mul
    omega
  exact ⟨by omega, by omega, by omega, Nat.lt_of_le_of_lt hquot (by decide)⟩

theorem ChannelFits.toNat_mergeChannel (h : ChannelFits w a x) :
    (mergeChannel w a x).toNat = (a.toNat * w.toNat + x.toNat) / (w.toNat + 1) := by
  have hsum : (a.toUInt64 * w + x.toUInt64).toNat = a.toNat * w.toNat + x.toNat := by
    rw [UInt64.toNat_add, UInt64.toNat_mul, UInt8.toNat_toUInt64, UInt8.toNat_toUInt64,
      Nat.mod_eq_of_lt h.product, Nat.mod_eq_of_lt h.total]
  have hnext : (w + 1).toNat = w.toNat + 1 := by
    rw [UInt64.toNat_add, UInt64.toNat_one, Nat.mod_eq_of_lt h.weight]
  rw [mergeChannel, UInt64.toNat_toUInt8, UInt64.toNat_div, hsum, hnext]
  exact Nat.mod_eq_of_lt h.quotient

theorem toNat_mergeChannel (hw : 255 * (w.toNat + 1) < 2 ^ 64) (a x : UInt8) :
    (mergeChannel w a x).toNat = (a.toNat * w.toNat + x.toNat) / (w.toNat + 1) :=
  (channelFits hw a x).toNat_mergeChannel

theorem toNat_weight_merge {k : Cluster} (hw : k.weight.toNat + 1 < 2 ^ 64) (x : Color) :
    (k.merge x).weight.toNat = k.weight.toNat + 1 := by
  simp only [merge, UInt64.toNat_add, UInt64.toNat_one]
  exact Nat.mod_eq_of_lt hw

theorem channel_merge {channel : Color → UInt8}
    (hch : channel ∈ [Color.red, Color.green, Color.blue]) (k : Cluster) (x : Color) :
    channel (k.merge x).average = mergeChannel k.weight (channel k.average) (channel x) := by
  simp only [List.mem_cons, List.not_mem_nil, or_false] at hch
  rcases hch with rfl | rfl | rfl <;> rfl

end Cluster

theorem Band.holds_mergeChannel {b : Band} {w : UInt64} (hw : 255 * (w.toNat + 1) < 2 ^ 64)
    {a x : UInt8} (ha : b.Holds a) (hx : b.Holds x) : b.Holds (Cluster.mergeChannel w a x) := by
  have hlow : b.low * w.toNat ≤ a.toNat * w.toNat := Nat.mul_le_mul_right _ ha.1
  have hhigh : a.toNat * w.toNat ≤ b.high * w.toNat := Nat.mul_le_mul_right _ ha.2
  obtain ⟨hxlow, hxhigh⟩ := hx
  rw [Holds, Cluster.toNat_mergeChannel hw]
  constructor
  · rw [Nat.le_div_iff_mul_le (Nat.succ_pos _), Nat.mul_add_one]
    omega
  · apply Nat.div_le_of_le_mul
    rw [Nat.add_mul, Nat.one_mul, Nat.mul_comm w.toNat]
    omega

theorem channelGap_mergeChannel_le {w : UInt64} (hw : w.toNat < 2 ^ 56) (a x : UInt8) :
    channelGap (Cluster.mergeChannel w a x) x ≤ channelGap a x := by
  let between : Band := ⟨min a.toNat x.toNat, max a.toNat x.toNat⟩
  have h : between.Holds (Cluster.mergeChannel w a x) := Band.holds_mergeChannel (by omega)
    ⟨Nat.min_le_left _ _, Nat.le_max_left _ _⟩ ⟨Nat.min_le_right _ _, Nat.le_max_right _ _⟩
  simp only [Band.Holds, between] at h
  simp only [channelGap]
  omega

structure Box where
  red : Band
  green : Band
  blue : Band
deriving DecidableEq, Repr

namespace Box

def Holds (b : Box) (c : Color) : Prop :=
  b.red.Holds c.red ∧ b.green.Holds c.green ∧ b.blue.Holds c.blue

def Narrow (tolerance : Nat) (b : Box) : Prop :=
  b.red.Narrow tolerance ∧ b.green.Narrow tolerance ∧ b.blue.Narrow tolerance

def Apart (tolerance : Nat) (a b : Box) : Prop :=
  a.red.Apart tolerance b.red ∨ a.green.Apart tolerance b.green ∨
    a.blue.Apart tolerance b.blue

def around (radius : Nat) (c : Color) : Box :=
  ⟨.around radius c.red, .around radius c.green, .around radius c.blue⟩

theorem holds_around_iff {t : Nat} {x y : Color} :
    (around t x).Holds y ↔ Color.Near t x y := by
  simp only [around, Holds, Band.holds_around_iff, Color.Near]

theorem Narrow.near {t : Nat} {b : Box} (h : b.Narrow t) {x y : Color}
    (hx : b.Holds x) (hy : b.Holds y) : Color.Near t x y :=
  ⟨h.1.channelGap_le hx.1 hy.1, h.2.1.channelGap_le hx.2.1 hy.2.1,
    h.2.2.channelGap_le hx.2.2 hy.2.2⟩

theorem Apart.not_near {t : Nat} {a b : Box} (h : a.Apart t b) {x y : Color}
    (hx : a.Holds x) (hy : b.Holds y) : ¬ Color.Near t x y := by
  rintro ⟨hr, hg, hb⟩
  rcases h with h | h | h
  · exact absurd hr (Nat.not_le.mpr (h.lt_channelGap hx.1 hy.1))
  · exact absurd hg (Nat.not_le.mpr (h.lt_channelGap hx.2.1 hy.2.1))
  · exact absurd hb (Nat.not_le.mpr (h.lt_channelGap hx.2.2 hy.2.2))

theorem holds_merge {b : Box} {k : Cluster} (hw : k.weight.toNat < 2 ^ 56) {x : Color}
    (hk : b.Holds k.average) (hx : b.Holds x) : b.Holds (k.merge x).average :=
  have hfits : 255 * (k.weight.toNat + 1) < 2 ^ 64 := by omega
  ⟨Band.holds_mergeChannel hfits hk.1 hx.1, Band.holds_mergeChannel hfits hk.2.1 hx.2.1,
    Band.holds_mergeChannel hfits hk.2.2 hx.2.2⟩

end Box

theorem Cluster.accepts_merge {k : Cluster} (hw : k.weight.toNat < 2 ^ 56) {t : Nat} {x : Color}
    (h : k.accepts t x) : (k.merge x).accepts t x := by
  rw [accepts_iff] at h ⊢
  exact ⟨Nat.le_trans (channelGap_mergeChannel_le hw _ _) h.1,
    Nat.le_trans (channelGap_mergeChannel_le hw _ _) h.2.1,
    Nat.le_trans (channelGap_mergeChannel_le hw _ _) h.2.2⟩

end PaletteSnap
