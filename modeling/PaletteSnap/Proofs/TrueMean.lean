import Mathlib.Data.Nat.Choose.Basic
import PaletteSnap.Palette
import PaletteSnap.Proofs.Separation

namespace PaletteSnap

namespace Cluster

variable {channel : Color → UInt8} {samples xs : List Color} {k : Cluster} {x : Color}

-- A merge drops from the sum at most one for each sample that the cluster held before.
structure Lags (channel : Color → UInt8) (samples : List Color) (k : Cluster) : Prop where
  held : ∀ b : Band, (∀ y ∈ samples, b.Holds (channel y)) → b.Holds (channel k.average)
  le_sum : samples.length * (channel k.average).toNat ≤ (Band.values channel samples).sum
  sum_le : (Band.values channel samples).sum ≤
    samples.length * (channel k.average).toNat + samples.length * (samples.length - 1) / 2

theorem lags_ofSample (channel : Color → UInt8) (x : Color) : Lags channel [x] (ofSample x) where
  held _ hb := hb x List.mem_cons_self
  le_sum := by simp [Band.values, ofSample]
  sum_le := by simp [Band.values, ofSample]

theorem sum_values_concat (channel : Color → UInt8) (samples : List Color) (x : Color) :
    (Band.values channel (samples ++ [x])).sum =
      (Band.values channel samples).sum + (channel x).toNat := by
  simp [Band.values]

theorem mergeChannel_drops {w : UInt64} (hw : 255 * (w.toNat + 1) < 2 ^ 64) (a x : UInt8) :
    let n := w.toNat
    let a' := (mergeChannel w a x).toNat
    (n + 1) * a' ≤ n * a.toNat + x.toNat ∧ n * a.toNat + x.toNat ≤ (n + 1) * a' + n := by
  intro n a'
  have hquot : a' = (n * a.toNat + x.toNat) / (n + 1) := by
    rw [Nat.mul_comm n]
    exact toNat_mergeChannel hw a x
  have hfloor := Nat.mul_div_le (n * a.toNat + x.toNat) (n + 1)
  have hnext := Nat.lt_mul_div_succ (n * a.toNat + x.toNat) n.succ_pos
  rw [← hquot] at hfloor
  rw [Nat.succ_eq_add_one, ← hquot, Nat.mul_add_one] at hnext
  exact ⟨hfloor, by omega⟩

theorem Lags.merge (hch : channel ∈ [Color.red, Color.green, Color.blue])
    (h : Lags channel samples k) (hw : k.weight.toNat = samples.length)
    (hn : 255 * (samples.length + 1) < 2 ^ 64) (x : Color) :
    Lags channel (samples ++ [x]) (k.merge x) := by
  have hfits : 255 * (k.weight.toNat + 1) < 2 ^ 64 := by rwa [hw]
  have hlen : (samples ++ [x]).length = samples.length + 1 := List.length_append
  obtain ⟨hfloor, hdropped⟩ := mergeChannel_drops hfits (channel k.average) (channel x)
  rw [hw, ← channel_merge hch] at hfloor hdropped
  constructor
  · intro b hb
    rw [channel_merge hch]
    apply Band.holds_mergeChannel hfits
    · exact h.held b fun y hy => hb y (List.mem_append_left _ hy)
    · exact hb x List.mem_concat_self
  · rw [hlen, sum_values_concat]
    exact Nat.le_trans hfloor (Nat.add_le_add_right h.le_sum _)
  · -- the new bound is the old one and one more for each sample held before
    rw [hlen, sum_values_concat, Nat.triangle_succ]
    have hsum := h.sum_le
    omega

theorem toNat_weight_run (hn : 255 * (x :: xs).length < 2 ^ 64) :
    (xs.foldl merge (ofSample x)).weight.toNat = (x :: xs).length := by
  have hk : ofSamples? (x :: xs) = some (xs.foldl merge (ofSample x)) := rfl
  exact toNat_weight_of_ofSamples? hk (by omega)

theorem lags_run (hch : channel ∈ [Color.red, Color.green, Color.blue])
    (hn : 255 * (x :: xs).length < 2 ^ 64) :
    Lags channel (x :: xs) (xs.foldl merge (ofSample x)) := by
  induction xs using List.reverseRecOn with
  | nil => exact lags_ofSample channel x
  | append_singleton xs y ih =>
    rw [← List.cons_append, List.length_append, List.length_singleton] at hn
    have hbefore : 255 * (x :: xs).length < 2 ^ 64 := by omega
    rw [List.foldl_append, ← List.cons_append]
    exact (ih hbefore).merge hch (toNat_weight_run hbefore) hn y

theorem average_lags_mean {x : Color} {xs : List Color}
    (hn : (x :: xs).length ≤ 0x0101010101010101) :
    let run := xs.foldl merge (ofSample x)
    let n := (x :: xs).length
    (∀ ys y zs, xs = ys ++ y :: zs → ∀ channel ∈ [Color.red, Color.green, Color.blue],
      let k := ys.foldl merge (ofSample x)
      let a := channel k.average
      ChannelFits k.weight a (channel y) ∧
        (channel (k.merge y).average).toNat =
          (a.toNat * k.weight.toNat + (channel y).toNat) / (k.weight.toNat + 1)) ∧
      run.weight.toNat = n ∧
      ∀ channel ∈ [Color.red, Color.green, Color.blue],
        let a := (channel run.average).toNat
        let values := Band.values channel (x :: xs)
        (∃ low high, values.min? = some low ∧ values.max? = some high ∧ low ≤ a ∧ a ≤ high) ∧
          n * a ≤ values.sum ∧ values.sum ≤ n * a + n * (n - 1) / 2 := by
  have hfull : 255 * (x :: xs).length < 2 ^ 64 := by omega
  intro run n
  refine ⟨?_, toNat_weight_run hfull, ?_⟩
  · rintro ys y zs rfl channel hch k a
    have hbefore : 255 * ((x :: ys).length + 1) < 2 ^ 64 := by
      simp only [List.length_cons, List.length_append] at hfull ⊢
      omega
    have hweight : k.weight.toNat = (x :: ys).length := toNat_weight_run (by omega)
    have hfits : ChannelFits k.weight a (channel y) := channelFits (by rwa [hweight]) _ _
    refine ⟨hfits, ?_⟩
    rw [channel_merge hch]
    exact hfits.toNat_mergeChannel
  · intro channel hch a values
    have hlags : Lags channel (x :: xs) run := lags_run hch hfull
    have hne : x :: xs ≠ [] := List.cons_ne_nil x xs
    have hheld := hlags.held (Band.hull channel (x :: xs)) fun y hy => Band.holds_hull hy
    exact ⟨⟨_, _, Band.min?_eq_low channel hne, Band.max?_eq_high channel hne, hheld.1, hheld.2⟩,
      hlags.le_sum, hlags.sum_le⟩

-- Every merge drops as much as it can, so the average stays where it began.
def ascendingGrays : List Color :=
  [⟨1, 1, 1⟩, ⟨2, 2, 2⟩]

theorem average_lags_mean_ascending :
    (Palette.black :: ascendingGrays).length ≤ 0x0101010101010101 ∧
      let run := ascendingGrays.foldl merge (ofSample Palette.black)
      let values := Band.values Color.red (Palette.black :: ascendingGrays)
      ChannelFits 2 0 2 ∧ run.weight.toNat = 3 ∧ run.average.red = 0 ∧
        values.sum = 3 ∧ values.sum ≤ 3 * run.average.red.toNat + 3 * (3 - 1) / 2 := by
  have hn : (Palette.black :: ascendingGrays).length ≤ 0x0101010101010101 := by decide
  obtain ⟨hsteps, hweight, hmean⟩ := average_lags_mean hn
  obtain ⟨hfits, -⟩ := hsteps [⟨1, 1, 1⟩] ⟨2, 2, 2⟩ [] rfl Color.red (by simp)
  obtain ⟨-, -, hlag⟩ := hmean Color.red (by simp)
  exact ⟨hn, hfits, hweight, rfl, rfl, hlag⟩

theorem white_run_overflows {n : Nat} (hn : n + 1 = 0x0101010101010101) :
    let run := (List.replicate n Palette.white).foldl merge (ofSample Palette.white)
    run.average.red = 255 ∧ ¬ ChannelFits run.weight 255 255 := by
  intro run
  have hfull : 255 * (Palette.white :: List.replicate n Palette.white).length < 2 ^ 64 := by
    rw [List.length_cons, List.length_replicate, hn]
    decide
  have hweight : run.weight.toNat = 0x0101010101010101 := by
    rw [toNat_weight_run hfull, List.length_cons, List.length_replicate, hn]
  have hlags : Lags Color.red _ run := lags_run List.mem_cons_self hfull
  have hheld : (Band.mk 255 255).Holds run.average.red := by
    apply hlags.held
    intro y hy
    rw [← List.replicate_succ] at hy
    rw [List.eq_of_mem_replicate hy]
    exact ⟨by decide, by decide⟩
  constructor
  · exact UInt8.toNat_inj.mp (Nat.le_antisymm hheld.2 hheld.1)
  · rintro ⟨-, htotal, -, -⟩
    rw [hweight] at htotal
    exact absurd htotal (by decide)

end Cluster

end PaletteSnap
