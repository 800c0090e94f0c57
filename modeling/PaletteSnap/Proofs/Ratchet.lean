import Mathlib.Tactic.Ring
import PaletteSnap.Proofs.Assignment

namespace PaletteSnap

theorem Color.Near.channelGap_le {t : Nat} {a b : Color} (h : Color.Near t a b)
    {channel : Color → UInt8} (hch : channel ∈ [Color.red, Color.green, Color.blue]) :
    channelGap (channel a) (channel b) ≤ t := by
  simp only [List.mem_cons, List.not_mem_nil, or_false] at hch
  rcases hch with rfl | rfl | rfl
  · exact h.1
  · exact h.2.1
  · exact h.2.2

namespace Cluster

variable {w : UInt64} {a x : UInt8}

theorem toNat_mergeChannel_eq_add_fdiv (hw : w.toNat < 2 ^ 56) (a x : UInt8) :
    ((mergeChannel w a x).toNat : Int) =
      a.toNat + ((x.toNat : Int) - a.toNat).fdiv (w.toNat + 1) := by
  have hpos : (0 : Int) ≤ w.toNat + 1 := by omega
  have hne : (w.toNat : Int) + 1 ≠ 0 := by omega
  have hsplit : (a.toNat : Int) * w.toNat + x.toNat =
      (x.toNat - a.toNat) + a.toNat * (w.toNat + 1) := by ring
  rw [toNat_mergeChannel (by omega), Int.fdiv_eq_ediv_of_nonneg _ hpos]
  push_cast
  rw [hsplit, Int.add_mul_ediv_right _ _ hne, Int.add_comm]

theorem toNat_mergeChannel_of_le (hw : w.toNat < 2 ^ 56) (hle : a.toNat ≤ x.toNat)
    (hnear : x.toNat ≤ a.toNat + w.toNat) : (mergeChannel w a x).toNat = a.toNat := by
  rw [toNat_mergeChannel (by omega)]
  apply Nat.div_eq_of_lt_le
  · rw [Nat.mul_add_one]
    omega
  · rw [Nat.add_mul, Nat.one_mul, Nat.mul_add_one]
    omega

theorem toNat_mergeChannel_of_lt (hw : w.toNat < 2 ^ 56) (hlt : x.toNat < a.toNat)
    (hnear : a.toNat ≤ x.toNat + w.toNat) : (mergeChannel w a x).toNat + 1 = a.toNat := by
  obtain ⟨n, hn⟩ : ∃ n, a.toNat = n + 1 := Nat.exists_eq_add_one.mpr (by omega)
  have hquot : ((n + 1) * w.toNat + x.toNat) / (w.toNat + 1) = n := by
    apply Nat.div_eq_of_lt_le
    · rw [Nat.mul_add_one, Nat.add_mul, Nat.one_mul]
      omega
    · rw [Nat.mul_add_one]
      omega
  rw [toNat_mergeChannel (by omega), hn, hquot]

-- Even where the product wraps around, a sample this near does not lift the average.
theorem mergeChannel_le (hw : w.toNat + 1 < 2 ^ 64) (hnear : x.toNat ≤ a.toNat + w.toNat) :
    mergeChannel w a x ≤ a := by
  have hsum : (a.toUInt64 * w + x.toUInt64).toNat ≤ a.toNat * w.toNat + x.toNat := by
    rw [UInt64.toNat_add, UInt64.toNat_mul, UInt8.toNat_toUInt64, UInt8.toNat_toUInt64]
    exact Nat.le_trans (Nat.mod_le _ _) (Nat.add_le_add_right (Nat.mod_le _ _) _)
  have hnext : (w + 1).toNat = w.toNat + 1 := by
    rw [UInt64.toNat_add, UInt64.toNat_one]
    exact Nat.mod_eq_of_lt hw
  have hquot : (a.toNat * w.toNat + x.toNat) / (w.toNat + 1) ≤ a.toNat := by
    apply Nat.le_of_lt_succ
    rw [Nat.div_lt_iff_lt_mul (Nat.succ_pos _), Nat.succ_mul, Nat.mul_add_one]
    omega
  rw [UInt8.le_iff_toNat_le, mergeChannel, UInt64.toNat_toUInt8, UInt64.toNat_div, hnext]
  exact Nat.le_trans (Nat.mod_le _ _) (Nat.le_trans (Nat.div_le_div_right hsum) hquot)

variable {k k₁ k₂ : Cluster} {t : Nat} {channel : Color → UInt8}

structure Sunk (k k' : Cluster) : Prop where
  weight : k.weight.toNat ≤ k'.weight.toNat
  average : ∀ channel ∈ [Color.red, Color.green, Color.blue],
    channel k'.average ≤ channel k.average

theorem Sunk.refl (k : Cluster) : Sunk k k :=
  ⟨Nat.le_refl _, fun _ _ => UInt8.le_refl _⟩

theorem Sunk.trans (h : Sunk k k₁) (h' : Sunk k₁ k₂) : Sunk k k₂ :=
  ⟨Nat.le_trans h.weight h'.weight,
    fun channel hch => UInt8.le_trans (h'.average channel hch) (h.average channel hch)⟩

theorem sunk_merge {x : Color} (hacc : k.accepts t x) (ht : t ≤ k.weight.toNat)
    (hw : k.weight.toNat + 1 < 2 ^ 64) : Sunk k (k.merge x) := by
  constructor
  · rw [toNat_weight_merge hw]
    exact Nat.le_succ _
  · intro channel hch
    have hgap : channelGap (channel k.average) (channel x) ≤ t :=
      (accepts_iff.mp hacc).channelGap_le hch
    rw [channelGap] at hgap
    rw [channel_merge hch]
    exact mergeChannel_le hw (by omega)

theorem toNat_channel_merge {x : Color} (hw : k.weight.toNat < 2 ^ 56) (hacc : k.accepts t x)
    (hch : channel ∈ [Color.red, Color.green, Color.blue]) :
    let a := (channel k.average).toNat
    let s := (channel x).toNat
    let a' := (channel (k.merge x).average).toNat
    (a' : Int) = a + ((s : Int) - a).fdiv (k.weight.toNat + 1) ∧
      (t ≤ k.weight.toNat → (a ≤ s → a' = a) ∧ (s < a → a' + 1 = a)) := by
  have hgap : channelGap (channel k.average) (channel x) ≤ t :=
    (accepts_iff.mp hacc).channelGap_le hch
  rw [channelGap] at hgap
  intro a s a'
  have ha' : a' = (mergeChannel k.weight (channel k.average) (channel x)).toNat :=
    congrArg UInt8.toNat (channel_merge hch k x)
  rw [ha']
  refine ⟨toNat_mergeChannel_eq_add_fdiv hw _ _, fun ht => ⟨fun hle => ?_, fun hlt => ?_⟩⟩
  · exact toNat_mergeChannel_of_le hw hle (by omega)
  · exact toNat_mergeChannel_of_lt hw hlt (by omega)

end Cluster

namespace Discovery

variable {d : Discovery} {t j : Nat} {x : Color} {xs ys : List Color} {k : Cluster}

theorem getElem?_insert_of_some (hk : d.clusters[j]? = some k) (x : Color) :
    (d.insert x).1.clusters[j]? = some k ∨
      k.accepts d.tolerance x ∧ (d.insert x).1.clusters[j]? = some (k.merge x) := by
  rw [getElem?_insert]
  split
  next hj => exact .inr ⟨accepts_of_index_insert hk hj.symm, by rw [hk]; rfl⟩
  next => exact .inl hk

theorem exists_sunk_insert (hk : d.clusters[j]? = some k) (ht : d.tolerance ≤ k.weight.toNat)
    (hw : k.weight.toNat + 1 < 2 ^ 64) (x : Color) :
    ∃ k', (d.insert x).1.clusters[j]? = some k' ∧ k.Sunk k' ∧
      k'.weight.toNat ≤ k.weight.toNat + 1 := by
  rcases getElem?_insert_of_some hk x with hsame | ⟨hacc, hmerge⟩
  · exact ⟨k, hsame, .refl k, Nat.le_succ _⟩
  · refine ⟨k.merge x, hmerge, Cluster.sunk_merge hacc ht hw, ?_⟩
    rw [Cluster.toNat_weight_merge hw]

theorem exists_sunk_insertAll (xs : List Color) (hk : d.clusters[j]? = some k)
    (ht : d.tolerance ≤ k.weight.toNat) (hw : k.weight.toNat + xs.length < 2 ^ 64) :
    ∃ k', (d.insertAll xs).1.clusters[j]? = some k' ∧ k.Sunk k' ∧
      k'.weight.toNat ≤ k.weight.toNat + xs.length := by
  induction xs generalizing d k with
  | nil => exact ⟨k, hk, .refl k, Nat.le_refl _⟩
  | cons x xs ih =>
    rw [List.length_cons] at hw
    obtain ⟨k₁, hk₁, hsunk₁, hle₁⟩ := exists_sunk_insert hk ht (by omega) x
    have ht₁ : (d.insert x).1.tolerance ≤ k₁.weight.toNat := by
      rw [tolerance_insert]
      exact Nat.le_trans ht hsunk₁.weight
    obtain ⟨k₂, hk₂, hsunk₂, hle₂⟩ := ih hk₁ ht₁ (by omega)
    refine ⟨k₂, hk₂, hsunk₁.trans hsunk₂, ?_⟩
    rw [List.length_cons]
    omega

theorem ofSamples_append (t : Nat) (xs ys : List Color) :
    ofSamples t (xs ++ ys) = ((ofSamples t xs).insertAll ys).1 := by
  rw [ofSamples_eq_insertAll, insertAll_append, ← ofSamples_eq_insertAll]

theorem toNat_weight_le_length (hn : xs.length ≤ 2 ^ 56)
    (hk : (ofSamples t xs).clusters[j]? = some k) : k.weight.toNat ≤ xs.length := by
  rw [ofSamples_eq_insertAll] at hk
  rw [toNat_weight_eq_count (by omega) hk, ← length_insertAll_snd (empty t) xs]
  exact List.count_le_length

theorem averages_ratchet_down {t : Nat} {xs : List Color} (hn : xs.length < 2 ^ 56) :
    (∀ (x : Color) (i : Nat) (k : Cluster),
      (ofSamples t xs).clusters[i]? = some k → ((ofSamples t xs).insert x).2 = i →
      ∃ k', ((ofSamples t xs).insert x).1.clusters[i]? = some k' ∧
        ∀ channel ∈ [Color.red, Color.green, Color.blue],
          let a := (channel k.average).toNat
          let s := (channel x).toNat
          let a' := (channel k'.average).toNat
          (a' : Int) = a + ((s : Int) - a).fdiv (k.weight.toNat + 1) ∧
            (t ≤ k.weight.toNat → (a ≤ s → a' = a) ∧ (s < a → a' + 1 = a))) ∧
      ∀ (j : Nat) (k : Cluster) (ys zs : List Color),
        (ofSamples t xs).clusters[j]? = some k → t ≤ k.weight.toNat →
        (xs ++ ys ++ zs).length < 2 ^ 64 →
        ∃ k₁ k₂, (ofSamples t (xs ++ ys)).clusters[j]? = some k₁ ∧
          (ofSamples t (xs ++ ys ++ zs)).clusters[j]? = some k₂ ∧
          ∀ channel ∈ [Color.red, Color.green, Color.blue],
            channel k₂.average ≤ channel k₁.average := by
  constructor
  · intro x i k hk hi
    have hw : k.weight.toNat < 2 ^ 56 :=
      Nat.lt_of_le_of_lt (toNat_weight_le_length (Nat.le_of_lt hn) hk) hn
    have hacc := accepts_of_index_insert hk hi
    rw [tolerance_ofSamples] at hacc
    refine ⟨k.merge x, ?_, fun channel hch => Cluster.toNat_channel_merge hw hacc hch⟩
    rw [getElem?_insert, if_pos hi.symm, hk]
    rfl
  · intro j k ys zs hk ht hlen
    rw [List.length_append, List.length_append] at hlen
    have hle := toNat_weight_le_length (Nat.le_of_lt hn) hk
    have htol : (ofSamples t xs).tolerance ≤ k.weight.toNat := by rwa [tolerance_ofSamples]
    obtain ⟨k₁, hk₁, hsunk₁, hle₁⟩ := exists_sunk_insertAll ys hk htol (by omega)
    rw [← ofSamples_append] at hk₁
    have htol₁ : (ofSamples t (xs ++ ys)).tolerance ≤ k₁.weight.toNat := by
      rw [tolerance_ofSamples]
      exact Nat.le_trans ht hsunk₁.weight
    obtain ⟨k₂, hk₂, hsunk₂, -⟩ := exists_sunk_insertAll zs hk₁ htol₁ (by omega)
    rw [← ofSamples_append] at hk₂
    exact ⟨k₁, k₂, hk₁, hk₂, hsunk₂.average⟩

-- Two samples weigh as much as the tolerance, so the lighter ones that follow lift nothing.
def heavyGray : List Color :=
  [⟨10, 10, 10⟩, ⟨10, 10, 10⟩]

theorem averages_ratchet_heavyGray :
    heavyGray.length < 2 ^ 56 ∧
      (∃ k', ((ofSamples 2 heavyGray).insert ⟨12, 8, 10⟩).1.clusters[0]? = some k' ∧
        k'.average.red.toNat = 10 ∧ k'.average.green.toNat + 1 = 10) ∧
      ∃ k₁ k₂, (ofSamples 2 (heavyGray ++ [⟨12, 8, 10⟩])).clusters[0]? = some k₁ ∧
        (ofSamples 2 (heavyGray ++ [⟨12, 8, 10⟩] ++ [⟨12, 11, 12⟩])).clusters[0]? = some k₂ ∧
        k₂.average.green ≤ k₁.average.green := by
  have hn : heavyGray.length < 2 ^ 56 := by decide
  obtain ⟨hstep, hrun⟩ := averages_ratchet_down (t := 2) hn
  obtain ⟨k', hk', hchannels⟩ := hstep ⟨12, 8, 10⟩ 0 ⟨⟨10, 10, 10⟩, 2, none, 0, none⟩ rfl rfl
  obtain ⟨k₁, k₂, hk₁, hk₂, hle⟩ :=
    hrun 0 _ [⟨12, 8, 10⟩] [⟨12, 11, 12⟩] rfl (by decide) (by decide)
  refine ⟨hn, ⟨k', hk', ?_, ?_⟩, k₁, k₂, hk₁, hk₂, hle Color.green (by simp)⟩
  · exact ((hchannels Color.red (by simp)).2 (by decide)).1 (by decide)
  · exact ((hchannels Color.green (by simp)).2 (by decide)).2 (by decide)

end Discovery

end PaletteSnap
