import PaletteSnap.Proofs.Ratchet

namespace PaletteSnap

namespace Cluster

variable {w : UInt64} {a x : UInt8} {k : Cluster} {c : Color} {channel : Color → UInt8}

theorem toNat_mergeChannel_sinks (hw : 255 * (w.toNat + 1) < 2 ^ 64) (hle : x.toNat ≤ a.toNat) :
    x.toNat ≤ (mergeChannel w a x).toNat ∧
      (mergeChannel w a x).toNat ≤ max x.toNat (a.toNat - 1) := by
  have hheld : (Band.mk x.toNat a.toNat).Holds (mergeChannel w a x) :=
    Band.holds_mergeChannel hw ⟨hle, Nat.le_refl _⟩ ⟨Nat.le_refl _, hle⟩
  refine ⟨hheld.1, ?_⟩
  rcases Nat.eq_or_lt_of_le hle with heq | hlt
  · rw [heq]
    exact Nat.le_trans hheld.2 (Nat.le_max_left _ _)
  · have hquot : (a.toNat * w.toNat + x.toNat) / (w.toNat + 1) < a.toNat := by
      rw [Nat.div_lt_iff_lt_mul (Nat.succ_pos _), Nat.mul_add_one]
      exact Nat.add_lt_add_left hlt _
    rw [← toNat_mergeChannel hw] at hquot
    omega

theorem channel_merges_sink (hch : channel ∈ [Color.red, Color.green, Color.blue]) (n : Nat)
    (hw : 255 * (k.weight.toNat + n) < 2 ^ 64)
    (hle : (channel c).toNat ≤ (channel k.average).toNat) :
    let a := channel ((List.replicate n c).foldl merge k).average
    (channel c).toNat ≤ a.toNat ∧
      a.toNat ≤ max (channel c).toNat ((channel k.average).toNat - n) := by
  induction n generalizing k with
  | zero => exact ⟨hle, Nat.le_max_right _ _⟩
  | succ n ih =>
    have hweight : (k.merge c).weight.toNat = k.weight.toNat + 1 := toNat_weight_merge (by omega) c
    have hfits : 255 * (k.weight.toNat + 1) < 2 ^ 64 := by omega
    obtain ⟨hlow, hhigh⟩ := toNat_mergeChannel_sinks hfits hle
    rw [← channel_merge hch] at hlow hhigh
    obtain ⟨hlow', hhigh'⟩ := ih (by omega) hlow
    refine ⟨hlow', Nat.le_trans hhigh' ?_⟩
    omega

theorem channel_receive_sinks {o : Option Cluster}
    (hch : channel ∈ [Color.red, Color.green, Color.blue])
    (hw : ∀ k, o = some k → 255 * (k.weight.toNat + 1) < 2 ^ 64)
    (hle : ∀ k, o = some k → (channel c).toNat ≤ (channel k.average).toNat) :
    let a := channel (receive o c).average
    (channel c).toNat ≤ a.toNat ∧ a.toNat ≤ max (channel c).toNat 254 := by
  cases o with
  | none => exact ⟨Nat.le_refl _, Nat.le_max_left _ _⟩
  | some k =>
    obtain ⟨hlow, hhigh⟩ := toNat_mergeChannel_sinks (hw k rfl) (hle k rfl)
    rw [← channel_merge hch] at hlow hhigh
    have hbyte := (channel k.average).toNat_lt
    refine ⟨hlow, Nat.le_trans hhigh ?_⟩
    omega

-- A channel has at most 255 steps to go, and every merge takes one of them.
theorem channel_settles {o : Option Cluster} {n : Nat}
    (hch : channel ∈ [Color.red, Color.green, Color.blue])
    (hw : ∀ k, o = some k → 255 * (k.weight.toNat + 1) < 2 ^ 64)
    (hle : ∀ k, o = some k → (channel c).toNat ≤ (channel k.average).toNat)
    (hn : 255 * ((receive o c).weight.toNat + n) < 2 ^ 64) (hmany : 255 ≤ n + 1) :
    channel ((List.replicate n c).foldl merge (receive o c)).average = channel c := by
  obtain ⟨hlow, hhigh⟩ := channel_receive_sinks hch hw hle
  obtain ⟨hlow', hhigh'⟩ := channel_merges_sink hch n hn hlow
  apply UInt8.toNat_inj.mp
  omega

end Cluster

namespace Discovery

variable {d : Discovery} {x : Color} {i n : Nat}

theorem find?_insert_self (hn : n < 2 ^ 56) (h : d.WeightsAtMost n) (x : Color) :
    (d.insert x).1.find? x = some (d.insert x).2 := by
  have hreceiver := getElem?_insert d x (d.insert x).2
  rw [if_pos rfl] at hreceiver
  refine find?_eq_some_iff.mpr ⟨_, hreceiver, ?_, ?_⟩
  · rw [tolerance_insert]
    exact accepts_receive hn h x
  · -- an earlier cluster is as it was, and it would have received the sample
    intro j k hj hk hacc
    rw [getElem?_insert, if_neg (Nat.ne_of_lt hj)] at hk
    rw [tolerance_insert] at hacc
    obtain ⟨i, hi, hfind⟩ := exists_find?_le hk hacc
    rw [index_insert, hfind, Option.getD_some] at hj
    exact Nat.not_le.mpr hj hi

theorem find?_insert_of_find? (hn : n < 2 ^ 56) (h : d.WeightsAtMost n)
    (hi : d.find? x = some i) : (d.insert x).1.find? x = some i := by
  rw [find?_insert_self hn h, index_insert, hi, Option.getD_some]

theorem insertAll_replicate (m : Nat) (h : d.WeightsAtMost n) (hn : n + m ≤ 2 ^ 56)
    (hi : d.find? x = some i) :
    d.insertAll (List.replicate m x) =
      ({ d with clusters :=
          d.clusters.modify i fun k => (List.replicate m x).foldl Cluster.merge k },
        List.replicate m i) := by
  induction m generalizing d n with
  | zero =>
    change (d, []) = ({ d with clusters := d.clusters.modify i id }, [])
    rw [List.modify_id]
  | succ m ih =>
    have hrest := ih (h.insert (by omega) x) (by omega) (find?_insert_of_find? (by omega) h hi)
    rw [insert_of_find?_eq_some hi] at hrest
    simp only [List.replicate_succ, insertAll, insert_of_find?_eq_some hi, hrest,
      List.modify_modify_eq]
    rfl

theorem find?_insertAll_replicate (m : Nat) (h : d.WeightsAtMost n) (hn : n + m ≤ 2 ^ 56)
    (hi : d.find? x = some i) : (d.insertAll (List.replicate m x)).1.find? x = some i := by
  induction m generalizing d n with
  | zero => exact hi
  | succ m ih => exact ih (h.insert (by omega) x) (by omega) (find?_insert_of_find? (by omega) h hi)

theorem repeats_stay_with_receiver {t : Nat} {xs : List Color} (hn : xs.length < 2 ^ 55)
    (x : Color) :
    let before := ofSamples t xs
    let after := (before.insert x).1
    let i := (before.insert x).2
    after.find? x = some i ∧
      ∀ m < 2 ^ 55,
        let again := after.insertAll (List.replicate m x)
        again.2 = List.replicate m i ∧ again.1.find? x = some i ∧ again.1.size = after.size ∧
          (∀ j, j ≠ i → again.1.clusters[j]? = after.clusters[j]?) ∧
          (255 ≤ m + 1 → ∃ k, again.1.clusters[i]? = some k ∧
            ∀ channel ∈ [Color.red, Color.green, Color.blue],
              (∀ k₀, before.clusters[i]? = some k₀ → channel x ≤ channel k₀.average) →
                channel k.average = channel x) := by
  intro before after i
  have hbefore : before.WeightsAtMost xs.length := fun j k hk =>
    toNat_weight_le_length (by omega) hk
  have hafter : after.WeightsAtMost (xs.length + 1) := hbefore.insert (by omega) x
  have hfind : after.find? x = some i := find?_insert_self (by omega) hbefore x
  refine ⟨hfind, fun m hm => ?_⟩
  intro again
  have hagain : again = _ := insertAll_replicate m hafter (by omega) hfind
  refine ⟨by rw [hagain], find?_insertAll_replicate m hafter (by omega) hfind, ?_, ?_, ?_⟩
  · rw [hagain]
    exact List.length_modify _ _ _
  · intro j hj
    rw [hagain]
    exact List.getElem?_modify_ne _ _ (Ne.symm hj)
  · intro hmany
    have hreceiver : after.clusters[i]? = some (Cluster.receive before.clusters[i]? x) := by
      rw [getElem?_insert, if_pos rfl]
    have hlast : again.1.clusters[i]? = some ((List.replicate m x).foldl Cluster.merge
        (Cluster.receive before.clusters[i]? x)) := by
      rw [hagain, List.getElem?_modify_eq, hreceiver]
      rfl
    refine ⟨_, hlast, ?_⟩
    intro channel hch habove
    have hweight := hafter i _ hreceiver
    apply Cluster.channel_settles hch _ _ (by omega) hmany
    · intro k hk
      have hle := hbefore i k hk
      omega
    · intro k hk
      exact UInt8.le_iff_toNat_le.mp (habove k hk)

-- In red the sample is above the average, which does not come to meet it.
def twoGrays : List Color :=
  [⟨100, 100, 100⟩, ⟨104, 100, 100⟩]

theorem repeats_stay_with_receiver_twoGrays :
    twoGrays.length < 2 ^ 55 ∧ 255 < 2 ^ 55 ∧
      let after := ((ofSamples 10 twoGrays).insert ⟨112, 95, 100⟩).1
      let again := after.insertAll (List.replicate 255 ⟨112, 95, 100⟩)
      after.find? ⟨112, 95, 100⟩ = some 0 ∧ again.2 = List.replicate 255 0 ∧
        again.1.size = 1 ∧
        ∃ k, again.1.clusters[0]? = some k ∧ k.average.green = 95 ∧ k.average.blue = 100 := by
  have hn : twoGrays.length < 2 ^ 55 := by decide
  obtain ⟨hfind, hrepeat⟩ := repeats_stay_with_receiver (t := 10) hn ⟨112, 95, 100⟩
  obtain ⟨hindices, -, hsize, -, hsunk⟩ := hrepeat 255 (by decide)
  obtain ⟨k, hk, hchannels⟩ := hsunk (by decide)
  refine ⟨hn, by decide, hfind, hindices, hsize, k, hk, ?_, ?_⟩
  · exact hchannels Color.green (by simp) fun k₀ hk₀ => by cases hk₀; decide
  · exact hchannels Color.blue (by simp) fun k₀ hk₀ => by cases hk₀; decide

end Discovery

end PaletteSnap
