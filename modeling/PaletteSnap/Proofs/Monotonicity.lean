import Mathlib.Data.Fintype.Card
import PaletteSnap.Proofs.Announcements
import PaletteSnap.Proofs.Compactness
import PaletteSnap.Proofs.Separation

namespace PaletteSnap

namespace Discovery

variable {s t i j n : Nat} {xs : List Color} {x y : Color}

def placedTwice (s t : Nat) (xs : List Color) : List (Color × Nat × Nat) :=
  xs.zip (((empty s).insertAll xs).2.zip ((empty t).insertAll xs).2)

-- Where the second tolerance parts two samples that share a cluster at the first, the one in the
-- later cluster is near all samples of the earlier one.
def Steady (s t : Nat) (xs : List Color) : Prop :=
  ∀ p ∈ placedTwice s t xs, ∀ q ∈ placedTwice s t xs, ∀ r ∈ placedTwice s t xs,
    p.2.1 = q.2.1 → p.2.2 < q.2.2 → p.2.2 = r.2.2 → Color.Near t q.1 r.1

instance (s t : Nat) (xs : List Color) : Decidable (Steady s t xs) :=
  inferInstanceAs (Decidable (∀ p ∈ _, ∀ q ∈ _, ∀ r ∈ _, _ → _ → _ → _))

theorem mem_placedTwice_iff :
    (x, i, j) ∈ placedTwice s t xs ↔ ∃ n : Nat, xs[n]? = some x ∧
      ((empty s).insertAll xs).2[n]? = some i ∧ ((empty t).insertAll xs).2[n]? = some j := by
  simp [placedTwice, List.mem_iff_getElem?, List.getElem?_zip_eq_some]

theorem mem_placed_iff :
    (x, i) ∈ placed t xs ↔
      ∃ n : Nat, xs[n]? = some x ∧ ((empty t).insertAll xs).2[n]? = some i := by
  simp [placed, List.mem_iff_getElem?, List.getElem?_zip_eq_some]

theorem exists_index (s : Nat) (hx : xs[n]? = some x) :
    ∃ i, ((empty s).insertAll xs).2[n]? = some i :=
  ⟨_, getElem?_indices (empty s) hx⟩

theorem mem_placed_of_mem_placedTwice (h : (x, i, j) ∈ placedTwice s t xs) :
    (x, i) ∈ placed s xs ∧ (x, j) ∈ placed t xs := by
  obtain ⟨n, hx, hi, hj⟩ := mem_placedTwice_iff.mp h
  exact ⟨mem_placed_iff.mpr ⟨n, hx, hi⟩, mem_placed_iff.mpr ⟨n, hx, hj⟩⟩

theorem indices_take (d : Discovery) (n : Nat) (xs : List Color) :
    (d.insertAll (xs.take n)).2 = (d.insertAll xs).2.take n := by
  induction xs generalizing d n with
  | nil => simp [insertAll]
  | cons x xs ih =>
    cases n with
    | zero => rfl
    | succ n => exact congrArg ((d.insert x).2 :: ·) (ih (d.insert x).1 n)

theorem exists_mem_placedTwice_of_take (s : Nat) (h : (x, j) ∈ placed t (xs.take n)) :
    ∃ i, (x, i, j) ∈ placedTwice s t xs := by
  obtain ⟨k, hx, hj⟩ := mem_placed_iff.mp h
  rw [indices_take] at hj
  rw [List.getElem?_take, Option.ite_none_right_eq_some] at hx hj
  obtain ⟨i, hi⟩ := exists_index s hx.2
  exact ⟨i, mem_placedTwice_iff.mpr ⟨k, hx.2, hi, hj.2⟩⟩

structure Starts (s t : Nat) (xs : List Color) (x : Color) (i j n : Nat) : Prop where
  placed : (x, i, j) ∈ placedTwice s t xs
  size : (ofSamples t (xs.take n)).size = j
  unmatched : (ofSamples t (xs.take n)).find? x = none

theorem mem_indices_iff : j ∈ ((empty t).insertAll xs).2 ↔ j < (ofSamples t xs).size := by
  rw [← List.mem_eraseDups, eraseDups_indices, List.mem_range, ofSamples_eq_insertAll]

theorem find?_eq_none_of_index_insert {d : Discovery} (h : (d.insert x).2 = d.size) :
    d.find? x = none := by
  rw [index_insert] at h
  cases hf : d.find? x with
  | none => rfl
  | some i =>
    obtain ⟨k, hk, -⟩ := find?_eq_some_iff.mp hf
    obtain ⟨hi, -⟩ := List.getElem?_eq_some_iff.mp hk
    rw [hf, Option.getD_some] at h
    exact absurd h (Nat.ne_of_lt hi)

theorem exists_starts (s : Nat) (hj : j < (ofSamples t xs).size) :
    ∃ x i n, Starts s t xs x i j n := by
  have hmem : j ∈ ((empty t).insertAll xs).2 := mem_indices_iff.mpr hj
  let n := ((empty t).insertAll xs).2.idxOf j
  have hn : ((empty t).insertAll xs).2[n]? = some j := List.getElem?_idxOf hmem
  have hlt : n < xs.length := by
    rw [← length_insertAll_snd (empty t) xs]
    exact List.idxOf_lt_length_iff.mpr hmem
  have hx : xs[n]? = some xs[n] := List.getElem?_eq_getElem hlt
  obtain ⟨i, hi⟩ := exists_index s hx
  have hindex : ((ofSamples t (xs.take n)).insert xs[n]).2 = j := by
    rw [getElem?_indices (empty t) hx, ← ofSamples_eq_insertAll] at hn
    exact Option.some.inj hn
  -- the index occurs here for the first time, so the cluster did not exist before
  have hnew : ¬ j < (ofSamples t (xs.take n)).size := by
    intro hold
    have hearlier := mem_indices_iff.mpr hold
    rw [indices_take, List.mem_take_iff_idxOf_lt hmem] at hearlier
    exact Nat.lt_irrefl n hearlier
  have hsize : j = (ofSamples t (xs.take n)).size := by
    rcases insert_joins_or_appends (ofSamples t (xs.take n)) xs[n] with ⟨hjoin, -⟩ | ⟨happ, -⟩
    · exact absurd (hindex ▸ hjoin) hnew
    · exact hindex.symm.trans happ
  exact ⟨xs[n], i, n, mem_placedTwice_iff.mpr ⟨n, hx, hi, hn⟩, hsize.symm,
    find?_eq_none_of_index_insert (hindex.trans hsize)⟩

theorem Starts.not_lt_of_steady {x' : Color} {j' n' : Nat} (h : Starts s t xs x i j n)
    (h' : Starts s t xs x' i j' n') (hsteady : Steady s t xs) (hn : xs.length < 2 ^ 56) :
    ¬ j < j' := by
  intro hlt
  let before := ofSamples t (xs.take n')
  have hsize : j < before.clusters.length := Nat.lt_of_lt_of_eq hlt h'.size.symm
  have hk : before.clusters[j]? = some before.clusters[j] := List.getElem?_eq_getElem hsize
  -- all that the earlier cluster has received shares it with `x`, which shares a cluster with `x'`
  have hall : ∀ y ∈ (empty t).received j (xs.take n'), Color.Near t x' y := by
    intro y hy
    obtain ⟨i', hy'⟩ := exists_mem_placedTwice_of_take s (mem_received_iff.mp hy)
    exact hsteady _ h.placed _ h'.placed _ hy' rfl hlt rfl
  have hlen : (xs.take n').length < 2 ^ 56 := by
    rw [List.length_take]
    omega
  have hnear : Color.Near t before.clusters[j].average x' := near_average_ofSamples hlen hk hall
  have hacc : before.clusters[j].accepts before.tolerance x' := by
    rw [tolerance_ofSamples]
    exact Cluster.accepts_iff.mpr hnear
  exact find?_eq_none_iff.mp h'.unmatched _ (List.getElem_mem hsize) hacc

theorem size_le_of_steady (hsteady : Steady s t xs) (hn : xs.length < 2 ^ 56) :
    (ofSamples t xs).size ≤ (ofSamples s xs).size := by
  have hstart (j : Fin (ofSamples t xs).size) :
      ∃ i : Fin (ofSamples s xs).size, ∃ x n, Starts s t xs x i j n := by
    obtain ⟨x, i, n, h⟩ := exists_starts s j.2
    obtain ⟨k, -, hi, -⟩ := mem_placedTwice_iff.mp h.placed
    exact ⟨⟨i, mem_indices_iff.mp (List.mem_of_getElem? hi)⟩, x, n, h⟩
  choose f hf using hstart
  have hinj : Function.Injective f := by
    intro j j' hij
    obtain ⟨x, n, h⟩ := hf j
    obtain ⟨x', n', h'⟩ := hf j'
    rw [← hij] at h'
    have hle : ¬ (j : Nat) < j' := h.not_lt_of_steady h' hsteady hn
    have hge : ¬ (j' : Nat) < j := h'.not_lt_of_steady h hsteady hn
    exact Fin.ext (by omega)
  simpa using Fintype.card_le_of_injective f hinj

end Discovery

namespace Separated

open Discovery

variable {α : Type*} {box : α → Box} {labels : List α} {a b : α} {s t i j : Nat}
variable {xs : List Color} {x y : Color}

theorem unique (hsep : Separated t box labels) (ha : a ∈ labels) (hb : b ∈ labels)
    (hxa : (box a).Holds x) (hxb : (box b).Holds x) : a = b := by
  by_contra hne
  exact (hsep.apart a ha b hb hne).not_near hxa hxb (Color.near_self t x)

theorem holds_of_joins (hsep : Separated t box labels) (hst : s ≤ t)
    (hn : xs.length < 2 ^ 56) (hy : y ∈ (empty s).received j xs) (ha : a ∈ labels)
    (hall : ∀ y ∈ (empty s).received j xs, (box a).Holds y) (hb : b ∈ labels)
    (hx : (box b).Holds x) (hj : ((ofSamples s xs).insert x).2 = j) : (box a).Holds x := by
  obtain ⟨k, hk⟩ := exists_cluster_of_mem_received hy
  rw [← ofSamples_eq_insertAll] at hk
  have hheld : (box a).Holds k.average := holds_average_ofSamples hn hk hall
  have hacc : k.accepts s x := by
    rw [← tolerance_ofSamples s xs]
    exact accepts_of_index_insert hk hj
  have hnear : Color.Near t k.average x := (Cluster.accepts_iff.mp hacc).mono hst
  obtain rfl : a = b := by
    by_contra hne
    exact (hsep.apart a ha b hb hne).not_near hheld hx hnear
  exact hx

theorem holds_of_received (hsep : Separated t box labels) (hst : s ≤ t)
    (hn : xs.length < 2 ^ 56) (hxs : ∀ x ∈ xs, ∃ a ∈ labels, (box a).Holds x) (ha : a ∈ labels)
    (hx : x ∈ (empty s).received j xs) (hxa : (box a).Holds x)
    (hy : y ∈ (empty s).received j xs) : (box a).Holds y := by
  induction xs using List.reverseRecOn generalizing a x y with
  | nil => simp [received] at hx
  | append_singleton xs z ih =>
    rw [List.length_append] at hn
    have hold : ∀ x ∈ xs, ∃ a ∈ labels, (box a).Holds x := fun x hx => hxs x (by simp [hx])
    obtain ⟨c, hc, hzc⟩ := hxs z (by simp)
    have hlen : xs.length < 2 ^ 56 := by omega
    rw [received_concat, ← ofSamples_eq_insertAll] at hx hy
    by_cases hj : ((ofSamples s xs).insert z).2 = j
    · rw [if_pos hj, List.mem_append, List.mem_singleton] at hx hy
      rcases hx with hx | rfl <;> rcases hy with hy | rfl
      · exact ih hlen hold ha hx hxa hy
      · exact hsep.holds_of_joins hst hlen hx ha (fun y hy => ih hlen hold ha hx hxa hy) hc hzc hj
      · -- the label of `y` is that of all before `x`, so `x` joined them with that label
        obtain ⟨b, hb, hyb⟩ := hold y (mem_of_mem_received hy)
        have hxb := hsep.holds_of_joins hst hlen hy hb
          (fun y' hy' => ih hlen hold hb hy hyb hy') hc hzc hj
        exact hsep.unique hb ha hxb hxa ▸ hyb
      · exact hxa
    · rw [if_neg hj, List.append_nil] at hx hy
      exact ih hlen hold ha hx hxa hy

theorem steady (hsep : Separated t box labels) (hst : s ≤ t) (hn : xs.length < 2 ^ 56)
    (hxs : ∀ x ∈ xs, ∃ a ∈ labels, (box a).Holds x) : Steady s t xs := by
  rintro ⟨x, i, j⟩ hp ⟨y, i', j'⟩ hq ⟨z, i'', j''⟩ hr (rfl : i = i') - (rfl : j = j'')
  obtain ⟨hxi, hxj⟩ := mem_placed_of_mem_placedTwice hp
  obtain ⟨hyi, -⟩ := mem_placed_of_mem_placedTwice hq
  obtain ⟨-, hzj⟩ := mem_placed_of_mem_placedTwice hr
  obtain ⟨a, ha, hxa⟩ := hxs x (mem_of_mem_placed hxi)
  have hya := hsep.holds_of_received hst hn hxs ha (mem_received_iff.mpr hxi) hxa
    (mem_received_iff.mpr hyi)
  have hza := hsep.holds_of_received (Nat.le_refl t) hn hxs ha (mem_received_iff.mpr hxj) hxa
    (mem_received_iff.mpr hzj)
  exact (hsep.narrow a ha).near hya hza

end Separated

namespace Discovery

variable {s t : Nat}

theorem steady_of_wellLabelled {α : Type*} [DecidableEq α] {samples : List (α × Color)}
    (h : WellLabelled t samples) (hst : s ≤ t) (hn : samples.length < 2 ^ 56) :
    Steady s t (samples.map Prod.snd) := by
  refine h.separated.steady hst (by simpa using hn) ?_
  intro x hx
  obtain ⟨p, hp, rfl⟩ := List.mem_map.mp hx
  exact ⟨p.1, holds_hull_samplesOf samples p hp⟩

theorem steady_of_le (ht : 255 ≤ t) (s : Nat) (xs : List Color) : Steady s t xs :=
  fun _ _ _ _ _ _ _ _ _ => Color.near_of_le ht _ _

end Discovery

namespace Snapper

open Discovery

variable {s : Snapper} {pixels : List Color} {found expected : Nat} {hint : Hint}

theorem eq_of_result_analyze_eq_colorCount
    (h : (s.analyze pixels).result = .error (.colorCount found expected hint)) :
    (ofSamples s.tolerance pixels).size = found ∧ found ≠ 20 ∧ expected = 20 ∧
      hint = Hint.forCount found 20 := by
  by_cases hmargin : s.margin = 0
  · simp [analyze_of_margin_eq_zero hmargin] at h
  by_cases hsize : (ofSamples s.tolerance pixels).size = Palette.size
  · rw [analyze_of_size_eq hmargin rfl hsize, result_sortHues] at h
    split at h <;> simp at h
  · rw [analyze_of_size_ne hmargin rfl hsize] at h
    simp only [Except.error.injEq, SnapError.colorCount.injEq] at h
    obtain ⟨rfl, rfl, rfl⟩ := h
    exact ⟨rfl, hsize, rfl, rfl⟩

theorem hint_eq_increase_iff : Hint.forCount found 20 = .increase ↔ 20 < found := by
  rw [Hint.forCount]
  split <;> simp [*]

theorem hint_eq_decrease_iff (hne : found ≠ 20) :
    Hint.forCount found 20 = .decrease ↔ found < 20 := by
  rw [Hint.forCount]
  split
  · simp only [reduceCtorEq, false_iff]
    omega
  · simp only [true_iff]
    omega

theorem hint_is_sound_if_steady {xs : List Color} (hn : xs.length < 2 ^ 56) :
    (∀ t₁ t₂, Steady t₁ t₂ xs → (ofSamples t₂ xs).size ≤ (ofSamples t₁ xs).size) ∧
      (∀ t₁ t₂, t₁ ≤ t₂ →
        (255 ≤ t₂ ∨ ∃ (α : Type) (samples : List (α × Color)),
          samples.map Prod.snd = xs ∧ WellLabelled t₂ samples) → Steady t₁ t₂ xs) ∧
      ∀ (s : Snapper) (found expected : Nat) (hint : Hint),
        (s.analyze xs).result = .error (.colorCount found expected hint) →
        (ofSamples s.tolerance xs).size = found ∧ expected = 20 ∧
          (hint = .increase ↔ 20 < found) ∧ (hint = .decrease ↔ found < 20) ∧
          ∀ t, (hint = .increase → s.tolerance ≤ t → Steady s.tolerance t xs →
              (ofSamples t xs).size ≤ found) ∧
            (hint = .decrease → t ≤ s.tolerance → Steady t s.tolerance xs →
              found ≤ (ofSamples t xs).size) := by
  classical
  refine ⟨fun t₁ t₂ hsteady => size_le_of_steady hsteady hn, ?_, ?_⟩
  · rintro t₁ t₂ hle (hmax | ⟨α, samples, rfl, hlabelled⟩)
    · exact steady_of_le hmax t₁ xs
    · exact steady_of_wellLabelled hlabelled hle (by simpa using hn)
  · intro s found expected hint h
    obtain ⟨rfl, hne, rfl, rfl⟩ := eq_of_result_analyze_eq_colorCount h
    refine ⟨rfl, rfl, hint_eq_increase_iff, hint_eq_decrease_iff hne, fun t => ⟨?_, ?_⟩⟩
    · intro _ _ hsteady
      exact size_le_of_steady hsteady hn
    · intro _ _ hsteady
      exact size_le_of_steady hsteady hn

theorem hint_is_sound_interleaved :
    (interleaved.map Prod.snd).length < 2 ^ 56 ∧ WellLabelled 10 interleaved ∧
      Steady 3 10 (interleaved.map Prod.snd) ∧
      (({} : Snapper).analyze (interleaved.map Prod.snd)).result =
        .error (.colorCount 2 20 .decrease) ∧
      2 ≤ (ofSamples 3 (interleaved.map Prod.snd)).size := by
  have hn : (interleaved.map Prod.snd).length < 2 ^ 56 := by decide
  have hlabelled : WellLabelled 10 interleaved := ⟨by decide, by decide⟩
  have hresult : (({} : Snapper).analyze (interleaved.map Prod.snd)).result =
      .error (.colorCount 2 20 .decrease) := rfl
  obtain ⟨-, hsteady, hhint⟩ := hint_is_sound_if_steady hn
  have hst := hsteady 3 10 (by decide) (.inr ⟨Bool, interleaved, rfl, hlabelled⟩)
  obtain ⟨-, -, -, -, hfollow⟩ := hhint {} 2 20 .decrease hresult
  exact ⟨hn, hlabelled, hst, hresult, (hfollow 3).2 rfl (by decide) hst⟩

-- With tolerance 3 the third gray joins the first one and moves it out of reach of the fourth.
def fourGrays : List Color :=
  [⟨4, 4, 4⟩, ⟨0, 0, 0⟩, ⟨1, 1, 1⟩, ⟨6, 6, 6⟩]

theorem size_rises_fourGrays :
    (ofSamples 2 fourGrays).size = 2 ∧ (ofSamples 3 fourGrays).size = 3 ∧
      (ofSamples 4 fourGrays).size = 2 ∧
      (({ tolerance := 3 } : Snapper).analyze fourGrays).result =
        .error (.colorCount 3 20 .decrease) ∧
      (({ tolerance := 2 } : Snapper).analyze fourGrays).result =
        .error (.colorCount 2 20 .decrease) :=
  ⟨by decide, by decide, by decide, rfl, rfl⟩

end Snapper

end PaletteSnap
