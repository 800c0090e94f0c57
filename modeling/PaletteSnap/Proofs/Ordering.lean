import Mathlib.Data.List.Basic
import PaletteSnap.Buckets

namespace PaletteSnap

theorem perm_insertByKey {α : Type} (key : α → Nat) (x : α) (xs : List α) :
    (insertByKey key x xs).Perm (x :: xs) := by
  induction xs with
  | nil => exact .refl _
  | cons y xs ih =>
    rw [insertByKey]
    split
    · exact .refl _
    · exact (ih.cons y).trans (.swap x y xs)

theorem perm_sortByKey {α : Type} (key : α → Nat) (xs : List α) :
    (sortByKey key xs).Perm xs := by
  induction xs with
  | nil => exact .refl _
  | cons x xs ih => exact (perm_insertByKey key x _).trans (ih.cons x)

theorem insertByKey_of_le {α : Type} {key : α → Nat} {x : α} {xs : List α}
    (h : ∀ y ∈ xs, key x ≤ key y) : insertByKey key x xs = x :: xs := by
  cases xs with
  | nil => rfl
  | cons y xs => rw [insertByKey, if_pos (h y List.mem_cons_self)]

theorem sortByKey_of_pairwise {α : Type} {key : α → Nat} {xs : List α}
    (h : xs.Pairwise fun x y => key x ≤ key y) : sortByKey key xs = xs := by
  induction xs with
  | nil => rfl
  | cons x xs ih =>
    obtain ⟨hx, hxs⟩ := List.pairwise_cons.mp h
    rw [sortByKey, ih hxs, insertByKey_of_le hx]

def Before (key : Nat → Nat) (i j : Nat) : Prop :=
  key i < key j ∨ key i = key j ∧ i < j

instance (key : Nat → Nat) (i j : Nat) : Decidable (Before key i j) :=
  inferInstanceAs (Decidable (_ ∨ _))

namespace Before

variable {key : Nat → Nat} {i j : Nat}

theorem irrefl (key : Nat → Nat) (i : Nat) : ¬ Before key i i := by
  simp [Before]

theorem asymm (h : Before key i j) : ¬ Before key j i := by
  simp only [Before] at h ⊢
  omega

theorem le (h : Before key i j) : key i ≤ key j := by
  rcases h with hlt | ⟨heq, -⟩
  · exact Nat.le_of_lt hlt
  · exact Nat.le_of_eq heq

theorem of_le_of_lt (hkey : key i ≤ key j) (hij : i < j) : Before key i j := by
  simp only [Before]
  omega

end Before

theorem pairwise_insertByKey {key : Nat → Nat} {i : Nat} {js : List Nat}
    (hi : ∀ j ∈ js, i < j) (hjs : js.Pairwise (Before key)) :
    (insertByKey key i js).Pairwise (Before key) := by
  induction js with
  | nil => simp [insertByKey]
  | cons j js ih =>
    obtain ⟨hj, hrest⟩ := List.pairwise_cons.mp hjs
    rw [insertByKey]
    split
    next hle =>
      refine List.pairwise_cons.mpr ⟨?_, hjs⟩
      have hij : Before key i j := .of_le_of_lt hle (hi j List.mem_cons_self)
      intro j' hj'
      rcases List.mem_cons.mp hj' with rfl | hmem
      · exact hij
      · have hjj' := hj j' hmem
        simp only [Before] at hij hjj' ⊢
        omega
    next hlt =>
      refine List.pairwise_cons.mpr ⟨?_, ih (fun j' h => hi j' (List.mem_cons_of_mem _ h)) hrest⟩
      intro j' hj'
      rcases List.mem_cons.mp ((perm_insertByKey key i js).mem_iff.mp hj') with rfl | hmem
      · exact .inl (Nat.not_le.mp hlt)
      · exact hj j' hmem

theorem pairwise_sortByKey (key : Nat → Nat) {js : List Nat} (h : js.Pairwise (· < ·)) :
    (sortByKey key js).Pairwise (Before key) := by
  induction js with
  | nil => simp [sortByKey]
  | cons j js ih =>
    obtain ⟨hj, hrest⟩ := List.pairwise_cons.mp h
    refine pairwise_insertByKey (fun j' hj' => hj j' ?_) (ih hrest)
    exact (perm_sortByKey key js).mem_iff.mp hj'

theorem idxOf_eq_countP {key : Nat → Nat} {i : Nat} {js : List Nat}
    (h : js.Pairwise (Before key)) (hi : i ∈ js) :
    js.idxOf i = js.countP (Before key · i) := by
  induction js with
  | nil => simp at hi
  | cons j js ih =>
    obtain ⟨hj, hrest⟩ := List.pairwise_cons.mp h
    by_cases hji : j = i
    · subst hji
      have hnone : js.countP (Before key · j) = 0 := by
        rw [List.countP_eq_zero]
        intro j' hj'
        simpa using (hj j' hj').asymm
      rw [List.idxOf_cons_self, List.countP_cons, hnone]
      simp [Before.irrefl]
    · have hmem : i ∈ js := (List.mem_cons.mp hi).resolve_left (Ne.symm hji)
      rw [List.idxOf_cons_ne _ hji, ih hrest hmem, List.countP_cons,
        if_pos (decide_eq_true (hj i hmem))]

theorem idxOf_sortByKey (key : Nat → Nat) {js : List Nat} (h : js.Pairwise (· < ·)) {i : Nat}
    (hi : i ∈ js) : (sortByKey key js).idxOf i = js.countP (Before key · i) := by
  have hperm := perm_sortByKey key js
  rw [idxOf_eq_countP (pairwise_sortByKey key h) (hperm.mem_iff.mpr hi), hperm.countP_eq]

section

variable {key : Nat → Nat} {n i j k : Nat} (hi : key i < n) (hj : key j = n) (hk : key k = n)

include hi hj hk

theorem countP_before_lowest : [i, j, k].countP (Before key · i) = 0 := by
  have hji : ¬ Before key j i := by simp only [Before]; omega
  have hki : ¬ Before key k i := by simp only [Before]; omega
  simp [hji, hki, Before.irrefl]

theorem countP_before_second : [i, j, k].countP (Before key · j) = if k < j then 2 else 1 := by
  have hij : Before key i j := .inl (hj ▸ hi)
  have hkj : Before key k j ↔ k < j := by simp only [Before]; omega
  by_cases h : k < j <;> simp [hij, hkj, h, Before.irrefl]

theorem countP_before_third (hne : j ≠ k) :
    [i, j, k].countP (Before key · k) = if k < j then 1 else 2 := by
  have hik : Before key i k := .inl (hk ▸ hi)
  have hjk : Before key j k ↔ ¬ k < j := by simp only [Before]; omega
  by_cases h : k < j <;> simp [hik, hjk, h, Before.irrefl]

end

namespace Buckets

theorem members_sortByLevel_of_chromatic (d : Discovery) (b : Buckets) {h : Hue}
    (hh : h.isChromatic) : (b.sortByLevel d).members h = sortByKey (levelAt d) (b.members h) :=
  if_pos hh

theorem members_sortByLevel_of_gray (d : Discovery) (b : Buckets) {h : Hue}
    (hh : ¬ h.isChromatic) : (b.sortByLevel d).members h = b.members h :=
  if_neg hh

theorem perm_members_sortByLevel (d : Discovery) (b : Buckets) (h : Hue) :
    ((b.sortByLevel d).members h).Perm (b.members h) := by
  by_cases hh : h.isChromatic
  · rw [members_sortByLevel_of_chromatic d b hh]
    exact perm_sortByKey _ _
  · rw [members_sortByLevel_of_gray d b hh]

end Buckets

end PaletteSnap
