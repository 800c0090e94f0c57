import Mathlib.Algebra.Order.BigOperators.Group.List
import PaletteSnap.Proofs.Announcements
import PaletteSnap.Proofs.BucketOrder

namespace PaletteSnap

def Mismatch.excess (m : Mismatch) : Int :=
  m.found - m.expected

theorem exists_lt_of_sum_eq {α : Type*} {xs : List α} (hne : xs ≠ []) {f g : α → Int}
    (hdiff : ∀ x ∈ xs, f x ≠ g x) (hsum : (xs.map f).sum = (xs.map g).sum) :
    ∃ x ∈ xs, f x < g x := by
  obtain ⟨x, hx, hle⟩ := List.exists_le_of_sum_le hne f g (le_of_eq hsum)
  exact ⟨x, hx, lt_of_le_of_ne hle (hdiff x hx)⟩

theorem exists_excess_and_lack {ms : List Mismatch} (hne : ms ≠ [])
    (hwrong : ∀ m ∈ ms, m.found ≠ m.expected) (hsum : (ms.map Mismatch.excess).sum = 0) :
    (∃ m ∈ ms, m.expected < m.found) ∧ ∃ m ∈ ms, m.found < m.expected := by
  have hzero : (ms.map fun _ => (0 : Int)).sum = (ms.map Mismatch.excess).sum := by simp [hsum]
  have hexcess : ∀ m ∈ ms, (0 : Int) ≠ m.excess := by
    intro m hm
    have hdiff := hwrong m hm
    rw [Mismatch.excess]
    omega
  obtain ⟨large, hlarge, hpos⟩ := exists_lt_of_sum_eq hne hexcess hzero
  obtain ⟨small, hsmall, hneg⟩ :=
    exists_lt_of_sum_eq hne (fun m hm => (hexcess m hm).symm) hzero.symm
  rw [Mismatch.excess] at hpos hneg
  exact ⟨⟨large, hlarge, by omega⟩, small, hsmall, by omega⟩

namespace Buckets

variable {b : Buckets} {n margin : Nat} {m : Mismatch}

theorem Fits.perm_range (hfits : b.Fits n) (hall : ∀ i < n, ∃ h, i ∈ b.members h) :
    (Hue.all.flatMap b.members).Perm (List.range n) := by
  have hhues : Hue.all.Nodup := by decide
  have hnodup : (Hue.all.flatMap b.members).Nodup := by
    refine List.nodup_flatMap.mpr ⟨fun h _ => hfits.nodup h, hhues.imp ?_⟩
    intro h h' hne i hi hi'
    exact hne (hfits.unique hi hi')
  refine (List.perm_ext_iff_of_nodup hnodup List.nodup_range).mpr fun i => ?_
  rw [List.mem_flatMap, List.mem_range]
  constructor
  · rintro ⟨h, -, hi⟩
    exact hfits.lt h i hi
  · intro hi
    obtain ⟨h, hmem⟩ := hall i hi
    exact ⟨h, h.mem_all, hmem⟩

theorem perm_members_classify (margin : Nat) (d : Discovery) :
    (Hue.all.flatMap (classify margin d).2.members).Perm (List.range d.size) := by
  apply (fits_classify margin d).perm_range
  intro i hi
  exact ⟨_, (mem_members_classify (List.getElem?_eq_getElem hi)).mpr rfl⟩

theorem mem_mismatches_iff :
    m ∈ b.mismatches ↔ m.found = (b.members m.hue).length ∧ m.expected = m.hue.expectedMembers ∧
      m.found ≠ m.expected := by
  obtain ⟨h, found, expected⟩ := m
  simp only [mismatches, List.mem_filterMap, Option.ite_none_right_eq_some, Option.some.injEq,
    Mismatch.mk.injEq]
  constructor
  · rintro ⟨h', -, hne, rfl, rfl, rfl⟩
    exact ⟨rfl, rfl, hne⟩
  · rintro ⟨rfl, rfl, hne⟩
    exact ⟨h, h.mem_all, hne, rfl, rfl, rfl⟩

theorem pairwise_mismatches (b : Buckets) :
    b.mismatches.Pairwise fun m m' => m.hue.bits < m'.hue.bits := by
  have hhues : Hue.all.Pairwise fun h h' => h.bits < h'.bits := by decide
  refine hhues.filterMap _ ?_
  intro h h' hlt m hm m' hm'
  obtain ⟨-, ⟨⟩⟩ := Option.ite_none_right_eq_some.mp hm
  obtain ⟨-, ⟨⟩⟩ := Option.ite_none_right_eq_some.mp hm'
  exact hlt

-- A family that is left out has no excess.
theorem sum_excess_mismatches (b : Buckets) :
    (b.mismatches.map Mismatch.excess).sum =
      (Hue.all.map fun h => ((b.members h).length : Int) - h.expectedMembers).sum := by
  rw [mismatches]
  induction Hue.all with
  | nil => rfl
  | cons h hues ih =>
    rw [List.filterMap_cons, List.map_cons, List.sum_cons, ← ih]
    by_cases hsize : (b.members h).length = h.expectedMembers
    · simp [hsize]
    · simp [hsize, Mismatch.excess]

theorem sum_excess_classify {d : Discovery} (hsize : d.size = Palette.size) :
    ((classify margin d).2.mismatches.map Mismatch.excess).sum = 0 := by
  have hlengths := (perm_members_classify margin d).length_eq
  rw [List.length_flatMap, List.length_range, hsize] at hlengths
  rw [sum_excess_mismatches]
  simp [Hue.all, Hue.expectedMembers, Hue.isChromatic, Palette.size] at hlengths ⊢
  omega

end Buckets

namespace Snapper

variable {s : Snapper} {pixels : List Color} {ms : List Mismatch}

theorem result_analyze_eq_hueSorting_iff :
    (s.analyze pixels).result = .error (.hueSorting ms) ↔
      s.margin ≠ 0 ∧ (Discovery.ofSamples s.tolerance pixels).size = Palette.size ∧ ms ≠ [] ∧
        (Buckets.classify s.margin (.ofSamples s.tolerance pixels)).2.mismatches = ms := by
  by_cases hmargin : s.margin = 0
  · simp [analyze_of_margin_eq_zero hmargin, hmargin]
  by_cases hsize : (Discovery.ofSamples s.tolerance pixels).size = Palette.size
  case neg => simp [analyze_of_size_ne hmargin rfl hsize, hsize]
  rw [analyze_of_size_eq hmargin rfl hsize, result_sortHues]
  cases (Buckets.classify s.margin (.ofSamples s.tolerance pixels)).2.mismatches with
  | nil => simp
  | cons m rest =>
    simp only [Except.error.injEq, SnapError.hueSorting.injEq]
    refine ⟨?_, fun h => h.2.2.2⟩
    rintro rfl
    exact ⟨hmargin, hsize, List.cons_ne_nil m rest, rfl⟩

theorem mismatches_balance (hresult : (s.analyze pixels).result = .error (.hueSorting ms)) :
    let d := Discovery.ofSamples s.tolerance pixels
    let members (h : Hue) := d.clusters.countP fun k => (k.average.classify s.margin).family = h
    let expected (h : Hue) := if h = .black ∨ h = .white then 1 else 3
    ms.Pairwise (fun m m' => m.hue.bits < m'.hue.bits) ∧
      (∀ h found n, ⟨h, found, n⟩ ∈ ms ↔
        members h ≠ expected h ∧ found = members h ∧ n = expected h) ∧
      (ms.map fun m => (m.found : Int) - m.expected).sum = 0 ∧
      (∃ m ∈ ms, m.expected < m.found) ∧ (∃ m ∈ ms, m.found < m.expected) ∧ ms.length ≠ 1 := by
  intro d members expected
  obtain ⟨-, hsize, hne, rfl⟩ := result_analyze_eq_hueSorting_iff.mp hresult
  have hmembers (h : Hue) : ((Buckets.classify s.margin d).2.members h).length = members h :=
    Discovery.length_familyIndices s.margin d h
  have hexpected (h : Hue) : h.expectedMembers = expected h := by cases h <;> rfl
  have hsum : ((Buckets.classify s.margin d).2.mismatches.map Mismatch.excess).sum = 0 :=
    Buckets.sum_excess_classify hsize
  have hwrong : ∀ m ∈ (Buckets.classify s.margin d).2.mismatches, m.found ≠ m.expected :=
    fun m hm => (Buckets.mem_mismatches_iff.mp hm).2.2
  obtain ⟨⟨large, hlarge, hlt⟩, small, hsmall, hgt⟩ := exists_excess_and_lack hne hwrong hsum
  refine ⟨Buckets.pairwise_mismatches _, ?_, hsum, ⟨large, hlarge, hlt⟩, ⟨small, hsmall, hgt⟩, ?_⟩
  · intro h found n
    rw [Buckets.mem_mismatches_iff, hmembers, hexpected]
    constructor
    · rintro ⟨hfound, hn, hdiff⟩
      rw [hfound, hn] at hdiff
      exact ⟨hdiff, hfound, hn⟩
    · rintro ⟨hdiff, rfl, rfl⟩
      exact ⟨rfl, rfl, hdiff⟩
  · intro hone
    obtain ⟨m, hm⟩ := List.length_eq_one_iff.mp hone
    rw [hm, List.mem_singleton] at hlarge hsmall
    subst hlarge hsmall
    exact Nat.lt_asymm hlt hgt

-- Two families gain a dark color each, and black and yellow lose one.
def misplacedColors : List Color :=
  (Palette.colors.set 0 ⟨96, 0, 0⟩).set 16 ⟨0, 0, 96⟩

theorem mismatches_balance_misplaced :
    ∃ ms : List Mismatch,
      (({} : Snapper).analyze misplacedColors).result = .error (.hueSorting ms) ∧
        ⟨.red, 4, 3⟩ ∈ ms ∧ ⟨.green, 3, 3⟩ ∉ ms ∧
        (ms.map fun m => (m.found : Int) - m.expected).sum = 0 := by
  have hresult : (({} : Snapper).analyze misplacedColors).result =
    .error (.hueSorting [⟨.black, 0, 1⟩, ⟨.blue, 4, 3⟩, ⟨.red, 4, 3⟩, ⟨.yellow, 2, 3⟩]) := rfl
  obtain ⟨-, hmem, hsum, -⟩ := mismatches_balance hresult
  refine ⟨_, hresult, (hmem .red 4 3).mpr (by decide), fun hgreen => ?_, hsum⟩
  exact absurd ((hmem .green 3 3).mp hgreen) (by decide)

end Snapper

end PaletteSnap
