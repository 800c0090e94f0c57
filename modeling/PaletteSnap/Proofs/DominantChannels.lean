import Mathlib.Data.List.Induction
import PaletteSnap.Proofs.Dominance
import PaletteSnap.Proofs.Recoloring

namespace PaletteSnap

namespace Color

variable {margin t : Nat} {c : Color} {x : UInt8}

def least (c : Color) : Nat :=
  min c.red.toNat (min c.green.toNat c.blue.toNat)

def greatest (c : Color) : Nat :=
  max c.red.toNat (max c.green.toNat c.blue.toNat)

-- The top slides from red over green to blue, which red exceeds by the margin or more.
def SlidesAway (margin : Nat) (c : Color) : Prop :=
  (c.red.toNat : Int) - c.green.toNat < margin ∧ (c.green.toNat : Int) - c.blue.toNat < margin ∧
    (margin : Int) ≤ (c.red.toNat : Int) - c.blue.toNat

instance (margin : Nat) (c : Color) : Decidable (SlidesAway margin c) :=
  inferInstanceAs (Decidable (_ ∧ _ ∧ _))

theorem between_of_mem (hx : x ∈ c.channels) : c.least ≤ x.toNat ∧ x.toNat ≤ c.greatest := by
  simp only [channels, List.mem_cons, List.not_mem_nil, or_false] at hx
  simp only [least, greatest]
  rcases hx with rfl | rfl | rfl <;> omega

theorem exists_mem_toNat_eq_greatest (c : Color) : ∃ x ∈ c.channels, x.toNat = c.greatest := by
  rcases Nat.le_total c.red.toNat (max c.green.toNat c.blue.toNat) with hred | hred
  · rw [greatest, Nat.max_eq_right hred]
    rcases Nat.le_total c.green.toNat c.blue.toNat with hgreen | hgreen
    · exact ⟨c.blue, by simp [channels], (Nat.max_eq_right hgreen).symm⟩
    · exact ⟨c.green, by simp [channels], (Nat.max_eq_left hgreen).symm⟩
  · exact ⟨c.red, by simp [channels], (Nat.max_eq_left hred).symm⟩

theorem dominates_iff : dominates margin t x ↔ x.toNat < t + margin ∧ t < x.toNat + margin := by
  rw [dominates, decide_eq_true_eq]
  omega

theorem top_cases (hm : 1 ≤ margin) (c : Color) :
    (c.red.toNat < c.green.toNat + margin ∧ c.green.toNat < c.blue.toNat + margin ∧
      c.top margin = c.blue.toNat) ∨
    (c.red.toNat < c.green.toNat + margin ∧ c.blue.toNat + margin ≤ c.green.toNat ∧
      c.top margin = c.green.toNat) ∨
    (c.green.toNat + margin ≤ c.red.toNat ∧ c.red.toNat < c.blue.toNat + margin ∧
      c.top margin = c.blue.toNat) ∨
    (c.green.toNat + margin ≤ c.red.toNat ∧ c.blue.toNat + margin ≤ c.red.toNat ∧
      c.top margin = c.red.toNat) := by
  have hstart : 0 < c.red.toNat + margin := by omega
  simp only [top, channels, List.foldl_cons, List.foldl_nil, if_pos hstart]
  split <;> split <;> omega

theorem foldl_saturated (margin : Nat) (xs : List UInt8) (ht : t < 256) :
    xs.foldl (fun t x => if t < min (x.toNat + margin) 0xFFFFFFFF then x.toNat else t) t =
      xs.foldl (fun t x => if t < x.toNat + margin then x.toNat else t) t := by
  induction xs generalizing t with
  | nil => rfl
  | cons x xs ih =>
    have hsum : t < min (x.toNat + margin) 0xFFFFFFFF ↔ t < x.toNat + margin := by omega
    simp only [List.foldl_cons, hsum]
    apply ih
    split
    · exact x.toNat_lt
    · exact ht

structure Tops (margin : Nat) (xs : List UInt8) (t : Nat) : Prop where
  mem : ∃ x ∈ xs, x.toNat = t
  reach : ∀ x ∈ xs, x.toNat ≤ t + (xs.length - 1) * (margin - 1)

theorem Tops.step {xs : List UInt8} (h : Tops margin xs t) (x : UInt8) :
    Tops margin (xs ++ [x]) (if t < x.toNat + margin then x.toNat else t) := by
  obtain ⟨⟨y, hy, hyt⟩, hreach⟩ := h
  obtain ⟨n, hn⟩ : ∃ n, xs.length = n + 1 :=
    Nat.exists_eq_add_one.mpr (List.length_pos_iff.mpr (List.ne_nil_of_mem hy))
  have hlen : (xs ++ [x]).length - 1 = n + 1 := by
    rw [List.length_append, List.length_singleton, hn, Nat.add_sub_cancel]
  rw [hn, Nat.add_sub_cancel] at hreach
  split
  next htakes =>
    refine ⟨⟨x, List.mem_concat_self, rfl⟩, fun z hz => ?_⟩
    rw [hlen, Nat.add_one_mul]
    rcases List.mem_append.mp hz with hold | hnew
    · have hz' := hreach z hold
      omega
    · rw [List.mem_singleton.mp hnew]
      exact Nat.le_add_right _ _
  next hkeeps =>
    refine ⟨⟨y, List.mem_append_left _ hy, hyt⟩, fun z hz => ?_⟩
    rw [hlen, Nat.add_one_mul]
    rcases List.mem_append.mp hz with hold | hnew
    · have hz' := hreach z hold
      omega
    · rw [List.mem_singleton.mp hnew]
      omega

theorem tops_foldl (hm : 1 ≤ margin) {xs : List UInt8} (hne : xs ≠ []) :
    Tops margin xs (xs.foldl (fun t x => if t < x.toNat + margin then x.toNat else t) 0) := by
  induction xs using List.reverseRecOn with
  | nil => exact absurd rfl hne
  | append_singleton xs x ih =>
    rw [List.foldl_append]
    by_cases hxs : xs = []
    · subst hxs
      have hfirst : 0 < x.toNat + margin := by omega
      simp only [List.foldl_nil, List.foldl_cons, if_pos hfirst, List.nil_append]
      exact ⟨⟨x, List.mem_singleton_self x, rfl⟩, by simp⟩
    · exact (ih hxs).step x

theorem tops_top (hm : 1 ≤ margin) (c : Color) : Tops margin c.channels (c.top margin) :=
  tops_foldl hm (List.cons_ne_nil _ _)

theorem exists_dominates (hm : 1 ≤ margin) (c : Color) :
    ∃ x ∈ c.channels, dominates margin (c.top margin) x := by
  obtain ⟨x, hx, htop⟩ := (tops_top hm c).mem
  refine ⟨x, hx, dominates_iff.mpr ?_⟩
  omega

theorem top_le_greatest (hm : 1 ≤ margin) (c : Color) : c.top margin ≤ c.greatest := by
  obtain ⟨x, hx, htop⟩ := (tops_top hm c).mem
  rw [← htop]
  exact (between_of_mem hx).2

theorem greatest_le_top_add (hm : 1 ≤ margin) (c : Color) :
    c.greatest ≤ c.top margin + 2 * (margin - 1) := by
  obtain ⟨x, hx, hgreatest⟩ := exists_mem_toNat_eq_greatest c
  rw [← hgreatest]
  exact (tops_top hm c).reach x hx

theorem dominates_greatest_iff (hm : 1 ≤ margin) (hx : x ∈ c.channels)
    (hgreatest : x.toNat = c.greatest) :
    dominates margin (c.top margin) x ↔ ¬ c.SlidesAway margin := by
  have hcases := top_cases hm c
  have hbetween := between_of_mem hx
  rw [dominates_iff, SlidesAway]
  simp only [greatest] at hgreatest
  omega

theorem level_between_channels (hm : 1 ≤ margin) (c : Color) :
    c.least ≤ c.level margin ∧ c.level margin ≤ c.greatest := by
  apply level_between
  · obtain ⟨x, hx, hdom⟩ := exists_dominates hm c
    exact List.ne_nil_of_mem (List.mem_filter.mpr ⟨hx, hdom⟩)
  · intro x hx
    exact between_of_mem (List.mem_filter.mp hx).1

theorem classify_of_slidesAway (hm : 1 ≤ margin) (h : c.SlidesAway margin) :
    c.classify margin = ⟨.cyan, (c.green.toNat + c.blue.toNat) / 2⟩ := by
  have htop : c.top margin = c.blue.toNat := by
    have hcases := top_cases hm c
    rw [SlidesAway] at h
    omega
  rw [SlidesAway] at h
  have hred : dominates margin (c.top margin) c.red = false := by
    rw [← Bool.not_eq_true, dominates_iff]
    omega
  have hgreen : dominates margin (c.top margin) c.green = true := by
    rw [dominates_iff]
    omega
  have hblue : dominates margin (c.top margin) c.blue = true := by
    rw [dominates_iff]
    omega
  simp [classify, family, level, dominant, channels, hred, hgreen, hblue, Hue.ofLit]

theorem classify_of_dominates (h : ∀ x ∈ c.channels, dominates margin (c.top margin) x) :
    c.classify margin = ⟨if c.red < 128 then .black else .white,
      (c.red.toNat + c.green.toNat + c.blue.toNat) / 3⟩ := by
  have hred := h c.red (by simp [channels])
  have hgreen := h c.green (by simp [channels])
  have hblue := h c.blue (by simp [channels])
  simp [classify, family, level, dominant, channels, hred, hgreen, hblue, Hue.ofLit]

theorem dominates_of_wide (hwide : 256 ≤ margin) (c : Color) (x : UInt8) :
    dominates margin (c.top margin) x := by
  have hx := x.toNat_lt
  obtain ⟨y, -, htop⟩ := (tops_top (by omega : 1 ≤ margin) c).mem
  have hy := y.toNat_lt
  rw [dominates_iff, ← htop]
  omega

end Color

namespace Snapper

variable {s : Snapper}

theorem not_passes_of_wide (hwide : 256 ≤ s.margin) (pixels : List Color) :
    ¬ s.Passes pixels := by
  intro hpass
  have hnone : (Discovery.ofSamples s.tolerance pixels).clusters.countP
      (fun k => k.average.family s.margin = .blue) = 0 := by
    rw [List.countP_eq_zero]
    intro k _ hblue
    have hclass := Color.classify_of_dominates fun x _ =>
      Color.dominates_of_wide hwide k.average x
    have hgray := congrArg Classification.family hclass
    rw [Color.classify, of_decide_eq_true hblue] at hgray
    dsimp only at hgray
    split at hgray <;> cases hgray
  rw [hpass.families .blue] at hnone
  exact absurd hnone (by decide)

end Snapper

namespace Color

theorem dominant_channels (c : Color) {margin : Nat} (hm : 1 ≤ margin) :
    let lit := dominates margin (c.top margin)
    (∃ x ∈ c.channels, lit x) ∧
      (c.least ≤ c.level margin ∧ c.level margin ≤ c.greatest) ∧
      (c.top margin ≤ c.greatest ∧ c.greatest ≤ c.top margin + 2 * (margin - 1)) ∧
      (∀ x ∈ c.channels, x.toNat = c.greatest → (lit x ↔ ¬ c.SlidesAway margin)) ∧
      (c.SlidesAway margin →
        c.classify margin = ⟨.cyan, (c.green.toNat + c.blue.toNat) / 2⟩) ∧
      (256 ≤ margin →
        (∀ x ∈ c.channels, lit x) ∧
          c.classify margin = ⟨if c.red < 128 then .black else .white,
            (c.red.toNat + c.green.toNat + c.blue.toNat) / 3⟩ ∧
          ∀ s : Snapper, s.margin = margin → ∀ pixels m,
            (s.analyze pixels).result ≠ .ok m) ∧
      c.channels.foldl
        (fun t x => if t < min (x.toNat + margin) 0xFFFFFFFF then x.toNat else t) 0 =
          c.top margin := by
  intro lit
  refine ⟨exists_dominates hm c, level_between_channels hm c,
    ⟨top_le_greatest hm c, greatest_le_top_add hm c⟩,
    fun x hx hgreatest => dominates_greatest_iff hm hx hgreatest, classify_of_slidesAway hm, ?_,
    foldl_saturated margin c.channels (by decide)⟩
  intro hwide
  have hall : ∀ x ∈ c.channels, lit x := fun x _ => dominates_of_wide hwide c x
  refine ⟨hall, classify_of_dominates hall, ?_⟩
  rintro s rfl pixels m hm
  exact Snapper.not_passes_of_wide hwide pixels (Snapper.result_analyze_eq_ok_iff.mp hm).1

theorem dominant_channels_slidingWhite :
    1 ≤ 10 ∧ SlidesAway 10 ⟨255, 250, 245⟩ ∧
      ¬ dominates 10 (top 10 ⟨255, 250, 245⟩) 255 ∧
      classify 10 ⟨255, 250, 245⟩ = ⟨.cyan, 247⟩ ∧
      ∀ pixels m, ((⟨10, 256, false⟩ : Snapper).analyze pixels).result ≠ .ok m := by
  have haway : SlidesAway 10 ⟨255, 250, 245⟩ := by decide
  obtain ⟨-, -, -, hgreatest, hcyan, -⟩ := dominant_channels ⟨255, 250, 245⟩ (by decide : 1 ≤ 10)
  obtain ⟨-, -, -, -, -, hwide, -⟩ := dominant_channels Palette.white (by decide : 1 ≤ 256)
  refine ⟨by decide, haway, ?_, hcyan haway, ?_⟩
  · intro hred
    exact (hgreatest 255 (by decide) (by decide)).mp hred haway
  · exact (hwide (by decide)).2.2 _ rfl

end Color

end PaletteSnap
