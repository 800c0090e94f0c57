import PaletteSnap.FileTree

namespace PaletteSnap.FileTree

variable {t : FileTree} {p : Path} {l place next : Location} {e : Entry} {content : List UInt8}

theorem not_isPrefix_of_get?_ne_folder (hl : t.get? l ≠ some .folder) : ¬ l <+: t.home :=
  fun h => hl (if_pos h)

theorem get?_fill_of_ne (hl : t.get? l ≠ some .folder) {m : Location} (hm : m ≠ l) :
    (t.fill l e).get? m = t.get? m := by
  rw [get?_fill t (not_isPrefix_of_get?_ne_folder hl), if_neg hm]

theorem get?_of_walk {c : Path.Component} (h : t.walk place c = .ok next) :
    t.get? place = some .folder := by
  unfold walk at h
  split at h
  next => cases h
  next => cases h
  next hfolder => exact hfolder

theorem follow_eq_ok_iff {steps : List Path.Component} : t.follow p steps = .ok next ↔
    (0 ∉ p.bytes ∧ p.bytes ≠ [] ∧ p.bytes.length ≤ maxPath) ∧
      steps.foldlM t.walk t.home = .ok next := by
  rw [follow]
  split
  next hzero => simp [hzero]
  next hzero =>
    split
    next hempty => simp [hempty]
    next hempty =>
      split
      next hlong => simp [Nat.not_le.mpr hlong]
      next hlong => simp [hzero, hempty, Nat.not_lt.mp hlong]

theorem target_eq_ok_iff : t.target p = .ok l ↔
    t.follow p (writeSteps p) = .ok l ∧ t.get? l ≠ some .folder := by
  rw [target]
  cases t.follow p (writeSteps p) with
  | error cause => simp
  | ok reached =>
    by_cases hfolder : t.get? reached = some .folder
    · simp only [hfolder, if_true, reduceCtorEq, false_iff, Except.ok.injEq]
      rintro ⟨rfl, hl⟩
      exact hl hfolder
    · simp only [hfolder, if_false, Except.ok.injEq, iff_self_and]
      rintro rfl
      exact hfolder

theorem eq_of_walk_here (h : t.walk place .here = .ok next) : place = next := by
  have hfolder := get?_of_walk h
  unfold walk at h
  rw [hfolder] at h
  exact Except.ok.inj h

theorem get?_of_foldlM_here {steps : List Path.Component}
    (h : (steps ++ [Path.Component.here]).foldlM t.walk place = .ok next) :
    t.get? next = some .folder := by
  rw [List.foldlM_append] at h
  cases hsteps : steps.foldlM t.walk place with
  | error cause =>
    rw [hsteps] at h
    cases h
  | ok reached =>
    rw [hsteps] at h
    have hhere : t.walk reached .here = .ok next := (bind_pure _).symm.trans h
    rw [← eq_of_walk_here hhere]
    exact get?_of_walk hhere

theorem asksFolder_of_target (h : t.target p = .ok l) : asksFolder p = false := by
  obtain ⟨hfollow, hl⟩ := target_eq_ok_iff.mp h
  cases hasks : asksFolder p with
  | false => rfl
  | true =>
    rw [writeSteps, if_pos hasks] at hfollow
    exact absurd (get?_of_foldlM_here (follow_eq_ok_iff.mp hfollow).2) hl

end PaletteSnap.FileTree
