import PaletteSnap.Command

namespace PaletteSnap.Command

-- Where a step ends in a state of interest, it started in one, and it could as well have started
-- from the image of its start.
def Commutes {ι σ : Type} (step : σ → Item ι → Except Stop σ) (f : σ → σ) (q : σ → Prop) : Prop :=
  ∀ s item s', step s item = .ok s' → q s' → q s ∧ step (f s) item = .ok (f s')

namespace Commutes

variable {ι σ : Type} {switches : List (Switch ι)} {step : σ → Item ι → Except Stop σ}
  {f : σ → σ} {q : σ → Prop} {s s' : σ} {waiting : Option ι}

theorem map (hstep : Commutes step f q) {item : Item ι}
    (h : (step s item).map (none, ·) = .ok (waiting, s')) (hq : q s') :
    q s ∧ (step (f s) item).map (none, ·) = .ok (waiting, f s') := by
  cases hok : step s item with
  | error stop =>
    rw [hok] at h
    cases h
  | ok next =>
    rw [hok] at h
    obtain ⟨rfl, rfl⟩ : none = waiting ∧ next = s' := by simpa [Except.map] using h
    obtain ⟨hs, himage⟩ := hstep s item next hok hq
    exact ⟨hs, by rw [himage]; rfl⟩

theorem letters (hstep : Commutes step f q) {cs : List Char}
    (h : letters switches step cs s = .ok (waiting, s')) (hq : q s') :
    q s ∧ Command.letters switches step cs (f s) = .ok (waiting, f s') := by
  induction cs generalizing s with
  | nil =>
    obtain ⟨rfl, rfl⟩ : none = waiting ∧ s = s' := by simpa [Command.letters] using h
    exact ⟨hq, rfl⟩
  | cons c rest ih =>
    unfold Command.letters at h ⊢
    split at h
    next => cases h
    next w hfind =>
      split at h
      next hvalued =>
        simp only [hvalued, if_true]
        split at h
        next =>
          obtain ⟨rfl, rfl⟩ : some w.name = waiting ∧ s = s' := by simpa using h
          exact ⟨hq, rfl⟩
        next => exact hstep.map h hq
        next => exact hstep.map h hq
      next hflag =>
        split at h
        next => cases h
        next next hok =>
          obtain ⟨hnext, hrest⟩ := ih h
          obtain ⟨hs, himage⟩ := hstep s _ next hok hnext
          simp only [hflag, himage]
          exact ⟨hs, hrest⟩

theorem fullName (hstep : Commutes step f q) {text : List Char}
    (h : fullName switches step text s = .ok (waiting, s')) (hq : q s') :
    q s ∧ Command.fullName switches step text (f s) = .ok (waiting, f s') := by
  unfold Command.fullName at h ⊢
  dsimp only at h ⊢
  split at h
  next => cases h
  next w hfind =>
    split at h
    next => exact hstep.map h hq
    next =>
      obtain ⟨rfl, rfl⟩ : some w.name = waiting ∧ s = s' := by simpa using h
      exact ⟨hq, rfl⟩
    next => cases h
    next => exact hstep.map h hq

theorem operands (hstep : Commutes step f q) {args : List String}
    (h : operands step args s = .ok s') (hq : q s') :
    q s ∧ Command.operands step args (f s) = .ok (f s') := by
  induction args generalizing s with
  | nil =>
    obtain rfl : s = s' := by simpa [Command.operands] using h
    exact ⟨hq, rfl⟩
  | cons arg rest ih =>
    unfold Command.operands at h ⊢
    split at h
    next => cases h
    next next hok =>
      obtain ⟨hnext, hrest⟩ := ih h
      obtain ⟨hs, himage⟩ := hstep s _ next hok hnext
      simp only [himage]
      exact ⟨hs, hrest⟩

theorem walk (hstep : Commutes step f q) {args : List String}
    (h : walk switches step waiting args s = .ok s') (hq : q s') :
    q s ∧ Command.walk switches step waiting args (f s) = .ok (f s') := by
  -- What is known is the last state, so each step takes it from the rest of the arguments.
  induction args generalizing s waiting with
  | nil =>
    cases waiting with
    | none =>
      obtain rfl : s = s' := by simpa [Command.walk] using h
      exact ⟨hq, rfl⟩
    | some name => cases h
  | cons arg rest ih =>
    cases waiting with
    | some name =>
      unfold Command.walk at h ⊢
      split at h
      next => cases h
      next =>
        split at h
        next => cases h
        next next hok =>
          obtain ⟨hnext, hrest⟩ := ih h
          obtain ⟨hs, himage⟩ := hstep s _ next hok hnext
          simp only [himage]
          exact ⟨hs, hrest⟩
    | none =>
      unfold Command.walk at h ⊢
      split at h
      next => exact hstep.operands h hq
      next =>
        split at h
        next => cases h
        next waiting next hok =>
          obtain ⟨hnext, hrest⟩ := ih h
          obtain ⟨hs, himage⟩ := hstep.fullName hok hnext
          simp only [himage]
          exact ⟨hs, hrest⟩
      next =>
        split at h
        next => cases h
        next waiting next hok =>
          obtain ⟨hnext, hrest⟩ := ih h
          obtain ⟨hs, himage⟩ := hstep.letters hok hnext
          simp only [himage]
          exact ⟨hs, hrest⟩
      next =>
        split at h
        next => cases h
        next next hok =>
          obtain ⟨hnext, hrest⟩ := ih h
          obtain ⟨hs, himage⟩ := hstep s _ next hok hnext
          simp only [himage]
          exact ⟨hs, hrest⟩

end Commutes

namespace Remap

end Remap

end PaletteSnap.Command
