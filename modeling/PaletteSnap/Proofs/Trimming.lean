import Mathlib.Data.List.TakeWhile
import PaletteSnap.Text.Blank

namespace PaletteSnap.Text

structure IsCore (text core : List Char) : Prop where
  between : ∃ front back, text = front ++ core ++ back ∧
    (∀ c ∈ front, isBlank c = true) ∧ ∀ c ∈ back, isBlank c = true
  head : ∀ c ∈ core.head?, isBlank c = false
  last : ∀ c ∈ core.getLast?, isBlank c = false

variable {text core front back : List Char} {c : Char}

theorem trimEnd_cons_of_ne_nil (h : trimEnd text ≠ []) :
    trimEnd (c :: text) = c :: trimEnd text := by
  rw [trimEnd]
  split
  next hnil => exact absurd hnil h
  next => rfl

theorem trimEnd_cons_of_nil (h : trimEnd text = []) :
    trimEnd (c :: text) = if isBlank c then [] else [c] := by
  rw [trimEnd, h]

theorem trimEnd_append (hback : ∀ c ∈ back, isBlank c = true)
    (hlast : ∀ c ∈ core.getLast?, isBlank c = false) : trimEnd (core ++ back) = core := by
  induction core with
  | nil => exact trimEnd_eq_nil_iff.mpr hback
  | cons c rest ih =>
    cases rest with
    | nil =>
      have hc : isBlank c = false := hlast c rfl
      rw [List.singleton_append, trimEnd_cons_of_nil (trimEnd_eq_nil_iff.mpr hback), hc]
      rfl
    | cons d rest =>
      have hrest : trimEnd (d :: rest ++ back) = d :: rest :=
        ih fun x hx => hlast x (by simpa using hx)
      have hne : trimEnd (d :: rest ++ back) ≠ [] := by
        rw [hrest]
        exact List.cons_ne_nil d rest
      rw [List.cons_append, trimEnd_cons_of_ne_nil hne, hrest]

theorem exists_trimEnd_append (text : List Char) :
    ∃ back, text = trimEnd text ++ back ∧ ∀ c ∈ back, isBlank c = true := by
  induction text with
  | nil => exact ⟨[], rfl, by simp⟩
  | cons c rest ih =>
    obtain ⟨back, hrest, hback⟩ := ih
    by_cases hnil : trimEnd rest = []
    · rw [hnil, List.nil_append] at hrest
      subst hrest
      rw [trimEnd_cons_of_nil hnil]
      cases hc : isBlank c with
      | true => exact ⟨c :: rest, rfl, List.forall_mem_cons.mpr ⟨hc, hback⟩⟩
      | false => exact ⟨rest, rfl, hback⟩
    · rw [trimEnd_cons_of_ne_nil hnil]
      exact ⟨back, congrArg (c :: ·) hrest, hback⟩

theorem not_isBlank_getLast?_trimEnd : ∀ c ∈ (trimEnd text).getLast?, isBlank c = false := by
  induction text with
  | nil => simp [trimEnd]
  | cons c rest ih =>
    by_cases hnil : trimEnd rest = []
    · rw [trimEnd_cons_of_nil hnil]
      cases hc : isBlank c with
      | true => simp
      | false => simpa using hc
    · rw [trimEnd_cons_of_ne_nil hnil, List.getLast?_cons_of_ne_nil hnil]
      exact ih

theorem isCore_trim (text : List Char) : IsCore text (trim text) := by
  obtain ⟨back, hsplit, hback⟩ := exists_trimEnd_append (text.dropWhile isBlank)
  refine ⟨⟨text.takeWhile isBlank, back, ?_, fun c hc => List.mem_takeWhile_imp hc, hback⟩, ?_,
    not_isBlank_getLast?_trimEnd⟩
  · rw [List.append_assoc, trim, ← hsplit, List.takeWhile_append_dropWhile]
  · intro c hc
    have hhead : (text.dropWhile isBlank).head? = some c := by
      rw [hsplit, List.head?_append, show (trimEnd _).head? = some c from hc, Option.some_or]
    have hfirst := List.head?_dropWhile_not isBlank text
    rwa [hhead] at hfirst

theorem IsCore.trim_eq (h : IsCore text core) : trim text = core := by
  obtain ⟨⟨front, back, rfl, hfront, hback⟩, hhead, hlast⟩ := h
  rw [trim, List.append_assoc, List.dropWhile_append_of_pos hfront]
  cases core with
  | nil => rw [List.nil_append, List.dropWhile_eq_nil_iff.mpr hback, trimEnd]
  | cons c rest =>
    have hc : ¬ isBlank c = true := by simp [hhead c rfl]
    rw [List.cons_append, List.dropWhile_cons_of_neg hc]
    exact trimEnd_append hback hlast

theorem isCore_of_not_blank (hfront : ∀ c ∈ front, isBlank c = true)
    (hback : ∀ c ∈ back, isBlank c = true) (hcore : ∀ c ∈ core, isBlank c = false) :
    IsCore (front ++ core ++ back) core :=
  ⟨⟨front, back, rfl, hfront, hback⟩, fun c hc => hcore c (List.mem_of_mem_head? hc),
    fun c hc => hcore c (List.mem_of_getLast? hc)⟩

end PaletteSnap.Text
