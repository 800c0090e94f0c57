import PaletteSnap.Path

namespace PaletteSnap.Path

variable {a b bytes name piece n : List UInt8} {pieces front back : List (List UInt8)} {p : Path}

theorem split_eq_splitOn (bytes : List UInt8) : split bytes = bytes.splitOn slash := by
  induction bytes with
  | nil => rfl
  | cons b rest ih =>
    rw [List.splitOn_cons_eq_if_modifyHead, ← ih, split]
    by_cases hb : b = slash
    · simp [hb]
    · cases hs : split rest with
      | nil => exact absurd hs (split_ne_nil rest)
      | cons piece pieces => simp [hb]

theorem join_cons (h : pieces ≠ []) : join (piece :: pieces) = piece ++ slash :: join pieces := by
  cases pieces with
  | nil => exact absurd rfl h
  | cons q qs => rfl

theorem join_eq_intercalate (pieces : List (List UInt8)) :
    join pieces = [slash].intercalate pieces := by
  induction pieces with
  | nil => rfl
  | cons piece pieces ih =>
    by_cases h : pieces = []
    · rw [h, List.intercalate_singleton, join]
    · rw [join_cons h, List.intercalate_cons_of_ne_nil h, ih, List.append_assoc,
        List.singleton_append]

theorem join_append (hfront : front ≠ []) (hback : back ≠ []) :
    join (front ++ back) = join front ++ slash :: join back := by
  induction front with
  | nil => exact absurd rfl hfront
  | cons piece front ih =>
    by_cases h : front = []
    · rw [h, List.singleton_append, join_cons hback, join]
    · have hne : front ++ back ≠ [] := List.append_ne_nil_of_left_ne_nil h back
      rw [List.cons_append, join_cons hne, ih h, join_cons h, List.append_assoc, List.cons_append]

theorem split_append_slash (a b : List UInt8) : split (a ++ slash :: b) = split a ++ split b := by
  simp only [split_eq_splitOn, List.splitOn_append_cons_self]

theorem split_of_not_mem (h : slash ∉ a) : split a = [a] := by
  rw [split_eq_splitOn, List.splitOn_eq_singleton h]

theorem split_join (hne : pieces ≠ []) (h : ∀ piece ∈ pieces, slash ∉ piece) :
    split (join pieces) = pieces := by
  rw [split_eq_splitOn, join_eq_intercalate, List.splitOn_intercalate slash h hne]

theorem exists_split_append_left (h : slash ∉ a) (b : List UInt8) :
    ∃ piece pieces, split b = piece :: pieces ∧ split (a ++ b) = (a ++ piece) :: pieces := by
  induction a with
  | nil =>
    cases hb : split b with
    | nil => exact absurd hb (split_ne_nil b)
    | cons piece pieces => exact ⟨piece, pieces, rfl, hb⟩
  | cons c a ih =>
    rw [List.mem_cons, not_or] at h
    obtain ⟨piece, pieces, hb, hab⟩ := ih h.2
    refine ⟨piece, pieces, hb, ?_⟩
    rw [List.cons_append, split, if_neg (Ne.symm h.1), hab]
    rfl

theorem exists_split_append_right (a : List UInt8) (h : slash ∉ b) :
    ∃ pieces piece, split a = pieces ++ [piece] ∧ split (a ++ b) = pieces ++ [piece ++ b] := by
  induction a with
  | nil => exact ⟨[], [], rfl, split_of_not_mem h⟩
  | cons c a ih =>
    obtain ⟨pieces, piece, ha, hab⟩ := ih
    rw [List.cons_append, split, split, ha, hab]
    by_cases hc : c = slash
    · rw [if_pos hc, if_pos hc]
      exact ⟨[] :: pieces, piece, rfl, rfl⟩
    · rw [if_neg hc, if_neg hc]
      cases pieces with
      | nil => exact ⟨[], c :: piece, rfl, rfl⟩
      | cons q qs => exact ⟨(c :: q) :: qs, piece, rfl, rfl⟩

theorem not_mem_of_mem_split (h : piece ∈ split bytes) : slash ∉ piece := by
  induction bytes generalizing piece with
  | nil =>
    obtain rfl := List.mem_singleton.mp h
    exact List.not_mem_nil
  | cons c rest ih =>
    rw [split] at h
    by_cases hc : c = slash
    · rw [if_pos hc] at h
      rcases List.mem_cons.mp h with rfl | h
      · exact List.not_mem_nil
      · exact ih h
    · rw [if_neg hc] at h
      cases hs : split rest with
      | nil => exact absurd hs (split_ne_nil rest)
      | cons q qs =>
        rw [hs] at h ih
        rcases List.mem_cons.mp h with rfl | h
        · rw [List.mem_cons, not_or]
          exact ⟨Ne.symm hc, ih List.mem_cons_self⟩
        · exact ih (List.mem_cons_of_mem q h)

theorem component?_eq_none_iff : component? piece = none ↔ ignorable piece = true := by
  rw [component?]
  split
  next h => simp [h]
  next h => split <;> simp [h]

theorem ignorable_iff : ignorable piece = true ↔ piece = [] ∨ piece = [dot] := by
  simp [ignorable]

theorem not_ignorable_of_length (h : 2 ≤ piece.length) : ignorable piece = false := by
  rw [← Bool.not_eq_true, ignorable_iff]
  rintro (rfl | rfl) <;> simp at h

theorem component?_eq_name_iff :
    component? piece = some (.name n) ↔
      piece = n ∧ ignorable piece = false ∧ piece ≠ [dot, dot] := by
  rw [component?]
  split
  next h => simp [h]
  next h => split <;> simp_all

theorem component?_of_length (h : 3 ≤ piece.length) : component? piece = some (.name piece) := by
  refine component?_eq_name_iff.mpr ⟨rfl, not_ignorable_of_length (Nat.le_of_succ_le h), ?_⟩
  rintro rfl
  simp at h

def parts (bytes : List UInt8) : List Component :=
  (split bytes).filterMap component?

theorem parts_append_slash (a b : List UInt8) : parts (a ++ slash :: b) = parts a ++ parts b := by
  rw [parts, split_append_slash, List.filterMap_append]
  rfl

theorem parts_join (h : ∀ piece ∈ pieces, slash ∉ piece) :
    parts (join pieces) = pieces.filterMap component? := by
  by_cases hne : pieces = []
  · rw [hne]
    rfl
  · rw [parts, split_join hne h]

theorem anchor_of_slash (rest : List UInt8) : anchor ⟨slash :: rest⟩ = ([slash], [.root]) := by
  have hsplit : split (slash :: rest) = [] :: split rest := by rw [split, if_pos rfl]
  rw [anchor, hsplit]
  cases hs : split rest with
  | nil => exact absurd hs (split_ne_nil rest)
  | cons q qs => rfl

theorem anchor_of_split {first : List UInt8} {rest : List (List UInt8)}
    (h : split bytes = first :: rest) (hfirst : ignorable first = false) :
    anchor ⟨bytes⟩ = ([], []) := by
  rw [← Bool.not_eq_true, ignorable_iff, not_or] at hfirst
  rw [anchor, h]
  split
  next heq => exact absurd (List.cons.inj heq).1 hfirst.1
  next heq => exact absurd (List.cons.inj heq).1 hfirst.2
  next => rfl

theorem anchor_append_slash (ha : a ≠ []) (b : List UInt8) :
    anchor ⟨a ++ slash :: b⟩ = anchor ⟨a⟩ := by
  rw [anchor, anchor, split_append_slash]
  cases hs : split a with
  | nil => exact absurd hs (split_ne_nil a)
  | cons first rest =>
    cases first with
    | nil =>
      cases rest with
      | nil =>
        have hjoin := join_split a
        rw [hs] at hjoin
        exact absurd hjoin.symm ha
      | cons q qs => rfl
    | cons c first =>
      rw [List.cons_append]
      split <;> simp_all

theorem exists_bytes_eq (p : Path) :
    ∃ rest, p.bytes = p.anchor.1 ++ rest ∧ parts rest = parts p.bytes ∧
      anchor ⟨p.anchor.1⟩ = p.anchor := by
  have hbytes := join_split p.bytes
  generalize hanchor : p.anchor = start
  rw [anchor] at hanchor
  split at hanchor
  next q qs hs =>
    subst hanchor
    rw [hs, join_cons (List.cons_ne_nil q qs)] at hbytes
    rw [← hbytes]
    exact ⟨join (q :: qs), rfl, (parts_append_slash [] _).symm, rfl⟩
  next qs hs =>
    subst hanchor
    rw [hs] at hbytes
    by_cases hqs : qs = []
    · rw [← hbytes, hqs]
      exact ⟨[], rfl, rfl, rfl⟩
    · rw [join_cons hqs] at hbytes
      rw [← hbytes]
      exact ⟨slash :: join qs, rfl,
        (parts_append_slash [] (join qs)).trans (parts_append_slash [dot] (join qs)).symm, rfl⟩
  next =>
    subst hanchor
    exact ⟨p.bytes, rfl, rfl, rfl⟩

theorem bytes_eq (p : Path) : p.bytes = p.anchor.1 ++ join p.pieces := by
  obtain ⟨rest, hrest, -⟩ := exists_bytes_eq p
  rw [pieces, join_split]
  generalize p.anchor.1 = start at hrest ⊢
  rw [hrest, List.drop_left]

theorem components_eq (p : Path) : p.components = p.anchor.2 ++ parts p.bytes := by
  obtain ⟨rest, hrest, hparts, -⟩ := exists_bytes_eq p
  rw [components, pieces, ← hparts]
  generalize p.anchor = start at hrest ⊢
  rw [hrest, List.drop_left]
  rfl

theorem components_push {first : List UInt8} {rest : List (List UInt8)}
    (hname : split name = first :: rest) (hfirst : ignorable first = false) (folder : Path) :
    (push folder name).components = folder.components ++ parts name := by
  have hhead : name.head? ≠ some slash := by
    rintro hslash
    obtain ⟨tail, rfl⟩ := List.head?_eq_some_iff.mp hslash
    rw [split, if_pos rfl] at hname
    rw [← (List.cons.inj hname).1] at hfirst
    cases hfirst
  obtain ⟨bytes⟩ := folder
  rw [push, if_neg hhead]
  by_cases hnil : bytes = []
  · subst hnil
    rw [if_pos (.inl rfl), components_eq, List.nil_append, anchor_of_split hname hfirst]
    rfl
  by_cases hlast : bytes.getLast? = some slash
  · obtain ⟨a, rfl⟩ := List.getLast?_eq_some_iff.mp hlast
    have hanchor : anchor ⟨a ++ slash :: name⟩ = anchor ⟨a ++ [slash]⟩ := by
      by_cases ha : a = []
      · rw [ha, List.nil_append, List.nil_append, anchor_of_slash, anchor_of_slash]
      · rw [anchor_append_slash ha, anchor_append_slash ha]
    have hparts : parts (a ++ [slash]) = parts a := by
      rw [parts_append_slash]
      exact List.append_nil (parts a)
    rw [if_pos (.inr hlast), List.append_assoc, List.singleton_append, components_eq, components_eq,
      hanchor, parts_append_slash, hparts, List.append_assoc]
  · rw [if_neg (by simp [hnil, hlast]), components_eq, components_eq, anchor_append_slash hnil,
      parts_append_slash, List.append_assoc]

theorem dropIgnorableEnd_append {kept : List UInt8} (hkept : ignorable kept = false)
    (hback : ∀ piece ∈ back, ignorable piece = true) :
    dropIgnorableEnd (front ++ kept :: back) = front ++ [kept] := by
  have hreverse : ∀ piece ∈ back.reverse, ignorable piece = true := by simpa using hback
  rw [dropIgnorableEnd, List.reverse_append, List.reverse_cons, List.append_assoc,
    List.dropWhile_append_of_pos hreverse, List.singleton_append,
    List.dropWhile_cons_of_neg (by simp [hkept]), List.reverse_cons, List.reverse_reverse]

theorem exists_eq_dropIgnorableEnd_append (pieces : List (List UInt8)) :
    ∃ back, pieces = dropIgnorableEnd pieces ++ back ∧
      (dropIgnorableEnd pieces).filterMap component? = pieces.filterMap component? ∧
      dropIgnorableEnd pieces ≠ [[]] := by
  have hsplit :
      pieces = dropIgnorableEnd pieces ++ (pieces.reverse.takeWhile ignorable).reverse := by
    rw [dropIgnorableEnd, ← List.reverse_append, List.takeWhile_append_dropWhile,
      List.reverse_reverse]
  refine ⟨_, hsplit, ?_, fun hempty => ?_⟩
  · have hnone : (pieces.reverse.takeWhile ignorable).reverse.filterMap component? = [] := by
      rw [List.filterMap_eq_nil_iff]
      intro piece hpiece
      rw [component?_eq_none_iff]
      exact List.all_eq_true.mp List.all_takeWhile piece (List.mem_reverse.mp hpiece)
    conv => rhs; rw [hsplit, List.filterMap_append, hnone, List.append_nil]
  · have hhead := List.head?_dropWhile_not ignorable pieces.reverse
    rw [dropIgnorableEnd, List.reverse_eq_iff] at hempty
    rw [hempty] at hhead
    cases hhead

theorem fileName?_eq_some_iff : p.fileName? = some n ↔ p.components.getLast? = some (.name n) := by
  rw [fileName?]
  split
  next m hm => simp [hm]
  next hno => exact iff_of_false (by simp) fun hn => hno n hn

theorem name_not_mem_anchor (p : Path) (n : List UInt8) : .name n ∉ p.anchor.2 := by
  rw [anchor]
  split <;> simp

theorem exists_pieces_of_fileName? (h : p.fileName? = some n) :
    ∃ front back, p.pieces = front ++ n :: back ∧ component? n = some (.name n) ∧
      ∀ piece ∈ back, ignorable piece = true := by
  have hlast : (p.pieces.filterMap component?).getLast? = some (.name n) := by
    rw [fileName?_eq_some_iff, components, List.getLast?_append, Option.or_eq_some_iff] at h
    rcases h with h | ⟨-, h⟩
    · exact h
    · exact absurd (List.mem_of_getLast? h) (name_not_mem_anchor p n)
  obtain ⟨ys, hys⟩ := List.getLast?_eq_some_iff.mp hlast
  obtain ⟨front, tail, hpieces, -, htail⟩ := List.filterMap_eq_append_iff.mp hys
  obtain ⟨skipped, piece, back, rfl, -, hpiece, hback⟩ := List.filterMap_eq_cons_iff.mp htail
  obtain rfl := (component?_eq_name_iff.mp hpiece).1
  refine ⟨front ++ skipped, back, by rw [hpieces, List.append_assoc], hpiece, fun z hz => ?_⟩
  exact component?_eq_none_iff.mp (List.filterMap_eq_nil_iff.mp hback z hz)

theorem anchor_append_join (hpieces : p.pieces = front ++ back) (hfront : front ≠ [[]])
    (hback : back ≠ []) : anchor ⟨p.anchor.1 ++ join front⟩ = p.anchor := by
  by_cases hnil : front = []
  · obtain ⟨-, -, -, hself⟩ := exists_bytes_eq p
    rw [hnil, join, List.append_nil, hself]
  · have hne : p.anchor.1 ++ join front ≠ [] := by
      intro hempty
      have hslash : ∀ piece ∈ front, slash ∉ piece := fun piece hpiece =>
        not_mem_of_mem_split (hpieces ▸ List.mem_append_left back hpiece : piece ∈ p.pieces)
      have hsplit := split_join hnil hslash
      rw [(List.append_eq_nil_iff.mp hempty).2] at hsplit
      exact hfront hsplit.symm
    have hbytes := bytes_eq p
    rw [hpieces, join_append hnil hback, ← List.append_assoc] at hbytes
    rw [← anchor_append_slash hne (join back), ← hbytes]

theorem components_append_join (hpieces : p.pieces = front ++ back) (hfront : front ≠ [[]])
    (hback : back ≠ []) :
    components ⟨p.anchor.1 ++ join front⟩ = p.anchor.2 ++ front.filterMap component? := by
  have hslash : ∀ piece ∈ front, slash ∉ piece := fun piece hpiece =>
    not_mem_of_mem_split (hpieces ▸ List.mem_append_left back hpiece : piece ∈ p.pieces)
  rw [components, pieces, anchor_append_join hpieces hfront hback, List.drop_left,
    ← parts_join hslash]
  rfl

theorem components_parent (h : p.fileName? = some n) :
    p.parent.components = p.components.dropLast := by
  obtain ⟨front, back, hpieces, hn, hback⟩ := exists_pieces_of_fileName? h
  have hname := (component?_eq_name_iff.mp hn).2.1
  obtain ⟨dots, hfront, hsame, hne⟩ := exists_eq_dropIgnorableEnd_append front
  have hparent : p.parent = ⟨p.anchor.1 ++ join (dropIgnorableEnd front)⟩ := by
    rw [parent, hpieces, dropIgnorableEnd_append hname hback, List.dropLast_concat]
  have hsplit : p.pieces = dropIgnorableEnd front ++ (dots ++ n :: back) := by
    rw [hpieces, ← List.append_assoc, ← hfront]
  have hnone : back.filterMap component? = [] := by
    rw [List.filterMap_eq_nil_iff]
    exact fun piece hpiece => component?_eq_none_iff.mpr (hback piece hpiece)
  rw [hparent, components_append_join hsplit hne (by simp), hsame, components, hpieces,
    List.filterMap_append, List.filterMap_cons_some hn, hnone, ← List.append_assoc,
    List.dropLast_concat]

theorem components_withFileName {first : List UInt8} {rest : List (List UInt8)}
    (hname : split name = first :: rest) (hfirst : ignorable first = false) (p : Path) :
    (p.withFileName name).components =
      (if p.fileName?.isSome then p.components.dropLast else p.components) ++ parts name := by
  rw [withFileName, components_push hname hfirst]
  cases h : p.fileName? with
  | none => rfl
  | some n =>
    rw [← components_parent h]
    rfl

end PaletteSnap.Path
