import Mathlib.Data.List.Forall2
import PaletteSnap.Json.Reader

namespace PaletteSnap

namespace JsonReader

def bracket (opening closing : Char) : List (List Token) → List Token
  | [] => [.mark opening, .mark closing]
  | entry :: rest => .mark opening :: entry ++ rest.flatMap (.mark ',' :: ·) ++ [.mark closing]

mutual

def tokensOf : Json → List Token
  | .null => [.null]
  | .bool b => [.bool b]
  | .number n => [.number n]
  | .text s => [.text s]
  | .list items => bracket '[' ']' (itemTokens items)
  | .record fields => bracket '\x7b' '\x7d' (fieldTokens fields)

def itemTokens : List Json → List (List Token)
  | [] => []
  | j :: rest => tokensOf j :: itemTokens rest

def fieldTokens : List (String × Json) → List (List Token)
  | [] => []
  | (name, j) :: rest => (.text name :: .mark ':' :: tokensOf j) :: fieldTokens rest

end

namespace Lexer

variable {cs ds blanks tail word : List Char} {ts us before : List Token} {c : Char} {t : Token}

def Delimited (tail : List Char) : Prop :=
  ∃ c rest, tail = c :: rest ∧ (isBlank c ∨ isMark c)

-- A word ends only where a delimiter comes, so what follows is part of the statement.
def Lexes (cs : List Char) (ts : List Token) : Prop :=
  ∀ before tail, Delimited tail →
    (cs ++ tail).foldlM step ⟨.between, before⟩ =
      tail.foldlM step ⟨.between, ts.reverse ++ before⟩

theorem delimited_mark (hc : isMark c) (tail : List Char) : Delimited (c :: tail) :=
  ⟨c, tail, rfl, .inr hc⟩

theorem delimited_blanks_append (hblanks : ∀ c ∈ blanks, isBlank c) (htail : Delimited tail) :
    Delimited (blanks ++ tail) := by
  cases blanks with
  | nil => exact htail
  | cons b rest => exact ⟨b, rest ++ tail, rfl, .inl (hblanks b List.mem_cons_self)⟩

theorem not_isBlank_of_isMark (hc : isMark c) : isBlank c = false := by
  simp only [isMark, decide_eq_true_eq, List.mem_cons, List.not_mem_nil, or_false] at hc
  rcases hc with rfl | rfl | rfl | rfl | rfl | rfl <;> rfl

theorem foldlM_mark (hc : isMark c) :
    (c :: tail).foldlM step ⟨.between, before⟩ =
      tail.foldlM step ⟨.between, .mark c :: before⟩ := by
  rw [List.foldlM_cons]
  simp [step, outside, not_isBlank_of_isMark hc, hc]

theorem foldlM_blanks (hblanks : ∀ c ∈ blanks, isBlank c) :
    (blanks ++ tail).foldlM step ⟨.between, before⟩ = tail.foldlM step ⟨.between, before⟩ := by
  induction blanks with
  | nil => rfl
  | cons b rest ih =>
    rw [List.cons_append, List.foldlM_cons]
    simp only [step, outside, hblanks b List.mem_cons_self, if_true]
    exact ih fun c hc => hblanks c (List.mem_cons_of_mem b hc)

def Plain (c : Char) : Prop :=
  isBlank c = false ∧ isMark c = false ∧ c ≠ '"'

instance : DecidablePred Plain :=
  fun _ => inferInstanceAs (Decidable (_ ∧ _ ∧ _))

theorem foldlM_bare (hword : ∀ c ∈ word, Plain c) (read : List Char) :
    (word ++ tail).foldlM step ⟨.bare read, before⟩ =
      tail.foldlM step ⟨.bare (word.reverse ++ read), before⟩ := by
  induction word generalizing read with
  | nil => rfl
  | cons c rest ih =>
    obtain ⟨hblank, hmark, -⟩ := hword c List.mem_cons_self
    rw [List.cons_append, List.foldlM_cons]
    simp only [step, hblank, hmark, Bool.false_eq_true, or_self, if_false]
    refine (ih (fun d hd => hword d (List.mem_cons_of_mem c hd)) (c :: read)).trans ?_
    rw [List.reverse_cons, List.append_assoc, List.singleton_append]

theorem lexes_word (hne : word ≠ []) (hword : ∀ c ∈ word, Plain c) (ht : word? word = some t) :
    Lexes word [t] := by
  intro before tail htail
  obtain ⟨d, tail, rfl, hd⟩ := htail
  obtain ⟨c, rest, rfl⟩ := List.exists_cons_of_ne_nil hne
  obtain ⟨hblank, hmark, hquote⟩ := hword c List.mem_cons_self
  have hfirst : step ⟨.between, before⟩ c = some ⟨.bare [c], before⟩ := by
    simp [step, outside, hblank, hmark, hquote]
  have hlast : step ⟨.bare (rest.reverse ++ [c]), before⟩ d = step ⟨.between, t :: before⟩ d := by
    simp [step, hd, ht]
  rw [List.cons_append, List.foldlM_cons, hfirst]
  refine (foldlM_bare (fun d hd => hword d (List.mem_cons_of_mem c hd)) [c]).trans ?_
  rw [List.foldlM_cons, hlast, List.reverse_singleton, List.singleton_append, List.foldlM_cons]

theorem plain_of_isDigit (hc : c.isDigit) : Plain c := by
  have hne (d : Char) (hd : d.isDigit = false) : c ≠ d := by
    rintro rfl
    rw [hd] at hc
    cases hc
  refine ⟨?_, ?_, hne '"' rfl⟩
  · simp [isBlank, hne ' ' rfl, hne '\n' rfl, hne '\r' rfl, hne '\t' rfl]
  · simp [isMark, hne '[' rfl, hne ']' rfl, hne '\x7b' rfl, hne '\x7d' rfl, hne ',' rfl,
      hne ':' rfl]

theorem word?_repr (n : Nat) : word? n.repr.toList = some (.number n) := by
  simp only [word?, Nat.toList_repr, Nat.ofDigitChars_ten_toDigits, if_true]

theorem lexes_repr (n : Nat) : Lexes n.repr.toList [.number n] := by
  refine lexes_word ?_ (fun c hc => ?_) (word?_repr n)
  · rw [Nat.toList_repr]
    exact Nat.toDigits_ne_nil
  · rw [Nat.toList_repr] at hc
    exact plain_of_isDigit (Nat.isDigit_of_mem_toDigits (by decide) (by decide) hc)

theorem lexes_name (name : String) (hname : (name, t) ∈ words) : Lexes name.toList [t] := by
  simp only [words, List.mem_cons, List.not_mem_nil, or_false, Prod.mk.injEq] at hname
  have hplain {text : List Char} (h : text.all (decide <| Plain ·)) : ∀ c ∈ text, Plain c :=
    fun c hc => of_decide_eq_true (List.all_eq_true.mp h c hc)
  rcases hname with ⟨rfl, rfl⟩ | ⟨rfl, rfl⟩ | ⟨rfl, rfl⟩ <;>
    exact lexes_word (by decide) (hplain rfl) (by decide)

theorem foldlM_escapeChar (c : Char) (read : List Char) :
    (Json.escapeChar c ++ tail).foldlM step ⟨.quoted read, before⟩ =
      tail.foldlM step ⟨.quoted (c :: read), before⟩ := by
  unfold Json.escapeChar
  split
  case h_8 hquote hslash _ _ _ _ _ =>
    split
    next hcontrol =>
      have hhigh := Text.hexValue?_hexDigit (n := c.toNat / 16) (by omega)
      have hlow := Text.hexValue?_hexDigit (n := c.toNat % 16) (by omega)
      have hvalue : 16 * (c.toNat / 16) + c.toNat % 16 = c.toNat := by omega
      have hzero : Text.hexValue? '0' = some 0 := rfl
      have hvalid : c.toNat.isValidChar := c.valid
      simp [step, hhigh, hlow, hvalue, hzero, hvalid, unescape?]
    next hplain => simp [step, show c ≠ '"' from hquote, show c ≠ '\\' from hslash, hplain]
  all_goals rfl

theorem foldlM_escaped (text read : List Char) :
    (text.flatMap Json.escapeChar ++ tail).foldlM step ⟨.quoted read, before⟩ =
      tail.foldlM step ⟨.quoted (text.reverse ++ read), before⟩ := by
  induction text generalizing read with
  | nil => rfl
  | cons c rest ih =>
    rw [List.flatMap_cons, List.append_assoc, foldlM_escapeChar, ih, List.reverse_cons,
      List.append_assoc, List.singleton_append]

theorem foldlM_quote (s : String) :
    (Json.quote s ++ tail).foldlM step ⟨.between, before⟩ =
      tail.foldlM step ⟨.between, .text s :: before⟩ := by
  have hopen : step ⟨.between, before⟩ '"' = some ⟨.quoted [], before⟩ := rfl
  have hclose : step ⟨.quoted s.toList.reverse, before⟩ '"' =
      some ⟨.between, .text s :: before⟩ := by
    simp [step]
  rw [Json.quote, List.cons_append, List.cons_append, List.append_assoc, List.foldlM_cons, hopen]
  refine (foldlM_escaped s.toList []).trans ?_
  rw [List.append_nil, List.singleton_append, List.foldlM_cons, hclose]
  rfl

theorem lexes_quote (s : String) : Lexes (Json.quote s) [.text s] :=
  fun _ _ _ => foldlM_quote s

structure Readable (layout : Json.Layout) : Prop where
  line : ∀ depth, ∀ c ∈ layout.line depth, isBlank c
  colon : ∃ blanks, layout.colon = ':' :: blanks ∧ ∀ c ∈ blanks, isBlank c

variable {layout : Json.Layout} {entries : List (List Char)} {tokens : List (List Token)}
  {opening closing : Char} {depth : Nat}

theorem lexes_field {name : String} (hlayout : Readable layout) (hcs : Lexes cs ts) :
    Lexes (Json.quote name ++ layout.colon ++ cs) (.text name :: .mark ':' :: ts) := by
  intro before tail htail
  obtain ⟨blanks, hcolon, hblanks⟩ := hlayout.colon
  rw [List.append_assoc, List.append_assoc, foldlM_quote, hcolon, List.cons_append,
    foldlM_mark rfl, foldlM_blanks hblanks, hcs _ _ htail]
  simp

theorem delimited_rest (htail : Delimited tail) :
    Delimited (entries.flatMap (',' :: blanks ++ ·) ++ tail) := by
  cases entries with
  | nil => exact htail
  | cons entry rest => exact delimited_mark rfl _

theorem foldlM_rest (hblanks : ∀ c ∈ blanks, isBlank c)
    (hentries : List.Forall₂ Lexes entries tokens) (htail : Delimited tail) :
    (entries.flatMap (',' :: blanks ++ ·) ++ tail).foldlM step ⟨.between, before⟩ =
      tail.foldlM step ⟨.between, (tokens.flatMap (.mark ',' :: ·)).reverse ++ before⟩ := by
  induction hentries generalizing before with
  | nil => rfl
  | @cons entry ts entries tokens hentry _ ih =>
    rw [List.flatMap_cons, List.append_assoc, List.append_assoc, List.cons_append,
      foldlM_mark rfl, foldlM_blanks hblanks, hentry _ _ (delimited_rest htail), ih]
    simp

theorem lexes_block (hlayout : Readable layout) (hopening : isMark opening)
    (hclosing : isMark closing) (hentries : List.Forall₂ Lexes entries tokens) :
    Lexes (layout.block opening closing depth entries) (bracket opening closing tokens) := by
  intro before tail _
  cases hentries with
  | nil =>
    show (opening :: closing :: tail).foldlM step _ = _
    rw [foldlM_mark hopening, foldlM_mark hclosing]
    rfl
  | @cons entry ts entries tokens hentry hentries =>
    have hend : Delimited (layout.line depth ++ closing :: tail) :=
      delimited_blanks_append (hlayout.line depth) (delimited_mark hclosing tail)
    have hblock : layout.block opening closing depth (entry :: entries) ++ tail =
        opening :: (layout.line (depth + 1) ++ (entry ++
          (entries.flatMap (',' :: layout.line (depth + 1) ++ ·) ++
            (layout.line depth ++ closing :: tail)))) := by
      simp [Json.Layout.block]
    rw [hblock, foldlM_mark hopening, foldlM_blanks (hlayout.line _),
      hentry _ _ (delimited_rest hend), foldlM_rest (hlayout.line _) hentries hend,
      foldlM_blanks (hlayout.line _), foldlM_mark hclosing]
    simp [bracket]

mutual

theorem lexes_write (hlayout : Readable layout) (depth : Nat) :
    (j : Json) → Lexes (j.write layout depth) (tokensOf j)
  | .null => lexes_name "null" List.mem_cons_self
  | .bool true => lexes_name "true" (by decide)
  | .bool false => lexes_name "false" (by decide)
  | .number n => lexes_repr n
  | .text s => lexes_quote s
  | .list items => lexes_block hlayout rfl rfl (forall₂_items hlayout (depth + 1) items)
  | .record fields => lexes_block hlayout rfl rfl (forall₂_fields hlayout (depth + 1) fields)

theorem forall₂_items (hlayout : Readable layout) (depth : Nat) :
    (items : List Json) →
      List.Forall₂ Lexes (Json.writeItems layout depth items) (itemTokens items)
  | [] => .nil
  | j :: rest => .cons (lexes_write hlayout depth j) (forall₂_items hlayout depth rest)

theorem forall₂_fields (hlayout : Readable layout) (depth : Nat) :
    (fields : List (String × Json)) →
      List.Forall₂ Lexes (Json.writeFields layout depth fields) (fieldTokens fields)
  | [] => .nil
  | (_, j) :: rest =>
    .cons (lexes_field hlayout (lexes_write hlayout depth j)) (forall₂_fields hlayout depth rest)

end

theorem tokens?_write (hlayout : Readable layout) (j : Json) :
    tokens? (String.ofList (j.write layout 0)) = some (tokensOf j) := by
  have hend : Delimited ['\n'] := ⟨'\n', [], rfl, .inl rfl⟩
  rw [tokens?, String.toList_ofList, start, lexes_write hlayout 0 j _ _ hend]
  simp [step, outside, isBlank]

end Lexer

namespace Parser

variable {outer : List Frame} {j : Json} {name : String}

def Reads (j : Json) : Prop :=
  ∀ outer, (tokensOf j).foldlM step (.value outer) = some (.behind j outer)

theorem bracket_eq_cons (opening closing : Char) (entries : List (List Token)) :
    ∃ ts, bracket opening closing entries = .mark opening :: ts := by
  cases entries <;> exact ⟨_, rfl⟩

theorem tokensOf_eq_cons (j : Json) : ∃ t ts, tokensOf j = t :: ts ∧ t ≠ .mark ']' := by
  cases j with
  | null => exact ⟨_, _, rfl, nofun⟩
  | bool b => exact ⟨_, _, rfl, nofun⟩
  | number n => exact ⟨_, _, rfl, nofun⟩
  | text s => exact ⟨_, _, rfl, nofun⟩
  | list items =>
    obtain ⟨ts, hts⟩ := bracket_eq_cons '[' ']' (itemTokens items)
    exact ⟨_, ts, hts, by decide⟩
  | record fields =>
    obtain ⟨ts, hts⟩ := bracket_eq_cons '\x7b' '\x7d' (fieldTokens fields)
    exact ⟨_, ts, hts, by decide⟩

theorem foldlM_firstItem (j : Json) (outer : List Frame) :
    (tokensOf j).foldlM step (.firstItem outer) =
      (tokensOf j).foldlM step (.value (.list [] :: outer)) := by
  obtain ⟨t, ts, hts, hne⟩ := tokensOf_eq_cons j
  have hstep : step (.firstItem outer) t = step (.value (.list [] :: outer)) t := by
    simp [step]
  rw [hts, List.foldlM_cons, List.foldlM_cons, hstep]

theorem foldlM_items {items rest : List Json} (hrest : ∀ k ∈ rest, Reads k) :
    ((itemTokens rest).flatMap (Token.mark ',' :: ·) ++ [Token.mark ']']).foldlM step
        (.behind j (.list items :: outer)) =
      some (.behind (.list (items.reverse ++ j :: rest)) outer) := by
  induction rest generalizing j items with
  | nil => simp [itemTokens, step]
  | cons k rest ih =>
    have hk := hrest k List.mem_cons_self (.list (j :: items) :: outer)
    rw [itemTokens, List.flatMap_cons, List.append_assoc, List.cons_append, List.foldlM_cons]
    show (tokensOf k ++ _).foldlM step (.value (.list (j :: items) :: outer)) = _
    rw [List.foldlM_append, hk]
    refine (ih fun m hm => hrest m (List.mem_cons_of_mem k hm)).trans ?_
    simp

theorem foldlM_fields {fields rest : List (String × Json)} (hrest : ∀ f ∈ rest, Reads f.2) :
    ((fieldTokens rest).flatMap (Token.mark ',' :: ·) ++ [Token.mark '\x7d']).foldlM step
        (.behind j (.record fields name :: outer)) =
      some (.behind (.record (fields.reverse ++ (name, j) :: rest)) outer) := by
  induction rest generalizing j fields name with
  | nil => simp [fieldTokens, step]
  | cons f rest ih =>
    obtain ⟨next, k⟩ := f
    have hk := hrest (next, k) List.mem_cons_self (.record ((name, j) :: fields) next :: outer)
    rw [fieldTokens, List.flatMap_cons, List.append_assoc, List.cons_append, List.foldlM_cons]
    show (tokensOf k ++ _).foldlM step
      (.value (.record ((name, j) :: fields) next :: outer)) = _
    rw [List.foldlM_append, hk]
    refine (ih fun m hm => hrest m (List.mem_cons_of_mem _ hm)).trans ?_
    simp

theorem reads_list {items : List Json} (hitems : ∀ k ∈ items, Reads k) : Reads (.list items) := by
  intro outer
  cases items with
  | nil => rfl
  | cons k rest =>
    have hk := hitems k List.mem_cons_self (.list [] :: outer)
    rw [tokensOf, itemTokens, bracket, List.append_assoc, List.cons_append, List.foldlM_cons]
    show (tokensOf k ++ _).foldlM step (.firstItem outer) = _
    rw [List.foldlM_append, foldlM_firstItem, hk]
    exact foldlM_items fun m hm => hitems m (List.mem_cons_of_mem k hm)

theorem reads_record {fields : List (String × Json)} (hfields : ∀ f ∈ fields, Reads f.2) :
    Reads (.record fields) := by
  intro outer
  cases fields with
  | nil => rfl
  | cons f rest =>
    obtain ⟨name, k⟩ := f
    have hk := hfields (name, k) List.mem_cons_self (.record [] name :: outer)
    rw [tokensOf, fieldTokens, bracket, List.append_assoc, List.cons_append, List.foldlM_cons]
    show (tokensOf k ++ _).foldlM step (.value (.record [] name :: outer)) = _
    rw [List.foldlM_append, hk]
    exact foldlM_fields fun m hm => hfields m (List.mem_cons_of_mem _ hm)

mutual

theorem reads : (j : Json) → Reads j
  | .null => fun _ => rfl
  | .bool _ => fun _ => rfl
  | .number _ => fun _ => rfl
  | .text _ => fun _ => rfl
  | .list items => reads_list (reads_items items)
  | .record fields => reads_record (reads_fields fields)

theorem reads_items : (items : List Json) → ∀ k ∈ items, Reads k
  | [], _, hk => nomatch hk
  | j :: rest, k, hk =>
    (List.mem_cons.mp hk).elim (fun h => h ▸ reads j) (reads_items rest k)

theorem reads_fields : (fields : List (String × Json)) → ∀ f ∈ fields, Reads f.2
  | [], _, hf => nomatch hf
  | (_, j) :: rest, f, hf =>
    (List.mem_cons.mp hf).elim (fun h => h ▸ reads j) (reads_fields rest f)

end

theorem ofTokens?_tokensOf (j : Json) : ofTokens? (tokensOf j) = some j := by
  rw [ofTokens?, reads j []]

end Parser

end JsonReader

theorem Json.ofText?_write {layout : Json.Layout} (hlayout : JsonReader.Lexer.Readable layout)
    (j : Json) : Json.ofText? (String.ofList (j.write layout 0)) = some j := by
  rw [Json.ofText?, JsonReader.Lexer.tokens?_write hlayout, Option.bind_some,
    JsonReader.Parser.ofTokens?_tokensOf]

theorem Json.ofText?_compact (j : Json) : Json.ofText? j.compact = some j :=
  Json.ofText?_write ⟨fun _ _ hc => (List.not_mem_nil hc).elim, [], rfl, nofun⟩ j

end PaletteSnap
