import Mathlib.Data.List.Nodup
import PaletteSnap.Color.Text
import PaletteSnap.Proofs.Trimming
import PaletteSnap.Text.Utf8

namespace PaletteSnap

namespace Text

def hexDigits : List Char :=
  ['0', '1', '2', '3', '4', '5', '6', '7', '8', '9', 'a', 'b', 'c', 'd', 'e', 'f']

def IsHexDigit (c : Char) : Prop :=
  c.toLower ∈ hexDigits

instance (c : Char) : Decidable (IsHexDigit c) :=
  inferInstanceAs (Decidable (_ ∈ _))

def HasValue (c : Char) (v : Nat) : Prop :=
  hexDigits[v]? = some c.toLower

variable {c d : Char} {v : Nat}

theorem of_ascii {p : Char → Prop} (h : ∀ n : Fin 128, p (Char.ofNat n)) (hc : c.toNat < 128) :
    p c := by
  simpa using h ⟨c.toNat, hc⟩

theorem not_le_of_ascii (hc : ¬ c.toNat < 128) (hd : d.toNat < 128) : ¬ c ≤ d := by
  rw [Char.le_def, UInt32.le_iff_toNat_le]
  exact fun hle => hc (Nat.lt_of_le_of_lt hle hd)

theorem toLower_of_not_ascii (hc : ¬ c.toNat < 128) : c.toLower = c := by
  have hupper : ¬ (c.val ≥ 'A'.val ∧ c.val ≤ 'Z'.val) := fun h =>
    not_le_of_ascii hc (by decide : 'Z'.toNat < 128) h.2
  exact dif_neg hupper

theorem isHexDigit_iff : IsHexDigit c ↔ ∃ v, HasValue c v :=
  List.mem_iff_getElem?

theorem IsHexDigit.toNat_lt (h : IsHexDigit c) : c.toNat < 128 := by
  by_contra hc
  have hall : (hexDigits.all fun d => d.toNat < 128) = true := by decide
  rw [IsHexDigit, toLower_of_not_ascii hc] at h
  exact hc (of_decide_eq_true (List.all_eq_true.mp hall c h))

theorem IsHexDigit.not_isBlank (h : IsHexDigit c) : isBlank c = false := by
  have htable : ∀ n : Fin 128, (Char.ofNat n).toLower ∈ hexDigits →
      isBlank (Char.ofNat n) = false := by decide +kernel
  exact of_ascii (p := fun c => c.toLower ∈ hexDigits → isBlank c = false) htable h.toNat_lt h

theorem IsHexDigit.ne_hash (h : IsHexDigit c) : c ≠ '#' := by
  rintro rfl
  exact absurd h (by decide)

theorem hexValue?_eq_idxOf? (c : Char) : hexValue? c = hexDigits.idxOf? c.toLower := by
  by_cases hc : c.toNat < 128
  · have htable : ∀ n : Fin 128,
        hexValue? (Char.ofNat n) = hexDigits.idxOf? (Char.ofNat n).toLower := by decide +kernel
    exact of_ascii (p := fun c => hexValue? c = hexDigits.idxOf? c.toLower) htable hc
  · have hout (d : Char) (hd : d.toNat < 128) : ¬ c ≤ d := not_le_of_ascii hc hd
    have hnone : c.toLower ∉ hexDigits := fun h => hc (IsHexDigit.toNat_lt h)
    rw [List.idxOf?_eq_none_iff.mpr hnone, hexValue?, if_neg fun h => hout '9' (by decide) h.2,
      if_neg fun h => hout 'f' (by decide) h.2, if_neg fun h => hout 'F' (by decide) h.2]

theorem hexValue?_eq_some_iff : hexValue? c = some v ↔ HasValue c v := by
  have hnodup : hexDigits.Nodup := by decide
  rw [hexValue?_eq_idxOf?, HasValue, List.idxOf?_eq_some_iff, List.getElem?_eq_some_iff]
  refine exists_congr fun hv => and_iff_left_of_imp ?_
  intro hplace j hj hsame
  exact absurd (hnodup.getElem_inj_iff.mp (hsame.trans hplace.symm)) (Nat.ne_of_lt hj)

theorem HasValue.unique {w : Nat} (h : HasValue c v) (h' : HasValue c w) : v = w :=
  Option.some.inj ((hexValue?_eq_some_iff.mpr h).symm.trans (hexValue?_eq_some_iff.mpr h'))

theorem HasValue.lt (h : HasValue c v) : v < 16 :=
  (List.getElem?_eq_some_iff.mp h).1

end Text

namespace Color

open Text

variable {text u : List Char} {c : Color}

def Reads (high low : Char) (channel : UInt8) : Prop :=
  ∃ h l, HasValue high h ∧ HasValue low l ∧ channel.toNat = 16 * h + l

inductive Spells : List Char → Color → Prop
  | six {r r' g g' b b' : Char} {c : Color} (red : Reads r r' c.red) (green : Reads g g' c.green)
      (blue : Reads b b' c.blue) : Spells [r, r', g, g', b, b'] c
  | three {r g b : Char} {c : Color} (red : Reads r r c.red) (green : Reads g g c.green)
      (blue : Reads b b c.blue) : Spells [r, g, b] c

theorem toNat_channel {h l : Nat} (hh : h < 16) (hl : l < 16) :
    (channel h l).toNat = 16 * h + l := by
  rw [channel, UInt8.toNat_ofNat']
  omega

theorem reads_iff {high low : Char} {h l : Nat} (hh : HasValue high h) (hl : HasValue low l)
    {x : UInt8} : Reads high low x ↔ x = channel h l := by
  have hvalue : x.toNat = 16 * h + l ↔ x = channel h l := by
    rw [← UInt8.toNat_inj, toNat_channel hh.lt hl.lt]
  rw [← hvalue]
  constructor
  · rintro ⟨h', l', hh', hl', hx⟩
    rwa [hh'.unique hh, hl'.unique hl] at hx
  · exact fun hx => ⟨h, l, hh, hl, hx⟩

theorem mapM_hexValue?_eq_some_iff {ds : List Nat} :
    u.mapM hexValue? = some ds ↔ List.Forall₂ HasValue u ds := by
  induction u generalizing ds with
  | nil => simp [eq_comm]
  | cons d u ih =>
    simp only [List.mapM_cons, Option.bind_eq_bind, Option.bind_eq_some_iff, hexValue?_eq_some_iff,
      List.forall₂_cons_left_iff, ih]
    simp [eq_comm]

theorem isSome_mapM_hexValue?_iff : (u.mapM hexValue?).isSome ↔ ∀ d ∈ u, IsHexDigit d := by
  induction u with
  | nil => simp
  | cons d u ih =>
    rw [List.forall_mem_cons, ← ih, isHexDigit_iff]
    simp only [← hexValue?_eq_some_iff, ← Option.isSome_iff_exists]
    cases hd : hexValue? d <;> simp [List.mapM_cons, hd, Option.isSome_bind]

theorem ofDigits?_eq_some_iff {ds : List Nat} (hds : List.Forall₂ HasValue u ds) :
    ofDigits? ds = some c ↔ Spells u c := by
  constructor
  · intro hc
    rw [ofDigits?.eq_def] at hc
    split at hc
    next r g b =>
      obtain rfl := Option.some.inj hc
      match hds with
      | .cons hr (.cons hg (.cons hb .nil)) =>
        exact .three ((reads_iff hr hr).mpr rfl) ((reads_iff hg hg).mpr rfl)
          ((reads_iff hb hb).mpr rfl)
    next r r' g g' b b' =>
      obtain rfl := Option.some.inj hc
      match hds with
      | .cons hr (.cons hr' (.cons hg (.cons hg' (.cons hb (.cons hb' .nil))))) =>
        exact .six ((reads_iff hr hr').mpr rfl) ((reads_iff hg hg').mpr rfl)
          ((reads_iff hb hb').mpr rfl)
    next => cases hc
  · intro hc
    cases hc with
    | six red green blue =>
      match hds with
      | .cons hr (.cons hr' (.cons hg (.cons hg' (.cons hb (.cons hb' .nil))))) =>
        rw [ofDigits?, ← (reads_iff hr hr').mp red, ← (reads_iff hg hg').mp green,
          ← (reads_iff hb hb').mp blue]
    | three red green blue =>
      match hds with
      | .cons hr (.cons hg (.cons hb .nil)) =>
        rw [ofDigits?, ← (reads_iff hr hr).mp red, ← (reads_iff hg hg).mp green,
          ← (reads_iff hb hb).mp blue]

def Stripped (text u : List Char) : Prop :=
  ∃ core, IsCore text core ∧ (core = '#' :: u ∨ core.head? ≠ some '#' ∧ core = u)

theorem body_eq_of_isCore_hash (h : IsCore text ('#' :: u)) : body text = u := by
  rw [body, h.trim_eq]
  rfl

theorem body_eq_of_isCore (h : IsCore text u) (hhead : u.head? ≠ some '#') : body text = u := by
  rw [body, h.trim_eq]
  split
  next => exact absurd rfl hhead
  next => rfl

theorem stripped_body (text : List Char) : Stripped text (body text) := by
  refine ⟨trim text, isCore_trim text, ?_⟩
  rw [body]
  split
  next rest hrest => exact .inl hrest
  next hno =>
    refine .inr ⟨fun hhead => ?_, rfl⟩
    obtain ⟨rest, hrest⟩ := List.head?_eq_some_iff.mp hhead
    exact hno rest hrest

theorem stripped_iff : Stripped text u ↔ u = body text := by
  constructor
  · rintro ⟨core, hcore, rfl | ⟨hhead, rfl⟩⟩
    · exact (body_eq_of_isCore_hash hcore).symm
    · exact (body_eq_of_isCore hcore hhead).symm
  · rintro rfl
    exact stripped_body text

theorem Reads.isHexDigit {high low : Char} {x : UInt8} (h : Reads high low x) :
    IsHexDigit high ∧ IsHexDigit low := by
  obtain ⟨v, w, hv, hw, -⟩ := h
  exact ⟨isHexDigit_iff.mpr ⟨v, hv⟩, isHexDigit_iff.mpr ⟨w, hw⟩⟩

theorem Spells.isHexDigit (h : Spells u c) : ∀ d ∈ u, IsHexDigit d := by
  cases h with
  | six red green blue => simp [red.isHexDigit, green.isHexDigit, blue.isHexDigit]
  | three red green blue => simp [red.isHexDigit, green.isHexDigit, blue.isHexDigit]

theorem Spells.length_eq (h : Spells u c) : u.length = 3 ∨ u.length = 6 := by
  cases h with
  | six => exact .inr rfl
  | three => exact .inl rfl

theorem isSome_ofDigits?_iff {ds : List Nat} :
    (ofDigits? ds).isSome ↔ ds.length = 3 ∨ ds.length = 6 := by
  rw [ofDigits?.eq_def]
  split
  next => simp
  next => simp
  next hthree hsix =>
    refine iff_of_false (by simp) ?_
    rintro (hlen | hlen)
    · match ds, hlen with
      | [r, g, b], _ => exact hthree r g b rfl
    · match ds, hlen with
      | [r, r', g, g', b, b'], _ => exact hsix r r' g g' b b' rfl

inductive Reading (u : List Char) : Except SyntaxError Color → Prop
  | color (c : Color) (hspells : Spells u c) : Reading u (.ok c)
  | wrongDigit (hascii : ∀ d ∈ u, d.toNat < 128) (hwrong : ∃ d ∈ u, ¬ IsHexDigit d) :
      Reading u (.error (.digits u))
  | foreign (hforeign : ∃ d ∈ u, ¬ d.toNat < 128) : Reading u (.error .length)
  | wrongLength (hdigits : ∀ d ∈ u, IsHexDigit d) (hlen : ¬ (u.length = 3 ∨ u.length = 6)) :
      Reading u (.error .length)

theorem reading_ofChars (text : List Char) : Reading (body text) (ofChars text) := by
  rw [ofChars]
  generalize body text = u
  split
  next hascii =>
    have hascii : ∀ d ∈ u, d.toNat < 128 := by simpa using hascii
    split
    next hnone =>
      refine .wrongDigit hascii ?_
      have hsome := isSome_mapM_hexValue?_iff (u := u)
      simpa [hnone] using hsome
    next ds hds =>
      have hvalues := mapM_hexValue?_eq_some_iff.mp hds
      split
      next c hc => exact .color c ((ofDigits?_eq_some_iff hvalues).mp hc)
      next hnone =>
        refine .wrongLength (isSome_mapM_hexValue?_iff.mp (by simp [hds])) ?_
        rw [hvalues.length_eq, ← isSome_ofDigits?_iff, hnone]
        simp
  next hforeign => exact .foreign (by simpa using hforeign)

theorem Spells.unique {c' : Color} (h : Spells u c) (h' : Spells u c') : c = c' := by
  obtain ⟨ds, hds⟩ := Option.isSome_iff_exists.mp (isSome_mapM_hexValue?_iff.mpr h.isHexDigit)
  have hvalues := mapM_hexValue?_eq_some_iff.mp hds
  have hc := (ofDigits?_eq_some_iff hvalues).mpr h
  exact Option.some.inj (hc.symm.trans ((ofDigits?_eq_some_iff hvalues).mpr h'))

namespace Reading

variable {answer : Except SyntaxError Color}

theorem eq_ok_iff (h : Reading u answer) : answer = .ok c ↔ Spells u c := by
  cases h with
  | color c' hspells =>
    rw [Except.ok.injEq]
    exact ⟨fun hc => hc ▸ hspells, hspells.unique⟩
  | wrongDigit hascii hwrong =>
    obtain ⟨d, hd, hnot⟩ := hwrong
    exact iff_of_false (by simp) fun hc => hnot (hc.isHexDigit d hd)
  | foreign hforeign =>
    obtain ⟨d, hd, hnot⟩ := hforeign
    exact iff_of_false (by simp) fun hc => hnot (hc.isHexDigit d hd).toNat_lt
  | wrongLength hdigits hlen => exact iff_of_false (by simp) fun hc => hlen hc.length_eq

theorem eq_digits_iff (h : Reading u answer) {found : List Char} :
    answer = .error (.digits found) ↔
      found = u ∧ (∀ d ∈ u, d.toNat < 128) ∧ ∃ d ∈ u, ¬ IsHexDigit d := by
  cases h with
  | color c' hspells =>
    refine iff_of_false (by simp) ?_
    rintro ⟨-, -, d, hd, hnot⟩
    exact hnot (hspells.isHexDigit d hd)
  | wrongDigit hascii hwrong =>
    rw [Except.error.injEq, SyntaxError.digits.injEq, eq_comm]
    exact (and_iff_left ⟨hascii, hwrong⟩).symm
  | foreign hforeign =>
    obtain ⟨d, hd, hnot⟩ := hforeign
    exact iff_of_false (by simp) fun h => hnot (h.2.1 d hd)
  | wrongLength hdigits hlen =>
    refine iff_of_false (by simp) ?_
    rintro ⟨-, -, d, hd, hnot⟩
    exact hnot (hdigits d hd)

theorem exists_eq_ok_iff (h : Reading u answer) :
    (∃ c, answer = .ok c) ↔ (u.length = 3 ∨ u.length = 6) ∧ ∀ d ∈ u, IsHexDigit d := by
  cases h with
  | color c hspells => exact iff_of_true ⟨c, rfl⟩ ⟨hspells.length_eq, hspells.isHexDigit⟩
  | wrongDigit hascii hwrong =>
    obtain ⟨d, hd, hnot⟩ := hwrong
    exact iff_of_false (by simp) fun h => hnot (h.2 d hd)
  | foreign hforeign =>
    obtain ⟨d, hd, hnot⟩ := hforeign
    exact iff_of_false (by simp) fun h => hnot (h.2 d hd).toNat_lt
  | wrongLength hdigits hlen => exact iff_of_false (by simp) fun h => hlen h.1

theorem eq_length_iff (h : Reading u answer) :
    answer = .error .length ↔
      ¬ ((u.length = 3 ∨ u.length = 6) ∧ ∀ d ∈ u, IsHexDigit d) ∧
        ¬ ((∀ d ∈ u, d.toNat < 128) ∧ ∃ d ∈ u, ¬ IsHexDigit d) := by
  have hdigits : (∃ found, answer = .error (.digits found)) ↔
      (∀ d ∈ u, d.toNat < 128) ∧ ∃ d ∈ u, ¬ IsHexDigit d := by
    simp only [h.eq_digits_iff, exists_eq_left]
  rw [← h.exists_eq_ok_iff, ← hdigits]
  cases h <;> simp

end Reading

def cut? (bytes : List UInt8) (start stop : Nat) : Option (List UInt8) :=
  let between (i : Nat) : Bool := bytes[i]?.all fun b => b < 0x80 || 0xC0 ≤ b
  if start ≤ stop ∧ stop ≤ bytes.length ∧ between start ∧ between stop then
    some ((bytes.drop start).take (stop - start))
  else none

def fit? (n : Nat) : Option UInt8 :=
  if n < 256 then some (.ofNat n) else none

def value? (digits : List UInt8) : Option UInt8 :=
  digits.foldlM (fun value b =>
    (hexValue? (Char.ofNat b.toNat)).bind fun v => fit? (16 * value.toNat + v)) 0

def channelAt? (bytes : List UInt8) (start stop : Nat) : Option UInt8 :=
  (cut? bytes start stop).bind value?

def doubledAt? (bytes : List UInt8) (i : Nat) : Option UInt8 :=
  (channelAt? bytes i (i + 1)).bind fun x => fit? (17 * x.toNat)

def ofBytes? (bytes : List UInt8) : Option Color :=
  match bytes.length with
  | 3 => do return ⟨← doubledAt? bytes 0, ← doubledAt? bytes 1, ← doubledAt? bytes 2⟩
  | 6 => do return ⟨← channelAt? bytes 0 2, ← channelAt? bytes 2 4, ← channelAt? bytes 4 6⟩
  | _ => none

theorem cut?_of_ascii {bytes : List UInt8} (hascii : ∀ b ∈ bytes, b < 0x80) (start stop : Nat)
    (hle : start ≤ stop) (hstop : stop ≤ bytes.length) :
    cut? bytes start stop = some ((bytes.drop start).take (stop - start)) := by
  have hbetween (i : Nat) : (bytes[i]?.all fun b => b < 0x80 || 0xC0 ≤ b) = true := by
    rw [Option.all_eq_true]
    intro b hb
    simp [hascii b (List.mem_of_getElem? hb)]
  simp only [cut?]
  rw [if_pos ⟨hle, hstop, hbetween start, hbetween stop⟩]

def asciiByte (d : Char) : UInt8 :=
  UInt8.ofNat d.toNat

theorem ofNat_asciiByte {d : Char} (hd : d.toNat < 128) : Char.ofNat (asciiByte d).toNat = d := by
  rw [asciiByte, UInt8.toNat_ofNat', Nat.mod_eq_of_lt (by omega), Char.ofNat_toNat]

theorem asciiByte_lt {d : Char} (hd : d.toNat < 128) : asciiByte d < 0x80 := by
  rw [UInt8.lt_iff_toNat_lt, asciiByte, UInt8.toNat_ofNat', Nat.mod_eq_of_lt (by omega)]
  exact hd

theorem encodeUtf8_of_ascii (hascii : ∀ d ∈ u, d.toNat < 128) :
    encodeUtf8 (String.ofList u) = u.map asciiByte := by
  rw [encodeUtf8, String.toList_ofList]
  induction u with
  | nil => rfl
  | cons d u ih =>
    obtain ⟨hd, hu⟩ := List.forall_mem_cons.mp hascii
    have hsize : d.utf8Size = 1 := by
      rw [Char.utf8Size_eq_one_iff, UInt32.le_iff_toNat_le]
      exact Nat.le_of_lt_succ hd
    have hchar : String.utf8EncodeChar d = [asciiByte d] := String.utf8EncodeChar_eq_singleton hsize
    rw [List.flatMap_cons, List.map_cons, hchar, ih hu, List.singleton_append]

theorem fit?_eq_some_of {x : UInt8} {n : Nat} (hx : x.toNat = n) : fit? n = some x := by
  have hn : n < 256 := hx ▸ x.toNat_lt
  rw [fit?, if_pos hn, ← hx, UInt8.ofNat_toNat]

theorem hexValue?_asciiByte {d : Char} {v : Nat} (hv : HasValue d v) :
    hexValue? (Char.ofNat (asciiByte d).toNat) = some v := by
  have hd : IsHexDigit d := isHexDigit_iff.mpr ⟨v, hv⟩
  rw [ofNat_asciiByte hd.toNat_lt, hexValue?_eq_some_iff]
  exact hv

theorem toNat_ofNat_digit {d : Char} {v : Nat} (hv : HasValue d v) : (UInt8.ofNat v).toNat = v := by
  have hlt := hv.lt
  rw [UInt8.toNat_ofNat', Nat.mod_eq_of_lt (by omega)]

theorem value?_single {d : Char} {v : Nat} (hv : HasValue d v) :
    value? [asciiByte d] = some (UInt8.ofNat v) := by
  have hfit := fit?_eq_some_of (toNat_ofNat_digit hv)
  simp [value?, hexValue?_asciiByte hv, hfit]

theorem value?_pair {high low : Char} {x : UInt8} (h : Reads high low x) :
    value? [asciiByte high, asciiByte low] = some x := by
  obtain ⟨v, w, hv, hw, hx⟩ := h
  have hlt := hv.lt
  have hfirst := fit?_eq_some_of (toNat_ofNat_digit hv)
  have hsecond : fit? (16 * v + w) = some x := fit?_eq_some_of hx
  have hmod : v % 256 = v := Nat.mod_eq_of_lt (by omega)
  simp [value?, hexValue?_asciiByte hv, hexValue?_asciiByte hw, hfirst, hsecond, hmod]

theorem double_value? {d : Char} {x : UInt8} (h : Reads d d x) :
    (value? [asciiByte d]).bind (fun y => fit? (17 * y.toNat)) = some x := by
  obtain ⟨v, w, hv, hw, hx⟩ := h
  rw [hw.unique hv] at hx
  rw [value?_single hv, Option.bind_some, toNat_ofNat_digit hv]
  exact fit?_eq_some_of (by omega)

theorem ofBytes?_of_spells (h : Spells u c) : ofBytes? (encodeUtf8 (String.ofList u)) = some c := by
  have hascii : ∀ d ∈ u, d.toNat < 128 := fun d hd => (h.isHexDigit d hd).toNat_lt
  have hbytes : ∀ b ∈ u.map asciiByte, b < 0x80 := by
    simpa using fun d hd => asciiByte_lt (hascii d hd)
  rw [encodeUtf8_of_ascii hascii]
  cases h with
  | six red green blue =>
    have hr := cut?_of_ascii hbytes 0 2 (by decide) (by simp)
    have hg := cut?_of_ascii hbytes 2 4 (by decide) (by simp)
    have hb := cut?_of_ascii hbytes 4 6 (by decide) (by simp)
    simp only [List.map_cons, List.map_nil] at hr hg hb ⊢
    simp [ofBytes?, channelAt?, hr, hg, hb, value?_pair red, value?_pair green, value?_pair blue]
  | three red green blue =>
    have hr := cut?_of_ascii hbytes 0 1 (by decide) (by simp)
    have hg := cut?_of_ascii hbytes 1 2 (by decide) (by simp)
    have hb := cut?_of_ascii hbytes 2 3 (by decide) (by simp)
    simp only [List.map_cons, List.map_nil] at hr hg hb ⊢
    simp [ofBytes?, doubledAt?, channelAt?, hr, hg, hb, double_value? red, double_value? green,
      double_value? blue]

theorem eq_hash_of_toLower {d : Char} (h : d.toLower = '#') : d = '#' := by
  by_cases hd : d.toNat < 128
  · have htable : ∀ n : Fin 128, (Char.ofNat n).toLower = '#' → Char.ofNat n = '#' := by
      decide +kernel
    exact of_ascii (p := fun d => d.toLower = '#' → d = '#') htable hd h
  · rwa [toLower_of_not_ascii hd] at h

theorem hasValue_of_toLower {d : Char} {v : Nat} (hv : v < 16) (h : d.toLower = hexDigit v) :
    HasValue d v := by
  have htable : ∀ w : Fin 16, hexDigits[w.val]? = some (hexDigit w.val) := by decide
  rw [HasValue, h]
  exact htable ⟨v, hv⟩

theorem reads_of_hexByte {high low : Char} {x : UInt8}
    (h : [high.toLower, low.toLower] = hexByte x) : Reads high low x := by
  have hx := x.toNat_lt
  obtain ⟨hhigh, hlow⟩ : high.toLower = hexDigit (x.toNat / 16) ∧
      low.toLower = hexDigit (x.toNat % 16) := by simpa [hexByte] using h
  exact ⟨_, _, hasValue_of_toLower (by omega) hhigh,
    hasValue_of_toLower (Nat.mod_lt _ (by decide)) hlow, (Nat.div_add_mod _ 16).symm⟩

theorem spells_of_map_toLower (h : u.map Char.toLower = c.digits) : Spells u c := by
  simp only [digits, channels, List.flatMap_cons, List.flatMap_nil, hexByte, List.cons_append,
    List.nil_append, List.map_eq_cons_iff, List.map_eq_nil_iff] at h
  obtain ⟨r, _, rfl, hr, r', _, rfl, hr', g, _, rfl, hg, g', _, rfl, hg', b, _, rfl, hb, b', _, rfl,
    hb', rfl⟩ := h
  exact .six (reads_of_hexByte (by rw [hr, hr', hexByte]))
    (reads_of_hexByte (by rw [hg, hg', hexByte])) (reads_of_hexByte (by rw [hb, hb', hexByte]))

theorem ofChars_of_spells (hbody : body text = u) (h : Spells u c) : ofChars text = .ok c := by
  subst hbody
  exact (reading_ofChars text).eq_ok_iff.mpr h

theorem ofChars_of_written {front written back : List Char}
    (hfront : ∀ d ∈ front, isBlank d = true) (hback : ∀ d ∈ back, isBlank d = true)
    (hwritten : written.map Char.toLower = c.toChars) :
    ofChars (front ++ written ++ back) = .ok c ∧
      ofChars (front ++ written.tail ++ back) = .ok c := by
  obtain ⟨mark, u, rfl, hmark, hu⟩ := List.map_eq_cons_iff.mp hwritten
  obtain rfl := eq_hash_of_toLower hmark
  have hspells := spells_of_map_toLower hu
  have hblank : ∀ d ∈ u, isBlank d = false := fun d hd => (hspells.isHexDigit d hd).not_isBlank
  have hhead : u.head? ≠ some '#' := fun h =>
    (hspells.isHexDigit '#' (List.mem_of_mem_head? h)).ne_hash rfl
  constructor
  · have hcore := isCore_of_not_blank hfront hback
      (List.forall_mem_cons.mpr ⟨(by decide : isBlank '#' = false), hblank⟩)
    exact ofChars_of_spells (body_eq_of_isCore_hash hcore) hspells
  · have hcore := isCore_of_not_blank hfront hback hblank
    exact ofChars_of_spells (body_eq_of_isCore hcore hhead) hspells

theorem ofText_accepts_its_grammar :
    (∀ s : String, let u := body s.toList
      (∀ v, Stripped s.toList v ↔ v = u) ∧
      ((∃ c, ofText s = .ok c) ↔ (u.length = 3 ∨ u.length = 6) ∧ ∀ d ∈ u, IsHexDigit d) ∧
      (∀ c, ofText s = .ok c ↔ Spells u c) ∧
      (∀ c, ofText s = .ok c → ofBytes? (encodeUtf8 (String.ofList u)) = some c) ∧
      (∀ found, ofText s = .error (.digits found) ↔
        found = u ∧ (∀ d ∈ u, d.toNat < 128) ∧ ∃ d ∈ u, ¬ IsHexDigit d) ∧
      (ofText s = .error .length ↔
        ¬ ((u.length = 3 ∨ u.length = 6) ∧ ∀ d ∈ u, IsHexDigit d) ∧
          ¬ ((∀ d ∈ u, d.toNat < 128) ∧ ∃ d ∈ u, ¬ IsHexDigit d))) ∧
    ∀ (c : Color) (front written back : List Char), (∀ d ∈ front, isBlank d = true) →
      (∀ d ∈ back, isBlank d = true) → written.map Char.toLower = c.toText.toList →
      ofText (String.ofList (front ++ written ++ back)) = .ok c ∧
        ofText (String.ofList (front ++ written.tail ++ back)) = .ok c := by
  constructor
  · intro s u
    have hreading : Reading u (ofText s) := reading_ofChars s.toList
    refine ⟨fun v => stripped_iff, hreading.exists_eq_ok_iff, fun c => hreading.eq_ok_iff,
      fun c hc => ?_, fun found => hreading.eq_digits_iff, hreading.eq_length_iff⟩
    exact ofBytes?_of_spells (hreading.eq_ok_iff.mp hc)
  · intro c front written back hfront hback hwritten
    rw [toText, String.toList_ofList] at hwritten
    simpa only [ofText, String.toList_ofList] using ofChars_of_written hfront hback hwritten

-- An em space in front, and both cases of one digit.
theorem ofText_accepts_its_grammar_mixedCase :
    ofText (String.ofList (['\u2003'] ++ ['#', 'F', 'f', 'c', '0', 'A', '1'] ++ [' ', '\n'])) =
      .ok ⟨0xFF, 0xC0, 0xA1⟩ :=
  (ofText_accepts_its_grammar.2 ⟨0xFF, 0xC0, 0xA1⟩ _ _ _ (List.all_eq_true.mp (by decide))
    (List.all_eq_true.mp (by decide)) (by decide)).1

end Color

end PaletteSnap
