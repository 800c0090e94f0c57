import PaletteSnap.Text.Utf8

namespace PaletteSnap.Text

variable {b : UInt8} {c : Char} {bits value low high n k : Nat} {ranges : List (UInt8 × UInt8)}
  {bytes rest : List UInt8}

def leastCodePoint : Nat → Nat
  | 0 => 0
  | 1 => 0x80
  | 2 => 0x800
  | _ => 0x10000

theorem le_leastCodePoint_succ (k : Nat) : 0x80 ≤ leastCodePoint (k + 1) := by
  match k with
  | 0 => decide
  | 1 => decide
  | _ + 2 => simp [leastCodePoint]

def least (value : Nat) (ranges : List (UInt8 × UInt8)) : Nat :=
  ranges.foldl (fun v r => 64 * v + r.1.toNat % 64) value

def greatest (value : Nat) (ranges : List (UInt8 × UInt8)) : Nat :=
  ranges.foldl (fun v r => 64 * v + r.2.toNat % 64) value

theorem lead?_bounds (h : lead? b = some (bits, ranges)) :
    (ranges = [] → bits = b.toNat) ∧ ranges.length ≤ 3 ∧
      (∀ r ∈ ranges, 0x80 ≤ r.1 ∧ r.2 ≤ 0xBF) ∧
      leastCodePoint ranges.length ≤ least bits ranges ∧
      (greatest bits ranges < 0xD800 ∨
        0xDFFF < least bits ranges ∧ greatest bits ranges < 0x110000) := by
  have htable : ∀ m : Fin 256, ((lead? (UInt8.ofNat m)).all fun p =>
      (p.2 = [] → p.1 = m.val) ∧ p.2.length ≤ 3 ∧ (p.2.all fun r => 0x80 ≤ r.1 ∧ r.2 ≤ 0xBF) ∧
        leastCodePoint p.2.length ≤ least p.1 p.2 ∧
        (greatest p.1 p.2 < 0xD800 ∨ 0xDFFF < least p.1 p.2 ∧ greatest p.1 p.2 < 0x110000)) := by
    decide +kernel
  have hb := htable ⟨b.toNat, b.toNat_lt⟩
  simpa only [UInt8.ofNat_toNat, h, Option.all_some, decide_eq_true_eq, List.all_eq_true] using hb

theorem follow_between (hranges : ∀ r ∈ ranges, 0x80 ≤ r.1 ∧ r.2 ≤ 0xBF) (hlow : low ≤ value)
    (hhigh : value ≤ high) (h : (follow value ranges rest).1 = some n) :
    least low ranges ≤ n ∧ n ≤ greatest high ranges := by
  fun_induction follow value ranges rest generalizing low high with
  | case1 value rest =>
    obtain rfl := Option.some.inj h
    exact ⟨hlow, hhigh⟩
  | case2 => cases h
  | case3 value first last ranges b rest hb ih =>
    obtain ⟨⟨hfirst, hlast⟩, hranges⟩ := List.forall_mem_cons.mp hranges
    simp only [UInt8.le_iff_toNat_le, UInt8.reduceToNat] at hfirst hlast hb
    have hlow : 64 * low + first.toNat % 64 ≤ 64 * value + b.toNat % 64 := by omega
    have hhigh : 64 * value + b.toNat % 64 ≤ 64 * high + last.toNat % 64 := by omega
    exact ih hranges hlow hhigh h
  | case4 => cases h

theorem length_follow_of_some (h : (follow value ranges rest).1 = some n) :
    rest.length = ranges.length + (follow value ranges rest).2.length := by
  fun_induction follow value ranges rest with
  | case1 => simp
  | case2 => cases h
  | case3 value first last ranges b rest hb ih =>
    have hrest := ih h
    simp only [List.length_cons]
    omega
  | case4 => cases h

theorem length_follow_of_none (h : (follow value ranges rest).1 = none) :
    rest.length < ranges.length + (follow value ranges rest).2.length := by
  fun_induction follow value ranges rest with
  | case1 => cases h
  | case2 => simp
  | case3 value first last ranges b rest hb ih =>
    have hrest := ih h
    simp only [List.length_cons]
    omega
  | case4 => simp

theorem mem_of_mem_follow (h : b ∈ (follow value ranges rest).2) : b ∈ rest := by
  fun_induction follow value ranges rest with
  | case1 => exact h
  | case2 => exact h
  | case3 value first last ranges b' rest hb ih => exact List.mem_cons_of_mem b' (ih h)
  | case4 => exact h

theorem toNat_of_follow (hlead : lead? b = some (bits, ranges))
    (h : (follow bits ranges rest).1 = some n) :
    (Char.ofNat n).toNat = n ∧ leastCodePoint ranges.length ≤ n := by
  obtain ⟨-, -, hranges, hleast, hvalid⟩ := lead?_bounds hlead
  obtain ⟨hlow, hhigh⟩ := follow_between hranges (Nat.le_refl bits) (Nat.le_refl bits) h
  have hchar : n.isValidChar := by
    rw [Nat.isValidChar]
    omega
  have hval : (Char.ofNat n).toNat = n := by
    rw [Char.ofNat, dif_pos hchar]
    rfl
  exact ⟨hval, Nat.le_trans hleast hlow⟩

theorem toNat_eq_of_follow (hlead : lead? b = some (bits, ranges))
    (h : (follow bits ranges rest).1 = some n) (hn : n < 0x80) : b.toNat = n := by
  obtain ⟨hsingle, -⟩ := lead?_bounds hlead
  obtain ⟨-, hleast⟩ := toNat_of_follow hlead h
  cases ranges with
  | nil => exact (hsingle rfl).symm.trans (Option.some.inj h)
  | cons r ranges =>
    have hfirst := le_leastCodePoint_succ ranges.length
    rw [List.length_cons] at hleast
    omega

theorem lt_utf8Size (hk : k ≤ 3) (h : leastCodePoint k ≤ c.toNat) : k < c.utf8Size := by
  have hval : c.toNat = c.val.toNat := rfl
  simp only [Char.utf8Size, UInt32.le_iff_toNat_le, ← hval]
  match k, hk with
  | 0, _ => grind
  | 1, _ => grind [leastCodePoint]
  | 2, _ => grind [leastCodePoint]
  | 3, _ => grind [leastCodePoint]

theorem encodeUtf8_decodeLossy (bytes : List UInt8) :
    encodeUtf8 (decodeLossy bytes) =
      (pieces bytes).flatMap fun piece => String.utf8EncodeChar (piece.getD '\uFFFD') := by
  rw [encodeUtf8, decodeLossy, String.toList_ofList, List.flatMap_map]

theorem length_le_encodeUtf8_decodeLossy (bytes : List UInt8) :
    bytes.length ≤ (encodeUtf8 (decodeLossy bytes)).length := by
  rw [encodeUtf8_decodeLossy]
  have hreplacement : (String.utf8EncodeChar '\uFFFD').length = 3 := by decide
  fun_induction pieces bytes with
  | case1 => simp
  | case2 b rest hlead ih =>
    rw [List.flatMap_cons, List.length_append, Option.getD_none, hreplacement, List.length_cons]
    omega
  | case3 b rest bits ranges hlead ih =>
    obtain ⟨-, hlen, -⟩ := lead?_bounds hlead
    rw [List.flatMap_cons, List.length_append, List.length_cons]
    cases hn : (follow bits ranges rest).1 with
    | none =>
      have hrest := length_follow_of_none hn
      rw [Option.map_none, Option.getD_none, hreplacement]
      omega
    | some n =>
      have hrest := length_follow_of_some hn
      obtain ⟨hchar, hleast⟩ := toNat_of_follow hlead hn
      have hsize := lt_utf8Size hlen (hchar.symm ▸ hleast)
      rw [Option.map_some, Option.getD_some, String.length_utf8EncodeChar]
      omega

theorem mem_of_slash_mem_decodeLossy (h : '/' ∈ (decodeLossy bytes).toList) :
    (0x2F : UInt8) ∈ bytes := by
  rw [decodeLossy, String.toList_ofList, List.mem_map] at h
  obtain ⟨piece, hpiece, hslash⟩ := h
  fun_induction pieces bytes with
  | case1 => cases hpiece
  | case2 b rest hlead ih =>
    rcases List.mem_cons.mp hpiece with rfl | hpiece
    · exact absurd hslash (by decide)
    · exact List.mem_cons_of_mem b (ih hpiece)
  | case3 b rest bits ranges hlead ih =>
    rcases List.mem_cons.mp hpiece with rfl | hpiece
    · cases hn : (follow bits ranges rest).1 with
      | none =>
        rw [hn] at hslash
        exact absurd hslash (by decide)
      | some n =>
        rw [hn, Option.map_some, Option.getD_some] at hslash
        obtain ⟨hchar, -⟩ := toNat_of_follow hlead hn
        have hslash : n = 0x2F := by rw [← hchar, hslash]; rfl
        have hb := toNat_eq_of_follow hlead hn (by omega)
        exact (UInt8.toNat_inj.mp (hb.trans hslash) : b = 0x2F) ▸ List.mem_cons_self
    · exact List.mem_cons_of_mem b (mem_of_mem_follow (ih hpiece))

theorem slash_mem_utf8EncodeChar_iff : (0x2F : UInt8) ∈ String.utf8EncodeChar c ↔ c = '/' := by
  have hslash : c = '/' ↔ c.val.toNat = 47 := Char.toNat_inj.symm
  rw [hslash]
  unfold String.utf8EncodeChar
  generalize c.val.toNat = v
  simp only
  repeat' split
  all_goals
    simp only [List.mem_cons, List.not_mem_nil, or_false, ← UInt8.toNat_inj, UInt8.toNat_ofNat',
      UInt8.reduceToNat]
    omega

theorem slash_mem_encodeUtf8_iff {text : String} :
    (0x2F : UInt8) ∈ encodeUtf8 text ↔ '/' ∈ text.toList := by
  simp [encodeUtf8, slash_mem_utf8EncodeChar_iff]

theorem encodeUtf8_append (s t : String) : encodeUtf8 (s ++ t) = encodeUtf8 s ++ encodeUtf8 t := by
  rw [encodeUtf8, String.toList_append, List.flatMap_append]
  rfl

end PaletteSnap.Text
