import PaletteSnap.Codec.Zlib

namespace PaletteSnap

namespace Bytes

theorem take?_append_of_length {n : Nat} {front : Bytes} (hn : front.length = n) (rest : Bytes) :
    take? n (front ++ rest) = some (front, rest) := by
  subst hn
  exact take?_append front rest

theorem little_ofLittle_of_lt {width n : Nat} (hn : n < Nat.pow 256 width) :
    little (ofLittle width n) = n := by
  rw [little_ofLittle, Nat.mod_eq_of_lt hn]

end Bytes

namespace Deflate

theorem unpad_append_padding (bytes : Bytes) : unpad (bytes ++ padding) = bytes := by
  simp [unpad, padding]

variable {enough : Option Nat} {out : Array UInt8} {piece rest : Bytes}

theorem storedBlock?_append (hlen : piece.length < 65536) (hrest : padding.length ≤ rest.length) :
    storedBlock? (Bytes.ofLittle 2 piece.length ++ Bytes.ofLittle 2 (0xFFFF - piece.length) ++
        (piece ++ rest)) out =
      some ⟨some (Bits.ofBytes rest), out ++ piece.toArray⟩ := by
  have hlow : Bytes.little (Bytes.ofLittle 2 piece.length) = piece.length :=
    Bytes.little_ofLittle_of_lt hlen
  have hhigh : Bytes.little (Bytes.ofLittle 2 (0xFFFF - piece.length)) = 0xFFFF - piece.length :=
    Bytes.little_ofLittle_of_lt (Nat.lt_of_le_of_lt (Nat.sub_le _ _) (by decide))
  have hfields : (Bytes.ofLittle 2 piece.length ++
      Bytes.ofLittle 2 (0xFFFF - piece.length)).length = 4 := rfl
  rw [storedBlock?, Bytes.take?_append_of_length hfields]
  dsimp only
  rw [List.take_left' (Bytes.length_ofLittle 2 _), List.drop_left' (Bytes.length_ofLittle 2 _),
    hlow, hhigh, List.length_append, if_neg (by omega), if_neg (by omega), if_neg (by omega),
    List.drop_left, List.take_left]

def flag (last : Bool) : UInt8 :=
  if last then 1 else 0

theorem number?_flag (last : Bool) (bytes : Bytes) :
    (Bits.ofBytes (flag last :: bytes)).number? 1 = some (last.toNat, ⟨0, 7, bytes⟩) := by
  cases last <;> rfl

theorem number?_kind (bytes : Bytes) :
    (⟨0, 7, bytes⟩ : Bits).number? 2 = some (0, ⟨0, 5, bytes⟩) := by
  simp [Bits.number?, Bits.next?]

theorem blocks?_stored (last : Bool) (fuel : Nat) (hlen : piece.length < 65536)
    (hrest : padding.length ≤ rest.length) (hmore : satisfied enough out = false) :
    blocks? enough (fuel + 1) (Bits.ofBytes (stored last piece ++ rest)) out =
      if last then some ⟨some (Bits.ofBytes rest), out ++ piece.toArray⟩
      else blocks? enough fuel (Bits.ofBytes rest) (out ++ piece.toArray) := by
  have hsplit : stored last piece ++ rest = flag last :: (Bytes.ofLittle 2 piece.length ++
      Bytes.ofLittle 2 (0xFFFF - piece.length) ++ (piece ++ rest)) := by
    simp [stored, flag]
  have hbits : has blockBits (Bits.ofBytes (stored last piece ++ rest)) = true := by
    rw [has, Bits.holds_iff]
    simp [Bits.size, Bits.ofBytes, stored, Bytes.length_ofLittle, blockBits]
    omega
  rw [hsplit] at hbits ⊢
  rw [blocks?]
  simp only [hmore, hbits, Bool.false_eq_true, Bool.not_true, or_self, if_false,
    Option.bind_eq_bind, number?_flag, Option.bind_some, number?_kind, Bits.align,
    storedBlock?_append hlen hrest]
  cases last <;> rfl

theorem satisfied_eq_false (hmore : ∀ n ∈ enough, out.size < n) : satisfied enough out = false := by
  cases enough with
  | none => rfl
  | some n => simpa [satisfied] using hmore n rfl

theorem blocks?_storedBlocks (pieces : List Bytes) (fuel : Nat)
    (hlen : ∀ piece ∈ pieces, piece.length < 65536) (hrest : padding.length ≤ rest.length)
    (hmore : ∀ n ∈ enough, out.size + pieces.flatten.length < n) :
    blocks? enough (fuel + pieces.length + 1) (Bits.ofBytes (storedBlocks pieces ++ rest)) out =
      some ⟨some (Bits.ofBytes rest), out ++ pieces.flatten.toArray⟩ := by
  have hopen : satisfied enough out = false :=
    satisfied_eq_false fun n hn => Nat.lt_of_le_of_lt (Nat.le_add_right _ _) (hmore n hn)
  -- The output never reaches what is enough, since even the whole data does not.
  induction pieces using storedBlocks.induct generalizing out with
  | case1 =>
    rw [storedBlocks, blocks?_stored true _ (by decide) hrest hopen]
    rfl
  | case2 piece =>
    rw [storedBlocks, blocks?_stored true _ (hlen piece List.mem_cons_self) hrest hopen]
    simp
  | case3 piece pieces hne ih =>
    have hlen' : ∀ p ∈ pieces, p.length < 65536 := fun p hp => hlen p (List.mem_cons_of_mem _ hp)
    have hmore' : ∀ n ∈ enough, (out ++ piece.toArray).size + pieces.flatten.length < n := by
      intro n hn
      have := hmore n hn
      simp only [List.flatten_cons, List.length_append] at this
      simp only [Array.size_append, List.size_toArray]
      omega
    have hopen' : satisfied enough (out ++ piece.toArray) = false :=
      satisfied_eq_false fun n hn => Nat.lt_of_le_of_lt (Nat.le_add_right _ _) (hmore' n hn)
    have hrest' : padding.length ≤ (storedBlocks pieces ++ rest).length := by
      rw [List.length_append]
      omega
    rw [storedBlocks, List.append_assoc, List.length_cons, ← Nat.add_assoc,
      blocks?_stored false _ (hlen piece List.mem_cons_self) hrest' hopen, if_neg (by decide),
      ih hlen' hmore' hopen']
    simp
    exact hne

theorem length_le_length_storedBlocks (pieces : List Bytes) :
    pieces.length ≤ (storedBlocks pieces).length := by
  induction pieces using storedBlocks.induct with
  | case1 => exact Nat.zero_le _
  | case2 piece => simp [storedBlocks, stored]
  | case3 piece pieces hne ih =>
    simp only [storedBlocks, stored, List.length_append, List.length_cons]
    omega

theorem inflate?_store {data : Bytes} (rest : Bytes) (hmore : ∀ n ∈ enough, data.length < n) :
    inflate? enough (store data ++ rest) = some ⟨data, some rest⟩ := by
  have hlen : ∀ piece ∈ Bytes.chunks 65534 data, piece.length < 65536 := fun piece hpiece =>
    Nat.lt_succ_of_le (Bytes.length_le_of_mem_chunks hpiece)
  have hflat := Bytes.flatten_chunks 65534 data
  obtain ⟨fuel, hfuel⟩ : ∃ fuel, (Bits.ofBytes (store data ++ (rest ++ padding))).size =
      fuel + (Bytes.chunks 65534 data).length := by
    refine ⟨_, (Nat.sub_add_cancel ?_).symm⟩
    have := length_le_length_storedBlocks (Bytes.chunks 65534 data)
    simp only [Bits.size, Bits.ofBytes, store, List.length_append]
    omega
  rw [inflate?, List.append_assoc, hfuel, store,
    blocks?_storedBlocks _ _ hlen (by simp) (by simpa [hflat] using hmore)]
  simp [hflat, Bits.align, Bits.ofBytes, unpad_append_padding]

end Deflate

theorem Zlib.decompress?_compress {enough : Option Nat} {data : Bytes}
    (hmore : ∀ n ∈ enough, data.length < n) :
    decompress? enough (compress data) = some ⟨data, true⟩ := by
  have hvalid : validHeader 0x78 0x01 = true := by decide
  rw [compress, List.cons_append, List.cons_append, decompress?, if_pos hvalid,
    Deflate.inflate?_store _ hmore]
  simp [Bytes.ofBig, Bytes.length_ofLittle]

end PaletteSnap
