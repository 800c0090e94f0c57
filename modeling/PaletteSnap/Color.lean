namespace PaletteSnap

structure Color where
  red : UInt8
  green : UInt8
  blue : UInt8
deriving DecidableEq, Repr, Inhabited

def channelGap (a b : UInt8) : Nat :=
  max a.toNat b.toNat - min a.toNat b.toNat

theorem channelGap_self (a : UInt8) : channelGap a a = 0 := by
  simp [channelGap]

theorem channelGap_comm (a b : UInt8) : channelGap a b = channelGap b a := by
  simp [channelGap, Nat.max_comm, Nat.min_comm]

theorem channelGap_le (a b : UInt8) : channelGap a b ≤ 255 := by
  have ha := a.toNat_lt
  have hb := b.toNat_lt
  simp only [channelGap]
  omega

theorem channelGap_eq_zero_iff {a b : UInt8} : channelGap a b = 0 ↔ a = b := by
  rw [channelGap, ← UInt8.toNat_inj]
  omega

namespace Color

theorem exists_channel_ne {a b : Color} (h : a ≠ b) :
    a.red ≠ b.red ∨ a.green ≠ b.green ∨ a.blue ≠ b.blue := by
  cases a
  cases b
  simp only [ne_eq, Color.mk.injEq, Decidable.not_and_iff_or_not] at h
  exact h

def channels (c : Color) : List UInt8 :=
  [c.red, c.green, c.blue]

-- A rest of fewer than three bytes is left out.
def ofChannels : List UInt8 → List Color
  | r :: g :: b :: rest => ⟨r, g, b⟩ :: ofChannels rest
  | _ => []

theorem ofChannels_flatMap_channels (colors : List Color) :
    ofChannels (colors.flatMap channels) = colors := by
  induction colors with
  | nil => rfl
  | cons c rest ih => exact congrArg (c :: ·) ih

theorem length_flatMap_channels (colors : List Color) :
    (colors.flatMap channels).length = 3 * colors.length := by
  induction colors with
  | nil => rfl
  | cons c rest ih =>
    rw [List.flatMap_cons, List.length_append, ih, List.length_cons, channels]
    simp only [List.length_cons, List.length_nil]
    omega

theorem length_ofChannels (bytes : List UInt8) : (ofChannels bytes).length = bytes.length / 3 := by
  fun_induction ofChannels bytes with
  | case1 r g b rest ih =>
    rw [List.length_cons, ih]
    simp only [List.length_cons]
    omega
  | case2 bytes hshort =>
    rcases bytes with _ | ⟨r, _ | ⟨g, _ | ⟨b, rest⟩⟩⟩
    · rfl
    · simp
    · simp
    · exact absurd rfl (hshort r g b rest)

theorem flatMap_channels_ofChannels {bytes : List UInt8} (h : bytes.length % 3 = 0) :
    (ofChannels bytes).flatMap channels = bytes := by
  fun_induction ofChannels bytes with
  | case1 r g b rest ih =>
    have hrest : rest.length % 3 = 0 := by
      simp only [List.length_cons] at h
      omega
    rw [List.flatMap_cons, ih hrest]
    rfl
  | case2 bytes hshort =>
    rcases bytes with _ | ⟨r, _ | ⟨g, _ | ⟨b, rest⟩⟩⟩
    · rfl
    · simp at h
    · simp at h
    · exact absurd rfl (hshort r g b rest)

theorem getElem?_ofChannels {bytes : List UInt8} {i : Nat} (h : bytes.length % 3 = 0)
    (hi : 3 * i < bytes.length) :
    ((ofChannels bytes)[i]?).map channels = some ((bytes.drop (3 * i)).take 3) := by
  fun_induction ofChannels bytes generalizing i with
  | case1 r g b rest ih =>
    simp only [List.length_cons] at h hi
    cases i with
    | zero => rfl
    | succ i =>
      have hdrop : (r :: g :: b :: rest).drop (3 * (i + 1)) = rest.drop (3 * i) := rfl
      rw [List.getElem?_cons_succ, hdrop, ih (by omega) (by omega)]
  | case2 bytes hshort =>
    rcases bytes with _ | ⟨r, _ | ⟨g, _ | ⟨b, rest⟩⟩⟩
    · simp at hi
    · simp at h
    · simp at h
    · exact absurd rfl (hshort r g b rest)

-- Grouping and recoloring both use this rule.
def Near (tolerance : Nat) (a b : Color) : Prop :=
  channelGap a.red b.red ≤ tolerance ∧ channelGap a.green b.green ≤ tolerance ∧
    channelGap a.blue b.blue ≤ tolerance

instance (tolerance : Nat) (a b : Color) : Decidable (Near tolerance a b) :=
  inferInstanceAs (Decidable (_ ∧ _ ∧ _))

theorem near_self (tolerance : Nat) (a : Color) : Near tolerance a a := by
  simp [Near, channelGap_self]

theorem near_zero_iff {a b : Color} : Near 0 a b ↔ a = b := by
  cases a
  cases b
  simp only [Near, Nat.le_zero, channelGap_eq_zero_iff, Color.mk.injEq]

theorem near_comm {tolerance : Nat} {a b : Color} : Near tolerance a b ↔ Near tolerance b a := by
  simp only [Near, channelGap_comm a.red, channelGap_comm a.green, channelGap_comm a.blue]

theorem near_of_le {tolerance : Nat} (h : 255 ≤ tolerance) (a b : Color) : Near tolerance a b :=
  ⟨Nat.le_trans (channelGap_le _ _) h, Nat.le_trans (channelGap_le _ _) h,
    Nat.le_trans (channelGap_le _ _) h⟩

theorem Near.mono {s t : Nat} {a b : Color} (h : Near s a b) (hst : s ≤ t) : Near t a b :=
  ⟨Nat.le_trans h.1 hst, Nat.le_trans h.2.1 hst, Nat.le_trans h.2.2 hst⟩

end Color

end PaletteSnap
