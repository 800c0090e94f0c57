import Mathlib.Logic.ExistsUnique
import PaletteSnap.Proofs.Rows

namespace PaletteSnap

theorem address_lt {w h x y : Nat} (hx : x < w) (hy : y < h) : y * w + x < w * h := by
  have hrows : (y + 1) * w ≤ h * w := Nat.mul_le_mul_right w hy
  rw [Nat.succ_mul] at hrows
  rw [Nat.mul_comm w h]
  omega

theorem existsUnique_address {w h i : Nat} (hi : i < w * h) :
    ∃! p : Nat × Nat, (p.1 < w ∧ p.2 < h) ∧ p.2 * w + p.1 = i := by
  have hw : 0 < w := Nat.pos_of_mul_pos_right (Nat.zero_lt_of_lt hi)
  refine ⟨(i % w, i / w), ⟨⟨Nat.mod_lt i hw, Nat.div_lt_of_lt_mul hi⟩, Nat.div_add_mod' i w⟩, ?_⟩
  rintro ⟨x, y⟩ ⟨⟨hx, -⟩, rfl⟩
  have hcolumn : (y * w + x) % w = x := by
    rw [Nat.mul_add_mod_self_right, Nat.mod_eq_of_lt hx]
  have hrow : (y * w + x) / w = y := by
    rw [Nat.mul_comm, Nat.mul_add_div hw, Nat.div_eq_of_lt hx, Nat.add_zero]
  exact Prod.ext hcolumn.symm hrow.symm

namespace Grid

variable {g : Grid} {x y : Nat} {c : Color}

theorem get?_of_lt (hx : x < g.width) (hy : y < g.height) :
    g.get? x y = g.pixels[y * g.width + x]? := by
  rw [get?, if_pos ⟨hx, hy⟩]

theorem get?_of_not_lt (hout : ¬ (x < g.width ∧ y < g.height)) : g.get? x y = none := by
  rw [get?, if_neg hout]

theorem Filled.address_lt (hg : g.Filled) (hx : x < g.width) (hy : y < g.height) :
    y * g.width + x < g.pixels.length := by
  rw [Filled] at hg
  rw [hg]
  exact PaletteSnap.address_lt hx hy

theorem get?_eq_none_iff (hg : g.Filled) : g.get? x y = none ↔ g.width ≤ x ∨ g.height ≤ y := by
  by_cases hin : x < g.width ∧ y < g.height
  · have hlt := hg.address_lt hin.1 hin.2
    rw [get?_of_lt hin.1 hin.2, List.getElem?_eq_none_iff]
    omega
  · refine iff_of_true (get?_of_not_lt hin) ?_
    omega

theorem getElem?_of_get? (hc : g.get? x y = some c) : g.pixels[y * g.width + x]? = some c := by
  by_cases hin : x < g.width ∧ y < g.height
  · rwa [get?_of_lt hin.1 hin.2] at hc
  · rw [get?_of_not_lt hin] at hc
    cases hc

theorem map_get?_row (hg : g.Filled) (hy : y < g.height) :
    (List.range g.width).map (fun x => g.get? x y) =
      ((g.pixels.drop (y * g.width)).take g.width).map some := by
  refine List.ext_getElem? fun x => ?_
  rw [List.getElem?_map, List.getElem?_map, List.getElem?_take, List.getElem?_drop]
  by_cases hx : x < g.width
  · have hpixel := List.getElem?_eq_getElem (hg.address_lt hx hy)
    rw [List.getElem?_range hx, if_pos hx, Option.map_some, get?_of_lt hx hy, hpixel,
      Option.map_some]
  · rw [List.getElem?_eq_none (by simpa using hx), if_neg hx, Option.map_none, Option.map_none]

theorem flatMap_rows (hg : g.Filled) {n : Nat} (hn : n ≤ g.height) :
    (List.range n).flatMap (fun y => (List.range g.width).map fun x => g.get? x y) =
      (g.pixels.take (n * g.width)).map some := by
  induction n with
  | zero => simp
  | succ n ih =>
    rw [List.range_succ, List.flatMap_append, ih (Nat.le_of_succ_le hn), List.flatMap_singleton,
      map_get?_row hg hn, ← List.map_append, Nat.succ_mul, List.take_add]

theorem bytes_at (hc : g.get? x y = some c) :
    (g.bytes.drop (3 * (y * g.width + x))).take 3 = c.channels := by
  have hpixel := getElem?_of_get? hc
  obtain ⟨hlt, -⟩ := List.getElem?_eq_some_iff.mp hpixel
  have hlength : g.bytes.length = 3 * g.pixels.length := Color.length_flatMap_channels g.pixels
  have hroom : 3 * (y * g.width + x) < g.bytes.length := by omega
  have hchannels := Color.getElem?_ofChannels (hlength ▸ Nat.mul_mod_right 3 _) hroom
  rw [bytes, Color.ofChannels_flatMap_channels, hpixel] at hchannels
  exact (Option.some.inj hchannels).symm

end Grid

theorem Legend.filled_of_recolor {m : Legend} {pixels : List Color} {w h : Nat} {g : Grid}
    (hg : m.recolor pixels w h = .ok g) :
    pixels.length = w * h ∧ g.width = w ∧ g.height = h ∧ g.Filled := by
  by_cases hlen : pixels.length = w * h
  · rw [recolor_of_length_eq hlen] at hg
    split at hg
    next => cases hg
    next hnone =>
      obtain rfl := Except.ok.inj hg
      have hmap := map_colorFor?_eq_iff.mpr ⟨hnone, rfl⟩
      have hsame : pixels.length = (pixels.filterMap m.colorFor?).length := by
        simpa using congrArg List.length hmap
      exact ⟨hlen, rfl, rfl, hsame.symm.trans hlen⟩
  · rw [recolor_of_length_ne hlen] at hg
    cases hg

namespace Grid

inductive Returned (pixels : List Color) (w h : Nat) (g : Grid) : Prop
  | snapped (s : Snapper) (hg : (s.snap pixels w h).result = .ok g)
  | recolored (m : Legend) (hg : m.recolor pixels w h = .ok g)

variable {g : Grid} {pixels : List Color} {w h : Nat}

theorem Returned.filled (hg : Returned pixels w h g) :
    pixels.length = w * h ∧ g.width = w ∧ g.height = h ∧ g.Filled := by
  cases hg with
  | snapped s hg =>
    obtain ⟨⟨hlen, -⟩, hwidth, hheight, -⟩ := Snapper.result_snap_eq_ok_iff.mp hg
    exact ⟨hlen, hwidth, hheight, Snapper.filled hg⟩
  | recolored m hg => exact Legend.filled_of_recolor hg

theorem returned_grid_is_addressed (hg : Returned pixels w h g) :
    (g.width = w ∧ g.height = h ∧ g.pixels.length = w * h) ∧
    (∀ x y, g.get? x y = none ↔ g.width ≤ x ∨ g.height ≤ y) ∧
    (pixels.length < 2 ^ 64 →
      ∀ x y, x < g.width → y < g.height → y * g.width + x < 2 ^ 64) ∧
    (∀ x y, x < g.width → y < g.height → y * g.width + x < g.pixels.length) ∧
    (∀ i < g.pixels.length, ∃! p : Nat × Nat,
      (p.1 < g.width ∧ p.2 < g.height) ∧ p.2 * g.width + p.1 = i) ∧
    (List.range g.height).flatMap (fun y => (List.range g.width).map fun x => g.get? x y) =
      g.pixels.map some ∧
    ∀ x y c, g.get? x y = some c →
      (g.bytes.drop (3 * (y * g.width + x))).take 3 = c.channels := by
  obtain ⟨hlen, rfl, rfl, hfilled⟩ := hg.filled
  have hsame : g.pixels.length = g.width * g.height := hfilled
  refine ⟨⟨rfl, rfl, hsame⟩, fun x y => get?_eq_none_iff hfilled, fun hword x y hx hy => ?_,
    fun x y hx hy => hfilled.address_lt hx hy, fun i hi => existsUnique_address (hsame ▸ hi), ?_,
    fun x y c hc => bytes_at hc⟩
  · exact Nat.lt_trans (hlen ▸ address_lt hx hy) hword
  · rw [flatMap_rows hfilled (Nat.le_refl g.height), Nat.mul_comm, ← hsame, List.take_length]

-- Four rows of five, and the last pixel of the third.
theorem returned_grid_is_addressed_strip :
    ∃ g, (({} : Snapper).snap Palette.colors 5 4).result = .ok g ∧
      g.get? 5 0 = none ∧ g.get? 0 4 = none ∧ g.get? 4 2 = some ⟨0xFF, 0x00, 0xFF⟩ ∧
      2 * g.width + 4 < 2 ^ 64 ∧
      (g.bytes.drop (3 * (2 * g.width + 4))).take 3 = [0xFF, 0x00, 0xFF] := by
  have hg : (({} : Snapper).snap Palette.colors 5 4).result = .ok ⟨5, 4, Palette.colors⟩ := rfl
  obtain ⟨-, hnone, hword, -, -, -, hbytes⟩ := returned_grid_is_addressed (.snapped _ hg)
  exact ⟨_, hg, (hnone 5 0).mpr (.inl (by decide)), (hnone 0 4).mpr (.inr (by decide)), rfl,
    hword (by decide) 4 2 (by decide) (by decide), hbytes 4 2 ⟨0xFF, 0x00, 0xFF⟩ rfl⟩

end Grid

end PaletteSnap
