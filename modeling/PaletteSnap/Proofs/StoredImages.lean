import Mathlib.Algebra.GroupWithZero.Nat
import PaletteSnap.Proofs.EncodedGrids
import PaletteSnap.Proofs.StandardImages

namespace PaletteSnap.Grid

variable {images : ImageLibrary} {g : Grid} {indexed : Bool} {bytes : Bytes}

theorem indices_find_colors (hcolors : g.pixels ⊆ Palette.colors) :
    (∀ i ∈ g.pixels.map Palette.indexByte, i.toNat < 20) ∧
      (g.pixels.map Palette.indexByte).map (fun i => Palette.colors[i.toNat]?) =
        g.pixels.map some := by
  constructor
  · intro i hi
    obtain ⟨c, hc, rfl⟩ := List.mem_map.mp hi
    exact Palette.indexByte_lt (hcolors hc)
  · rw [List.map_map]
    exact List.map_congr_left fun c hc => Palette.getElem?_colors_indexByte (hcolors hc)

structure KeptIn (images : ImageLibrary) (indexed : Bool) (g : Grid) (bytes : Bytes) : Prop where
  decoded : ∃ r, Raster.decode bytes images = .ok r ∧ r.width.toNat = g.width ∧
    r.height.toNat = g.height ∧ r.pixels = g.pixels
  stored : ∃ c, images.stored? bytes = some c ∧ c.width.toNat = g.width ∧
    c.height.toNat = g.height ∧
    if indexed then
      ∃ colors, c.palette = some colors ∧ colors.length = 3 * 20 ∧ (∀ i ∈ c.data, i.toNat < 20) ∧
        c.data.map (fun i => (Color.ofChannels colors)[i.toNat]?) = g.pixels.map some
    else c.palette = none ∧ c.data = g.bytes

theorem keptIn_of_encode (hkeeps : images.Keeps) (hfilled : g.Filled)
    (h : g.encode indexed images = .ok bytes) : g.KeptIn images indexed bytes := by
  obtain ⟨r, hdecode, rfl⟩ := decode_encode hkeeps hfilled h
  obtain ⟨c, hcontent, hencode⟩ := encode_eq_ok_iff.mp h
  have hshown := shownBy_of_content hcontent
  refine ⟨⟨r, hdecode, rfl, rfl, rfl⟩, c, hkeeps.stored c bytes (hshown.valid hfilled) hencode,
    hshown.width, hshown.height, ?_⟩
  have hpalette := hshown.palette
  have hdata := hshown.data
  cases indexed with
  | false => exact ⟨hpalette, hdata⟩
  | true =>
    have hfind := indices_find_colors (hshown.colors rfl)
    refine ⟨Palette.bytes, hpalette, Palette.length_bytes, ?_⟩
    rw [hdata, Palette.ofChannels_bytes]
    exact hfind

theorem encode_refuses_or_keeps (hrefuses : images.RefusesOnlyMisfits)
    (hempty : images.RefusesEmpty) (hkeeps : images.Keeps) (hfilled : g.Filled) (indexed : Bool) :
    if 2 ^ 32 - 1 < g.width then g.encode indexed images = .error (.tooWide g.width)
    else if 2 ^ 32 - 1 < g.height then g.encode indexed images = .error (.tooTall g.height)
    else if indexed = true ∧ ∃ c ∈ g.pixels, c ∉ Palette.colors then
      g.encode indexed images = .error .notCanonical
    else if g.width = 0 ∨ g.height = 0 then
      ∃ reason, g.encode indexed images = .error (.rejected reason)
    else ∃ bytes, g.encode indexed images = .ok bytes ∧ g.KeptIn images indexed bytes := by
  have hword : UInt32.size = 2 ^ 32 := rfl
  split
  next hwide => exact encode_of_content_eq_error (content_of_wide (by omega))
  split
  next hwide htall =>
    exact encode_of_content_eq_error (content_of_tall (by omega) (by omega))
  next hwide htall =>
    have hwidth : g.width < UInt32.size := by omega
    have hheight : g.height < UInt32.size := by omega
    split
    next hforeign =>
      obtain ⟨rfl, hforeign⟩ := hforeign
      exact encode_of_content_eq_error (content_of_not_canonical hwidth hheight hforeign)
    next hcanon =>
      have hcolors : indexed → g.pixels ⊆ Palette.colors := fun hindexed c hc =>
        Decidable.not_not.mp fun hnot => hcanon ⟨hindexed, c, hc, hnot⟩
      have hcontent := content_of_canonical hwidth hheight hcolors
      have hshown := shownBy_of_content hcontent
      split
      next hzero =>
        obtain ⟨reason, hreason⟩ := hempty _ (hzero.imp
          (fun h => UInt32.toNat_inj.mp (hshown.width.trans h))
          (fun h => UInt32.toNat_inj.mp (hshown.height.trans h)))
        exact ⟨reason, by rw [encode_of_content hcontent, hreason]; rfl⟩
      next hzero =>
        obtain ⟨hw, hh⟩ := not_or.mp hzero
        obtain ⟨bytes, hbytes⟩ :=
          exists_encode hrefuses hfilled ⟨hw, hwidth⟩ ⟨hh, hheight⟩ hcolors
        exact ⟨bytes, hbytes, keptIn_of_encode hkeeps hfilled hbytes⟩

-- The first grid has two faults, of which the width comes first.
theorem encode_refuses_or_keeps_flag :
    let images := ImageLibrary.ofCodec none
    encode true ⟨2 ^ 32, 0, []⟩ images = .error (.tooWide (2 ^ 32)) ∧
      encode true ⟨1, 2, [Palette.white, ⟨1, 0, 0⟩]⟩ images = .error .notCanonical ∧
      (∃ reason, encode true ⟨0, 7, []⟩ images = .error (.rejected reason)) ∧
      ∃ bytes, encode true ⟨1, 2, [Palette.white, ⟨192, 0, 0⟩]⟩ images = .ok bytes ∧
        KeptIn images true ⟨1, 2, [Palette.white, ⟨192, 0, 0⟩]⟩ bytes := by
  intro images
  have hrefuses := ImageLibrary.ofCodec_refusesOnlyMisfits none
  have hempty := ImageLibrary.ofCodec_refusesEmpty none
  have hkeeps := ImageLibrary.ofCodec_keeps
  have hwide := encode_refuses_or_keeps hrefuses hempty hkeeps (g := ⟨2 ^ 32, 0, []⟩) (by decide)
    true
  rw [if_pos (by decide)] at hwide
  have hforeign := encode_refuses_or_keeps hrefuses hempty hkeeps
    (g := ⟨1, 2, [Palette.white, ⟨1, 0, 0⟩]⟩) (by decide) true
  rw [if_neg (by decide), if_neg (by decide), if_pos (by decide)] at hforeign
  have hzero := encode_refuses_or_keeps hrefuses hempty hkeeps (g := ⟨0, 7, []⟩) (by decide) true
  rw [if_neg (by decide), if_neg (by decide), if_neg (by decide), if_pos (by decide)] at hzero
  have hkept := encode_refuses_or_keeps hrefuses hempty hkeeps
    (g := ⟨1, 2, [Palette.white, ⟨192, 0, 0⟩]⟩) (by decide) true
  rw [if_neg (by decide), if_neg (by decide), if_neg (by decide), if_neg (by decide)] at hkept
  exact ⟨hwide, hforeign, hzero, hkept⟩

end PaletteSnap.Grid
