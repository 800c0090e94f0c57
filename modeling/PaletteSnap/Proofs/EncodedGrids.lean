import PaletteSnap.Encoding
import PaletteSnap.Raster

namespace PaletteSnap

namespace Palette

variable {c : Color} {i : Nat}

theorem isSome_indexOf?_iff : (indexOf? c).isSome ↔ c ∈ colors := by
  simp [indexOf?, colors, List.findIdx?_isSome]

theorem getElem?_colors_of_indexOf? (hi : indexOf? c = some i) : colors[i]? = some c := by
  obtain ⟨hlt, hcolor, -⟩ := List.findIdx?_eq_some_iff_getElem.mp hi
  rw [colors, List.getElem?_map, List.getElem?_eq_getElem hlt]
  simpa using hcolor

def indexByte (c : Color) : UInt8 :=
  UInt8.ofNat ((indexOf? c).getD 0)

theorem getElem?_colors_indexByte (hc : c ∈ colors) : colors[(indexByte c).toNat]? = some c := by
  obtain ⟨i, hi⟩ := Option.isSome_iff_exists.mp (isSome_indexOf?_iff.mpr hc)
  have hcolor := getElem?_colors_of_indexOf? hi
  obtain ⟨hlt, -⟩ := List.getElem?_eq_some_iff.mp hcolor
  have hsize : colors.length = 20 := rfl
  have hbyte : (indexByte c).toNat = i := by
    rw [indexByte, hi, Option.getD_some, UInt8.toNat_ofNat']
    omega
  rw [hbyte, hcolor]

theorem indexByte_lt (hc : c ∈ colors) : (indexByte c).toNat < 20 := by
  obtain ⟨hlt, -⟩ := List.getElem?_eq_some_iff.mp (getElem?_colors_indexByte hc)
  exact hlt

theorem ofChannels_bytes : Color.ofChannels bytes = colors :=
  Color.ofChannels_flatMap_channels colors

theorem take_drop_bytes (hc : c ∈ colors) :
    (bytes.drop (3 * (indexByte c).toNat)).take 3 = c.channels := by
  have hlt : 3 * (indexByte c).toNat < bytes.length := by
    have := indexByte_lt hc
    rw [length_bytes, size]
    omega
  have hchannels := Color.getElem?_ofChannels (by rw [length_bytes]; rfl) hlt
  rw [ofChannels_bytes, getElem?_colors_indexByte hc] at hchannels
  exact (Option.some.inj hchannels).symm

end Palette

namespace Grid

variable {g : Grid} {indices : List Nat} {indexed : Bool} {c : PngContent} {bytes : Bytes}

theorem map_indexOf?_of_paletteIndices? (h : g.paletteIndices? = some indices) :
    g.pixels.map Palette.indexOf? = indices.map some := by
  rw [paletteIndices?] at h
  generalize g.pixels = pixels at h ⊢
  induction pixels generalizing indices with
  | nil =>
    obtain rfl : [] = indices := Option.some.inj h
    rfl
  | cons c rest ih =>
    simp only [List.mapM_cons, Option.bind_eq_bind, Option.bind_eq_some_iff] at h
    obtain ⟨i, hi, is, his, hindices⟩ := h
    obtain rfl : i :: is = indices := Option.some.inj hindices
    rw [List.map_cons, List.map_cons, hi, ih his]

theorem isSome_paletteIndices?_iff : g.paletteIndices?.isSome ↔ g.pixels ⊆ Palette.colors := by
  rw [paletteIndices?]
  induction g.pixels with
  | nil => simp
  | cons c rest ih =>
    rw [List.cons_subset, ← ih, ← Palette.isSome_indexOf?_iff]
    cases hc : Palette.indexOf? c <;> simp [List.mapM_cons, hc, Option.isSome_bind]

theorem map_ofNat_of_paletteIndices? (h : g.paletteIndices? = some indices) :
    indices.map UInt8.ofNat = g.pixels.map Palette.indexByte := by
  have hmap := congrArg (List.map fun i => UInt8.ofNat (i.getD 0))
    (map_indexOf?_of_paletteIndices? h)
  rw [List.map_map, List.map_map] at hmap
  exact hmap.symm

def storedPalette (indexed : Bool) : Option Bytes :=
  if indexed then some Palette.bytes else none

def storedData (indexed : Bool) (g : Grid) : Bytes :=
  if indexed then g.pixels.map Palette.indexByte else g.bytes

theorem content_of_wide (hwidth : UInt32.size ≤ g.width) :
    g.content indexed = .error (.tooWide g.width) :=
  if_pos hwidth

theorem content_of_tall (hwidth : g.width < UInt32.size) (hheight : UInt32.size ≤ g.height) :
    g.content indexed = .error (.tooTall g.height) := by
  rw [content, if_neg (Nat.not_le.mpr hwidth), if_pos hheight]

theorem content_of_not_canonical (hwidth : g.width < UInt32.size) (hheight : g.height < UInt32.size)
    (hforeign : ∃ c ∈ g.pixels, c ∉ Palette.colors) :
    g.content true = .error .notCanonical := by
  obtain ⟨c, hc, hnot⟩ := hforeign
  have hnone : g.paletteIndices? = none := by
    rw [← Option.not_isSome_iff_eq_none, isSome_paletteIndices?_iff]
    exact fun hcanon => hnot (hcanon hc)
  rw [content, if_neg (Nat.not_le.mpr hwidth), if_neg (Nat.not_le.mpr hheight)]
  simp [hnone]

theorem content_of_canonical (hwidth : g.width < UInt32.size) (hheight : g.height < UInt32.size)
    (hcolors : indexed → g.pixels ⊆ Palette.colors) :
    g.content indexed =
      .ok ⟨.ofNat g.width, .ofNat g.height, storedPalette indexed, g.storedData indexed⟩ := by
  rw [content, if_neg (Nat.not_le.mpr hwidth), if_neg (Nat.not_le.mpr hheight)]
  cases indexed with
  | false => rfl
  | true =>
    obtain ⟨indices, hindices⟩ :=
      Option.isSome_iff_exists.mp (isSome_paletteIndices?_iff.mpr (hcolors rfl))
    simp [hindices, storedPalette, storedData, map_ofNat_of_paletteIndices? hindices]

structure ShownBy (indexed : Bool) (g : Grid) (c : PngContent) : Prop where
  width : c.width.toNat = g.width
  height : c.height.toNat = g.height
  palette : c.palette = storedPalette indexed
  data : c.data = g.storedData indexed
  colors : indexed → g.pixels ⊆ Palette.colors

theorem shownBy_of_content (h : g.content indexed = .ok c) : g.ShownBy indexed c := by
  by_cases hwidth : UInt32.size ≤ g.width
  · rw [content_of_wide hwidth] at h
    cases h
  by_cases hheight : UInt32.size ≤ g.height
  · rw [content_of_tall (Nat.not_le.mp hwidth) hheight] at h
    cases h
  by_cases hforeign : indexed = true ∧ ∃ c ∈ g.pixels, c ∉ Palette.colors
  · obtain ⟨rfl, hforeign⟩ := hforeign
    rw [content_of_not_canonical (Nat.not_le.mp hwidth) (Nat.not_le.mp hheight) hforeign] at h
    cases h
  · have hcolors : indexed → g.pixels ⊆ Palette.colors := fun hindexed c hc =>
      Decidable.not_not.mp fun hnot => hforeign ⟨hindexed, c, hc, hnot⟩
    rw [content_of_canonical (Nat.not_le.mp hwidth) (Nat.not_le.mp hheight) hcolors] at h
    obtain rfl := Except.ok.inj h
    exact ⟨UInt32.toNat_ofNat_of_lt' (Nat.not_le.mp hwidth),
      UInt32.toNat_ofNat_of_lt' (Nat.not_le.mp hheight), rfl, rfl, hcolors⟩

namespace ShownBy

theorem fits (hc : g.ShownBy indexed c) (hfilled : g.Filled) : c.Fits := by
  rw [PngContent.Fits, PngContent.pixelBytes, hc.palette, hc.data, hc.width, hc.height, ← hfilled]
  cases indexed with
  | false => exact length_bytes g
  | true => exact (List.length_map _).trans (Nat.one_mul _).symm

theorem valid (hc : g.ShownBy indexed c) (hfilled : g.Filled) : c.Valid where
  fits := hc.fits hfilled
  palette_colors := by
    rw [hc.palette]
    cases indexed with
    | false => nofun
    | true =>
      rintro colors ⟨⟩
      decide
  index_lt := by
    rw [hc.palette, hc.data]
    cases indexed with
    | false => nofun
    | true =>
      rintro colors ⟨⟩ i hi
      obtain ⟨c, hmem, rfl⟩ := List.mem_map.mp hi
      have hlt := Palette.indexByte_lt (hc.colors rfl hmem)
      rw [Palette.length_bytes, Palette.size]
      omega

theorem expanded_eq (hc : g.ShownBy indexed c) : c.expanded = g.bytes := by
  rw [PngContent.expanded, hc.palette, hc.data]
  cases indexed with
  | false => rfl
  | true =>
    have hpixels : ∀ c ∈ g.pixels,
        (Palette.bytes.drop (3 * (Palette.indexByte c).toNat)).take 3 = c.channels :=
      fun _ hmem => Palette.take_drop_bytes (hc.colors rfl hmem)
    show (g.pixels.map Palette.indexByte).flatMap _ = g.pixels.flatMap Color.channels
    rw [List.flatMap_map, List.flatMap_def, List.map_congr_left hpixels, List.flatMap_def]

end ShownBy

variable {images : ImageLibrary}

theorem encode_of_content_eq_error {e : EncodeError} (he : g.content indexed = .error e) :
    g.encode indexed images = .error e := by
  rw [encode, he]

theorem encode_of_content (hc : g.content indexed = .ok c) :
    g.encode indexed images = (images.encode c).mapError .rejected := by
  rw [encode, hc]

theorem encode_eq_ok_iff : g.encode indexed images = .ok bytes ↔
    ∃ c, g.content indexed = .ok c ∧ images.encode c = .ok bytes := by
  cases hcontent : g.content indexed with
  | error e => simp [encode, hcontent]
  | ok c =>
    rw [encode_of_content hcontent]
    cases hencode : images.encode c with
    | error reason => exact iff_of_false nofun (by simp [hencode])
    | ok written =>
      have hwritten : Except.mapError EncodeError.rejected (.ok written) = .ok written := rfl
      simp [hwritten, hencode]

theorem exists_encode (hrefuses : images.RefusesOnlyMisfits) (hfilled : g.Filled)
    (hwidth : g.width ≠ 0 ∧ g.width < UInt32.size) (hheight : g.height ≠ 0 ∧ g.height < UInt32.size)
    (hcolors : indexed → g.pixels ⊆ Palette.colors) :
    ∃ bytes, g.encode indexed images = .ok bytes := by
  have hcontent := content_of_canonical hwidth.2 hheight.2 hcolors
  have hshown := shownBy_of_content hcontent
  cases hencode : images.encode _ with
  | ok bytes => exact ⟨bytes, encode_eq_ok_iff.mpr ⟨_, hcontent, hencode⟩⟩
  | error reason =>
    rcases hrefuses _ _ hencode with hzero | hzero | hmisfit
    · exact absurd (hshown.width.symm.trans (congrArg UInt32.toNat hzero)) hwidth.1
    · exact absurd (hshown.height.symm.trans (congrArg UInt32.toNat hzero)) hheight.1
    · exact absurd (hshown.fits hfilled) hmisfit

theorem decode_encode (hkeeps : images.Keeps) (hfilled : g.Filled)
    (h : g.encode indexed images = .ok bytes) :
    ∃ r, Raster.decode bytes images = .ok r ∧ r.toGrid = g := by
  obtain ⟨c, hcontent, hencode⟩ := encode_eq_ok_iff.mp h
  have hshown := shownBy_of_content hcontent
  rw [Raster.decode, hkeeps.decoded c bytes (hshown.valid hfilled) hencode, hshown.expanded_eq]
  refine ⟨_, rfl, ?_⟩
  simp only [Raster.toGrid, Raster.ofRgb, hshown.width, hshown.height, Grid.bytes,
    Color.ofChannels_flatMap_channels]

end Grid

end PaletteSnap
