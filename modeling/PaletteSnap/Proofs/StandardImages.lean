import Mathlib.Tactic.ByContra
import PaletteSnap.Codec
import PaletteSnap.Proofs.PngFiles

namespace PaletteSnap

namespace Samples

variable {α β : Type} {f : α → List β} {n size : Nat} {items : List α}

theorem length_grouped (size n : Nat) (items : List α) : (grouped size n items).length = n := by
  induction n generalizing items with
  | zero => rfl
  | succ n ih => rw [grouped, List.length_cons, ih]

theorem length_of_mem_grouped (hlen : items.length = n * size) {group : List α}
    (hgroup : group ∈ grouped size n items) : group.length = size := by
  induction n generalizing items with
  | zero => cases hgroup
  | succ n ih =>
    rw [Nat.succ_mul] at hlen
    rcases List.mem_cons.mp hgroup with rfl | hgroup
    · rw [List.length_take]
      omega
    · exact ih (by rw [List.length_drop]; omega) hgroup

theorem length_flatMap_of_const (hf : ∀ x, (f x).length = size) (items : List α) :
    (items.flatMap f).length = items.length * size := by
  induction items with
  | nil => simp
  | cons x rest ih =>
    rw [List.flatMap_cons, List.length_append, ih, hf, List.length_cons, Nat.succ_mul, Nat.add_comm]

theorem grouped_flatMap (hf : ∀ x, (f x).length = size) (items : List α) :
    grouped size items.length (items.flatMap f) = items.map f := by
  induction items with
  | nil => rfl
  | cons x rest ih =>
    rw [List.flatMap_cons, List.length_cons, grouped, List.take_left' (hf x),
      List.drop_left' (hf x), ih, List.map_cons]

theorem take_flatMap_of_const (hf : ∀ x, (f x).length = size) (n : Nat) (items : List α) :
    (items.flatMap f).take (size * n) = (items.take n).flatMap f := by
  induction items generalizing n with
  | nil => simp
  | cons x rest ih =>
    cases n with
    | zero => simp
    | succ n =>
      have hsplit : size * (n + 1) = (f x).length + size * n := by
        rw [hf, Nat.mul_succ, Nat.add_comm]
      rw [List.flatMap_cons, hsplit, List.take_length_add_append, ih, List.take_succ_cons,
        List.flatMap_cons]

theorem drop_flatMap_of_const (hf : ∀ x, (f x).length = size) (n : Nat) (items : List α) :
    (items.flatMap f).drop (size * n) = (items.drop n).flatMap f := by
  induction items generalizing n with
  | nil => simp
  | cons x rest ih =>
    cases n with
    | zero => simp
    | succ n =>
      have hsplit : size * (n + 1) = (f x).length + size * n := by
        rw [hf, Nat.mul_succ, Nat.add_comm]
      rw [List.flatMap_cons, hsplit, List.drop_length_add_append, ih, List.drop_succ_cons]

theorem grouped_mul_flatMap (hf : ∀ x, (f x).length = size) (width height : Nat) (items : List α) :
    grouped (size * width) height (items.flatMap f) =
      (grouped width height items).map (·.flatMap f) := by
  induction height generalizing items with
  | zero => rfl
  | succ height ih =>
    rw [grouped, grouped, List.map_cons, take_flatMap_of_const hf, drop_flatMap_of_const hf, ih]

theorem unpack_eight (bytes : Bytes) : unpack 8 bytes = bytes.map UInt8.toNat := by
  have hsplit (b : UInt8) : split 8 b = [b.toNat] := by
    have := b.toNat_lt
    simp [split]
  fun_induction unpack 8 bytes <;> simp_all

end Samples

namespace Png

variable {α : Type} {p : Png} {items : List α} {code : α → Bytes} {shown : α → Color}

structure Shows (p : Png) (items : List α) (code : α → Bytes) (shown : α → Color) : Prop where
  depth : p.header.depth = 8
  plain : p.header.interlaced = false
  length_code : ∀ x, (code x).length = p.header.layout.samples
  length_items : items.length = p.header.width * p.header.height
  rows : p.rows = Samples.grouped (p.header.layout.samples * p.header.width) p.header.height
    (items.flatMap code)
  palette : p.header.layout = .indexed → p.palette.isSome
  color_code : ∀ x ∈ items,
    color p.header (Color.ofChannels (p.palette.getD [])).toArray ((code x).map UInt8.toNat) =
      shown x

namespace Shows

theorem length_flatMap_code (hp : p.Shows items code shown) :
    (items.flatMap code).length =
      p.header.height * (p.header.layout.samples * p.header.width) := by
  rw [Samples.length_flatMap_of_const hp.length_code, hp.length_items, Nat.mul_comm p.header.width,
    Nat.mul_assoc, Nat.mul_comm p.header.width]

theorem length_rows (hp : p.Shows items code shown) : p.rows.length = p.header.height := by
  rw [hp.rows, Samples.length_grouped]

theorem length_row (hp : p.Shows items code shown) {row : Bytes} (hrow : row ∈ p.rows) :
    row.length = p.header.rowBytes p.header.width := by
  have hbytes : p.header.rowBytes p.header.width =
      (p.header.layout.samples * p.header.width * 8 + 7) / 8 := by
    rw [Header.rowBytes, Header.pixelBits, hp.depth, ← Nat.mul_assoc,
      Nat.mul_comm p.header.width]
  rw [hp.rows] at hrow
  rw [Samples.length_of_mem_grouped hp.length_flatMap_code hrow, hbytes]
  omega

theorem data_eq (hp : p.Shows items code shown) : p.data = items.flatMap code := by
  rw [data, hp.rows, Samples.flatten_grouped _ _ hp.length_flatMap_code]

theorem rowColors_flatMap (hp : p.Shows items code shown) {row : List α} (hrow : row ⊆ items)
    (hlen : row.length = p.header.width) :
    rowColors p.header (Color.ofChannels (p.palette.getD [])).toArray (row.flatMap code) =
      row.map shown := by
  have hcode (x : α) : ((code x).map UInt8.toNat).length = p.header.layout.samples := by
    rw [List.length_map, hp.length_code]
  rw [rowColors, hp.depth, Samples.unpack_eight, List.map_flatMap, ← hlen,
    Samples.grouped_flatMap hcode, List.map_map]
  exact List.map_inj_left.mpr fun x hx => hp.color_code x (hrow hx)

theorem flatMap_rowColors (hp : p.Shows items code shown) :
    p.rows.flatMap (rowColors p.header (Color.ofChannels (p.palette.getD [])).toArray) =
      items.map shown := by
  have hlen : items.length = p.header.height * p.header.width :=
    hp.length_items.trans (Nat.mul_comm _ _)
  have hrow : ∀ row ∈ Samples.grouped p.header.width p.header.height items,
      rowColors p.header (Color.ofChannels (p.palette.getD [])).toArray (row.flatMap code) =
        row.map shown := by
    intro row hrow
    have hsub : row ⊆ items := by
      rw [← Samples.flatten_grouped p.header.width p.header.height hlen]
      exact fun x hx => List.mem_flatten_of_mem hrow hx
    exact hp.rowColors_flatMap hsub (Samples.length_of_mem_grouped hlen hrow)
  rw [hp.rows, Samples.grouped_mul_flatMap hp.length_code, List.flatMap_map, List.flatMap_def,
    List.map_congr_left hrow, ← List.map_flatten, Samples.flatten_grouped _ _ hlen]

theorem exists_pixmap (hp : p.Shows items code shown) (hwidth : p.header.width < UInt32.size)
    (hheight : p.header.height < UInt32.size) :
    ∃ m, p.toPixmap? = some m ∧ m.width.toNat = p.header.width ∧
      m.height.toNat = p.header.height ∧ m.pixels = items.map shown := by
  have hpalette : ¬(p.header.layout = .indexed ∧ p.palette.isNone) := by
    rintro ⟨hindexed, hnone⟩
    have hsome := hp.palette hindexed
    simp_all
  have hfits : p.header.width < UInt32.size ∧ p.header.height < UInt32.size ∧
      (items.map shown).length = p.header.width * p.header.height :=
    ⟨hwidth, hheight, (List.length_map shown).trans hp.length_items⟩
  rw [toPixmap?, if_neg hpalette]
  simp only [hp.flatMap_rowColors, Pixmap.ofPixels?, dif_pos hfits]
  exact ⟨_, rfl, by simp, by simp, rfl⟩

end Shows

variable {c : PngContent}

def paletteColor (colors : Bytes) (i : UInt8) : Color :=
  (Color.ofChannels colors).toArray[i.toNat]?.getD Palette.black

theorem channels_paletteColor {colors : Bytes} {i : UInt8} (hthree : colors.length % 3 = 0)
    (hi : 3 * i.toNat < colors.length) :
    (paletteColor colors i).channels = (colors.drop (3 * i.toNat)).take 3 := by
  obtain ⟨c, hc, hchannels⟩ := Option.map_eq_some_iff.mp (Color.getElem?_ofChannels hthree hi)
  rw [paletteColor, List.getElem?_toArray, hc, Option.getD_some, hchannels]

theorem length_data_plain (hc : c.Valid) (hpalette : c.palette = none) :
    c.data.length = 3 * (c.width.toNat * c.height.toNat) := by
  simpa [PngContent.Fits, PngContent.pixelBytes, hpalette] using hc.fits

theorem channels_data_plain (hc : c.Valid) (hpalette : c.palette = none) :
    (Color.ofChannels c.data).flatMap Color.channels = c.data := by
  have hlen := length_data_plain hc hpalette
  exact Color.flatMap_channels_ofChannels (by omega)

theorem shows_ofContent_plain (hc : c.Valid) (hpalette : c.palette = none) :
    (ofContent c).Shows (Color.ofChannels c.data) Color.channels id where
  depth := rfl
  plain := rfl
  length_code _ := by simp [ofContent, hpalette, Layout.samples, Color.channels]
  length_items := by
    rw [Color.length_ofChannels, length_data_plain hc hpalette,
      Nat.mul_div_cancel_left _ (by decide)]
    rfl
  rows := by
    rw [channels_data_plain hc hpalette]
    simp [ofContent, hpalette, PngContent.pixelBytes, Layout.samples]
  palette := by simp [ofContent, hpalette]
  color_code _ _ := by simp [ofContent, hpalette, color, Color.channels, scale]

theorem shows_ofContent_indexed (hc : c.Valid) {colors : Bytes}
    (hpalette : c.palette = some colors) :
    (ofContent c).Shows c.data ([·]) (paletteColor colors) := by
  have hfits : c.data.length = c.width.toNat * c.height.toNat := by
    simpa [PngContent.Fits, PngContent.pixelBytes, hpalette] using hc.fits
  exact
    { depth := rfl
      plain := rfl
      length_code := fun _ => by simp [ofContent, hpalette, Layout.samples]
      length_items := hfits
      rows := by simp [ofContent, hpalette, PngContent.pixelBytes, Layout.samples]
      palette := by simp [ofContent, hpalette]
      color_code := fun _ _ => by simp [ofContent, hpalette, color, paletteColor] }

theorem exists_shows_ofContent (hc : c.Valid) :
    ∃ (α : Type) (items : List α) (code : α → Bytes) (shown : α → Color),
      (ofContent c).Shows items code shown ∧ items.flatMap code = c.data ∧
        (items.map shown).flatMap Color.channels = c.expanded := by
  cases hpalette : c.palette with
  | none =>
    have hdata := channels_data_plain hc hpalette
    refine ⟨_, _, _, _, shows_ofContent_plain hc hpalette, hdata, ?_⟩
    rw [List.map_id, hdata, PngContent.expanded, hpalette]
  | some colors =>
    refine ⟨_, _, _, _, shows_ofContent_indexed hc hpalette, List.flatMap_singleton' _, ?_⟩
    obtain ⟨-, hthree, -⟩ := hc.palette_colors colors hpalette
    have hcolor : ∀ i ∈ c.data,
        (paletteColor colors i).channels = (colors.drop (3 * i.toNat)).take 3 := fun i hi =>
      channels_paletteColor hthree (hc.index_lt colors hpalette i hi)
    rw [List.flatMap_map, PngContent.expanded, hpalette]
    simp only [List.flatMap_def, List.map_congr_left hcolor]

theorem writable_ofContent (hc : c.Valid) (hwidth : c.width ≠ 0) (hheight : c.height ≠ 0) :
    (ofContent c).Writable := by
  obtain ⟨α, items, code, shown, hshows, -⟩ := exists_shows_ofContent hc
  have hside {side : UInt32} (h : side ≠ 0) : 0 < side.toNat :=
    Nat.pos_of_ne_zero fun hzero => h (UInt32.toNat_inj.mp hzero)
  exact
    { header :=
        { width_pos := hside hwidth
          width_lt := c.width.toNat_lt_size
          height_pos := hside hheight
          height_lt := c.height.toNat_lt_size
          depth_mem := by
            simp only [ofContent]
            split <;> decide
          plain := rfl }
      palette := fun colors hcolors => by
        obtain ⟨hne, hthree, hlen⟩ := hc.palette_colors colors hcolors
        simp [Draft.isPalette, hne, hthree, hlen]
      length_rows := hshows.length_rows
      length_row := fun _ => hshows.length_row }

theorem content?_ofContent (hc : c.Valid) : (ofContent c).content? = some c := by
  obtain ⟨α, items, code, shown, hshows, hdata, -⟩ := exists_shows_ofContent hc
  rw [content?, if_pos ⟨rfl, rfl⟩, hshows.data_eq, hdata]
  simp [ofContent]

theorem encode_eq_ok_iff {bytes : Bytes} : encode c = .ok bytes ↔
    c.width ≠ 0 ∧ c.height ≠ 0 ∧ c.Fits ∧ (ofContent c).toBytes = bytes := by
  rw [encode]
  split
  next h => simp [h]
  next h =>
    split
    next h' => simp [h']
    next h' => by_cases hfits : c.Fits <;> simp [h, h', hfits]

end Png

namespace ImageLibrary

variable (limit : Option Nat)

theorem ofCodec_decodesWhole : (ofCodec limit).DecodesWhole := by
  intro bytes image h
  simp only [ofCodec] at h
  cases hdecode : Pixmap.decode limit bytes with
  | error e =>
    rw [hdecode] at h
    cases h
  | ok m =>
    rw [hdecode] at h
    obtain rfl : m.toRgb = image := Except.ok.inj h
    exact m.length_samples_toRgb

theorem ofCodec_refusesOnlyMisfits : (ofCodec limit).RefusesOnlyMisfits := by
  intro c reason h
  by_contra hfits
  simp only [not_or, not_not] at hfits
  have hok := Png.encode_eq_ok_iff.mpr ⟨hfits.1, hfits.2.1, hfits.2.2, rfl⟩
  cases h.symm.trans hok

theorem ofCodec_refusesEmpty : (ofCodec limit).RefusesEmpty := by
  intro c h
  cases hencode : (ofCodec limit).encode c with
  | error reason => exact ⟨reason, rfl⟩
  | ok bytes =>
    obtain ⟨hwidth, hheight, -⟩ := Png.encode_eq_ok_iff.mp hencode
    exact absurd h (not_or.mpr ⟨hwidth, hheight⟩)

theorem ofCodec_keeps : (ofCodec none).Keeps where
  stored c bytes hc h := by
    obtain ⟨hwidth, hheight, -, rfl⟩ := Png.encode_eq_ok_iff.mp h
    simp only [ofCodec, Png.inspect_toBytes (Png.writable_ofContent hc hwidth hheight)]
    exact Png.content?_ofContent hc
  decoded c bytes hc h := by
    obtain ⟨hwidth, hheight, -, rfl⟩ := Png.encode_eq_ok_iff.mp h
    have hwritable := Png.writable_ofContent hc hwidth hheight
    obtain ⟨α, items, code, shown, hshows, -, hexpanded⟩ := Png.exists_shows_ofContent hc
    obtain ⟨m, hm, hmwidth, hmheight, hpixels⟩ :=
      hshows.exists_pixmap c.width.toNat_lt_size c.height.toNat_lt_size
    have hformat : Format.ofBytes? (Png.ofContent c).toBytes = some .png := by
      rw [Png.toBytes_eq hwritable]
      unfold Format.ofBytes?
      rw [if_pos (List.isPrefixOf_iff_prefix.mpr (List.prefix_append _ _))]
    have hdecode : Pixmap.decode none (Png.ofContent c).toBytes = .ok m := by
      rw [Pixmap.decode, hformat]
      simp [Format.decode, Format.decode.orMalformed, Png.decode?_toBytes hwritable, hm]
    have hrgb : m.toRgb = ⟨c.width, c.height, c.expanded⟩ := by
      rw [Pixmap.toRgb, hpixels, hexpanded, UInt32.toNat_inj.mp hmwidth,
        UInt32.toNat_inj.mp hmheight]
    rw [← hrgb]
    exact congrArg (·.map Pixmap.toRgb) hdecode

end ImageLibrary

end PaletteSnap
