import PaletteSnap.Job
import PaletteSnap.Proofs.Announcements
import PaletteSnap.Proofs.EncodedGrids
import PaletteSnap.Proofs.Files
import PaletteSnap.Proofs.FixedPoint
import PaletteSnap.Proofs.StandardImages

namespace PaletteSnap

def FileTree.Shows (images : ImageLibrary) (t : FileTree) (p : Path) (image : Raster) : Prop :=
  ∃ content, t.read p = .ok content ∧ Raster.decode content images = .ok image

theorem FileTree.Shows.unique {images : ImageLibrary} {t : FileTree} {p : Path}
    {image other : Raster} (h : t.Shows images p image) (h' : t.Shows images p other) :
    image = other := by
  obtain ⟨content, hread, hdecode⟩ := h
  obtain ⟨content', hread', hdecode'⟩ := h'
  obtain rfl : content = content' := Except.ok.inj (hread.symm.trans hread')
  exact Except.ok.inj (hdecode.symm.trans hdecode')

theorem Raster.length_pixels_of_decode {images : ImageLibrary} (hwhole : images.DecodesWhole)
    {content : Bytes} {image : Raster} (h : Raster.decode content images = .ok image) :
    image.pixels.length = image.width.toNat * image.height.toNat := by
  rw [Raster.decode] at h
  cases hdecode : images.decode content with
  | error e =>
    rw [hdecode] at h
    cases h
  | ok rgb =>
    rw [hdecode] at h
    obtain rfl : Raster.ofRgb rgb = image := Except.ok.inj h
    rw [Raster.ofRgb, Color.length_ofChannels, hwhole content rgb hdecode,
      Nat.mul_div_cancel_left _ (by decide)]

namespace ImageFile

variable {images : ImageLibrary} {t : FileTree} {p : Path} {g : Grid} {indexed : Bool}

theorem on_load_of_read_eq_error {cause : IoError} (hread : t.read p = .error cause) :
    (load p images).on t = (.error (.read p cause), t) := by
  rw [load, FileProgram.on_bind]
  simp only [FileProgram.readFile, FileProgram.on, hread]
  rfl

theorem on_load_of_read {content : Bytes} (hread : t.read p = .ok content) :
    (load p images).on t = ((Raster.decode content images).mapError .decode, t) := by
  rw [load, FileProgram.on_bind]
  simp only [FileProgram.readFile, FileProgram.on, hread]
  rfl

theorem on_load_of_shows {image : Raster} (himage : t.Shows images p image) :
    (load p images).on t = (.ok image, t) := by
  obtain ⟨content, hread, hdecode⟩ := himage
  rw [on_load_of_read hread, hdecode]
  rfl

theorem on_save_of_error {cause : EncodeError} (h : g.encode indexed images = .error cause)
    (t : FileTree) : (save p indexed g images).on t = (.error (.encode cause), t) := by
  rw [save, h]
  rfl

theorem on_save_of_encode {bytes : Bytes} (h : g.encode indexed images = .ok bytes)
    (t : FileTree) (p : Path) :
    (save p indexed g images).on t =
      match t.target p with
      | .error e => (.error (.write p e), t)
      | .ok l => (.ok (), t.fill l (.file bytes)) := by
  simp only [save, h, FileProgram.on_bind, FileProgram.writeFile, FileProgram.on, FileTree.write]
  cases t.target p <;> rfl

end ImageFile

namespace Snapper

variable {images : ImageLibrary} {s : Snapper} {image : Raster} {g : Grid}

theorem exists_encode_of_result_snap (hrefuses : images.RefusesOnlyMisfits)
    (hg : (s.snap image.pixels image.width.toNat image.height.toNat).result = .ok g)
    (indexed : Bool) : ∃ bytes, g.encode indexed images = .ok bytes := by
  obtain ⟨⟨hdim, -⟩, hwidth, hheight, -⟩ := result_snap_eq_ok_iff.mp hg
  have hlen : 0 < image.width.toNat * image.height.toNat :=
    hdim ▸ List.length_pos_of_ne_nil (pixels_ne_nil hg)
  have hcanon : indexed → g.pixels ⊆ Palette.colors := fun _ => pixels_subset_colors hg
  refine Grid.exists_encode hrefuses (filled hg) ?_ ?_ hcanon
  · rw [hwidth]
    exact ⟨Nat.ne_of_gt (Nat.pos_of_mul_pos_right hlen), image.width.toNat_lt_size⟩
  · rw [hheight]
    exact ⟨Nat.ne_of_gt (Nat.pos_of_mul_pos_left hlen), image.height.toNat_lt_size⟩

end Snapper

namespace Job

variable {images : ImageLibrary} {j : Job} {t : FileTree} {input output : Path}

theorem ofSettings_eq_ok_iff {s : Settings} : ofSettings s = .ok j ↔ j.settings = s := by
  rw [ofSettings]
  split
  next e he =>
    refine iff_of_false (by simp) ?_
    rintro rfl
    rw [Settings.fault?_eq_none_iff.mpr j.valid] at he
    cases he
  next =>
    obtain ⟨s', hs'⟩ := j
    simp [eq_comm]

def snapped (j : Job) (image : Raster) : Traced Grid :=
  j.settings.snapper.snap image.pixels image.width.toNat image.height.toNat

inductive Ends (images : ImageLibrary) (j : Job) (t : FileTree) (input output : Path) :
    JobReport × FileTree → Prop
  | unread (cause : IoError) (hread : t.read input = .error cause) :
      Ends images j t input output (⟨[], .error (.image (.read input cause))⟩, t)
  | undecoded (content : Bytes) (hread : t.read input = .ok content) (cause : DecodeError)
      (hdecode : Raster.decode content images = .error cause) :
      Ends images j t input output (⟨[], .error (.image (.decode cause))⟩, t)
  | unsnapped (image : Raster) (himage : t.Shows images input image) (events : List Event)
      (cause : SnapError) (hsnap : j.snapped image = ⟨events, .error cause⟩) :
      Ends images j t input output (⟨events, .error (.snap cause)⟩, t)
  | unencoded (image : Raster) (himage : t.Shows images input image) (events : List Event)
      (g : Grid) (hsnap : j.snapped image = ⟨events, .ok g⟩) (cause : EncodeError)
      (hencode : g.encode j.settings.indexed images = .error cause) :
      Ends images j t input output (⟨events, .error (.image (.encode cause))⟩, t)
  | unwritten (image : Raster) (himage : t.Shows images input image) (events : List Event)
      (g : Grid) (hsnap : j.snapped image = ⟨events, .ok g⟩) (cause : IoError)
      (htarget : t.target output = .error cause) :
      Ends images j t input output (⟨events, .error (.image (.write output cause))⟩, t)
  | written (image : Raster) (himage : t.Shows images input image) (events : List Event)
      (g : Grid) (hsnap : j.snapped image = ⟨events, .ok g⟩) (content : Bytes)
      (hencode : g.encode j.settings.indexed images = .ok content) (place : Location)
      (htarget : t.target output = .ok place) :
      Ends images j t input output
        (⟨events, .ok ⟨input, output, g.width, g.height, j.settings.indexed⟩⟩,
          t.fill place (.file content))

theorem ends_run (images : ImageLibrary) (j : Job) (t : FileTree) (input : Path)
    (asked : Option Path) :
    Ends images j t input (j.outputPath input asked) ((j.run input asked images).on t) := by
  rw [run, FileProgram.on_bind]
  cases hread : t.read input with
  | error cause =>
    rw [ImageFile.on_load_of_read_eq_error hread]
    exact .unread cause hread
  | ok content =>
    cases hdecode : Raster.decode content images with
    | error cause =>
      rw [ImageFile.on_load_of_read hread, hdecode]
      exact .undecoded content hread cause hdecode
    | ok image =>
      have himage : t.Shows images input image := ⟨content, hread, hdecode⟩
      rw [ImageFile.on_load_of_shows himage]
      dsimp only
      rcases hsnap : j.settings.snapper.snap image.pixels image.width.toNat image.height.toNat
        with ⟨events, cause | g⟩
      · exact .unsnapped image himage events cause hsnap
      · cases hencode : g.encode j.settings.indexed images with
        | error cause =>
          simp only [FileProgram.on_bind, ImageFile.on_save_of_error hencode]
          exact .unencoded image himage events g hsnap cause hencode
        | ok bytes =>
          simp only [FileProgram.on_bind, ImageFile.on_save_of_encode hencode]
          cases htarget : t.target (j.outputPath input asked) with
          | error cause => exact .unwritten image himage events g hsnap cause htarget
          | ok place => exact .written image himage events g hsnap bytes hencode place htarget

def strip : Bytes :=
  Text.encodeUtf8 "P6 20 1 255\n" ++ Palette.bytes

theorem run_unreachable_failures (hwhole : images.DecodesWhole)
    (hrefuses : images.RefusesOnlyMisfits) (j : Job) (t : FileTree) (input : Path)
    (asked : Option Path) :
    let result := ((j.run input asked images).on t).1.result
    (∀ width height expected actual,
      result ≠ .error (.snap (.dimensions width height expected actual))) ∧
    result ≠ .error (.snap .zeroMargin) ∧ ∀ cause, result ≠ .error (.image (.encode cause)) := by
  have hends := ends_run images j t input asked
  generalize (j.run input asked images).on t = ran at hends ⊢
  cases hends with
  | unread => simp
  | undecoded => simp
  | unsnapped image himage events cause hsnap =>
    obtain ⟨content, -, hdecode⟩ := himage
    have hresult := congrArg Traced.result hsnap
    refine ⟨?_, ?_, by simp⟩
    · rintro w h expected actual ⟨⟩
      exact Snapper.result_snap_eq_dimensions_iff.mp ⟨_, _, _, _, hresult⟩
        (Raster.length_pixels_of_decode hwhole hdecode)
    · rintro ⟨⟩
      exact Nat.ne_of_gt j.valid.margin_pos (Snapper.result_snap_eq_zeroMargin_iff.mp hresult).2
  | unencoded image himage events g hsnap cause hencode =>
    obtain ⟨bytes, hbytes⟩ := Snapper.exists_encode_of_result_snap hrefuses
      (congrArg Traced.result hsnap) j.settings.indexed
    cases hencode.symm.trans hbytes
  | unwritten => simp
  | written => simp

theorem run_unreachable_failures_strip :
    let images := ImageLibrary.standard
    let input := Path.ofText "strip.ppm"
    let j : Job := ⟨{ indexed := true }, by constructor <;> decide⟩
    let t := FileTree.empty.put [Text.encodeUtf8 "strip.ppm"] (.file strip)
    let result := ((j.run input none images).on t).1.result
    images.DecodesWhole ∧ images.RefusesOnlyMisfits ∧
      (∀ width height expected actual,
        result ≠ .error (.snap (.dimensions width height expected actual))) ∧
      result ≠ .error (.snap .zeroMargin) ∧ ∀ cause, result ≠ .error (.image (.encode cause)) := by
  have hwhole : ImageLibrary.standard.DecodesWhole := ImageLibrary.ofCodec_decodesWhole _
  have hrefuses : ImageLibrary.standard.RefusesOnlyMisfits :=
    ImageLibrary.ofCodec_refusesOnlyMisfits _
  exact ⟨hwhole, hrefuses, run_unreachable_failures hwhole hrefuses _ _ _ none⟩

end Job

end PaletteSnap
