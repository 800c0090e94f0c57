import PaletteSnap.Proofs.Components
import PaletteSnap.Proofs.Jobs
import PaletteSnap.Proofs.LossyText

namespace PaletteSnap

namespace Path

variable {name kept ext n : List UInt8} {p : Path}

theorem beforeLastDot?_eq_none (h : dot ∉ ext) : beforeLastDot? ext = none := by
  induction ext with
  | nil => rfl
  | cons b rest ih =>
    rw [List.mem_cons, not_or] at h
    rw [beforeLastDot?, ih h.2]
    exact if_neg (Ne.symm h.1)

theorem beforeLastDot?_append (h : dot ∉ ext) :
    beforeLastDot? (kept ++ dot :: ext) = some kept := by
  induction kept with
  | nil =>
    rw [List.nil_append, beforeLastDot?, beforeLastDot?_eq_none h]
    rfl
  | cons b kept ih => rw [List.cons_append, beforeLastDot?, ih]

theorem prefix_of_beforeLastDot? (h : beforeLastDot? name = some kept) : kept <+: name := by
  induction name generalizing kept with
  | nil => cases h
  | cons b rest ih =>
    rw [beforeLastDot?] at h
    split at h
    next front hfront =>
      obtain rfl := Option.some.inj h
      exact List.cons_prefix_cons.mpr ⟨rfl, ih hfront⟩
    next =>
      split at h
      next =>
        obtain rfl := Option.some.inj h
        exact List.nil_prefix
      next => cases h

theorem stem_isPrefix (name : List UInt8) : stem name <+: name := by
  rw [stem]
  split
  next => exact List.prefix_rfl
  next => exact List.prefix_rfl
  next h => exact prefix_of_beforeLastDot? h

theorem stem_ne_nil (h : name ≠ []) : stem name ≠ [] := by
  rw [stem]
  split
  next => exact h
  next => exact h
  next kept hkept _ => exact hkept

theorem stem_append_dot (hkept : kept ≠ []) (hext : dot ∉ ext) :
    stem (kept ++ dot :: ext) = kept := by
  rw [stem, beforeLastDot?_append hext]
  cases kept with
  | nil => exact absurd rfl hkept
  | cons b kept => rfl

theorem fileName?_well_formed (h : p.fileName? = some n) : n ≠ [] ∧ slash ∉ n := by
  obtain ⟨front, back, hpieces, hn, -⟩ := exists_pieces_of_fileName? h
  have hmem : n ∈ p.pieces := hpieces ▸ List.mem_append_right front List.mem_cons_self
  refine ⟨?_, not_mem_of_mem_split hmem⟩
  rintro rfl
  cases hn

end Path

namespace FileTree

open PaletteSnap.Path

variable {t : FileTree} {folder : Path} {name : List UInt8} {place l : Location}

theorem steps_push (hname : component? name = some (.name name)) (hslash : slash ∉ name) :
    steps (push folder name) = steps folder ++ [.name name] := by
  have hne : name ≠ [] := by
    rintro rfl
    cases hname
  have hhead : name.head? ≠ some slash := fun h => hslash (List.mem_of_head? h)
  have hsplit := split_of_not_mem hslash
  obtain ⟨bytes⟩ := folder
  rw [push, if_neg hhead]
  by_cases hnil : bytes = []
  · subst hnil
    simp [steps, isAbsolute, hhead, hsplit, hne, hname, split]
  by_cases hlast : bytes.getLast? = some slash
  · obtain ⟨a, rfl⟩ := List.getLast?_eq_some_iff.mp hlast
    have habsolute : (a ++ slash :: name).head? = (a ++ [slash]).head? := by cases a <;> rfl
    simp [steps, isAbsolute, habsolute, split_append_slash, hsplit, hne, hname, split]
  · have habsolute : (bytes ++ slash :: name).head? = bytes.head? := by
      cases bytes with
      | nil => exact absurd rfl hnil
      | cons b bytes => rfl
    simp [steps, isAbsolute, habsolute, split_append_slash, hsplit, hne, hname, hnil, hlast]

def Leads (t : FileTree) (p : Path) (l : Location) : Prop :=
  (steps p).foldlM t.walk t.home = .ok l

theorem eq_of_walk_name (h : t.walk place (.name name) = .ok l) : l = place ++ [name] := by
  have hfolder := get?_of_walk h
  unfold walk at h
  rw [hfolder] at h
  simp only at h
  split at h
  next => cases h
  next => exact (Except.ok.inj h).symm

theorem exists_leads_of_target_push (hname : component? name = some (.name name))
    (hslash : slash ∉ name) (h : t.target (push folder name) = .ok l) :
    ∃ m, t.Leads folder m ∧ l = m ++ [name] := by
  have hfollow := (target_eq_ok_iff.mp h).1
  have hsteps : writeSteps (push folder name) = steps folder ++ [.name name] := by
    rw [writeSteps, asksFolder_of_target h, ← steps_push hname hslash]
    rfl
  have hwalk := (follow_eq_ok_iff.mp hfollow).2
  rw [hsteps, List.foldlM_append] at hwalk
  cases hplace : (steps folder).foldlM t.walk t.home with
  | error cause =>
    rw [hplace] at hwalk
    cases hwalk
  | ok place =>
    rw [hplace] at hwalk
    have hlast : t.walk place (.name name) = .ok l := (bind_pure _).symm.trans hwalk
    exact ⟨place, hplace, eq_of_walk_name hlast⟩

end FileTree

namespace FileProgram

variable {α β : Type} {allowed wider : Path → Prop} {p : FileProgram α} {f : α → FileProgram β}

def WritesOnly (allowed : Path → Prop) : FileProgram α → Prop
  | done _ => True
  | read _ next => ∀ got, (next got).WritesOnly allowed
  | write p _ next => allowed p ∧ ∀ got, (next got).WritesOnly allowed

theorem WritesOnly.bind (hp : p.WritesOnly allowed) (hf : ∀ a, (f a).WritesOnly allowed) :
    (p >>= f).WritesOnly allowed := by
  induction p with
  | done a => exact hf a
  | read q next ih => exact fun got => ih got (hp got)
  | write q content next ih => exact ⟨hp.1, fun got => ih got (hp.2 got)⟩

theorem WritesOnly.mono (hp : p.WritesOnly allowed) (h : ∀ q, allowed q → wider q) :
    p.WritesOnly wider := by
  induction p with
  | done a => trivial
  | read q next ih => exact fun got => ih got (hp got)
  | write q content next ih => exact ⟨h q hp.1, fun got => ih got (hp.2 got)⟩

end FileProgram

namespace Settings

open PaletteSnap.Path Text

variable {s : Settings} {input : Path} {n : List UInt8}

def outputStem (input : Path) : List UInt8 :=
  encodeUtf8 (match input.fileStem? with
    | some stem => decodeLossy stem
    | none => "image")

def png : List UInt8 := [0x70, 0x6E, 0x67]

theorem outputName_eq (s : Settings) (input : Path) :
    s.outputName input = outputStem input ++ dot :: (encodeUtf8 s.suffix ++ dot :: png) := by
  have hdot : encodeUtf8 "." = [dot] := by decide
  have hpng : encodeUtf8 ".png" = dot :: png := by decide
  have htext : ∀ text : String, encodeUtf8 s!"{text}.{s.suffix}.png" =
      encodeUtf8 text ++ dot :: (encodeUtf8 s.suffix ++ dot :: png) := by
    intro text
    show encodeUtf8 (text ++ "." ++ s.suffix ++ ".png") = _
    simp only [encodeUtf8_append, hdot, hpng, List.append_assoc, List.cons_append, List.nil_append]
  exact htext _

theorem outputStem_of_fileName? (h : input.fileName? = some n) :
    outputStem input = encodeUtf8 (decodeLossy (stem n)) := by
  rw [outputStem, fileStem?, h]
  rfl

theorem outputStem_well_formed (input : Path) :
    outputStem input ≠ [] ∧ slash ∉ outputStem input := by
  cases h : input.fileName? with
  | none =>
    rw [outputStem, fileStem?, h]
    decide
  | some n =>
    obtain ⟨hn, hslash⟩ := fileName?_well_formed h
    rw [outputStem_of_fileName? h]
    constructor
    · refine List.ne_nil_of_length_pos ?_
      exact Nat.lt_of_lt_of_le (List.length_pos_of_ne_nil (stem_ne_nil hn))
        (length_le_encodeUtf8_decodeLossy (stem n))
    · intro hmem
      exact hslash ((stem_isPrefix n).mem
        (mem_of_slash_mem_decodeLossy (slash_mem_encodeUtf8_iff.mp hmem)))

-- The suffix may cut the name, but the stem is in front of all cuts.
theorem split_outputName (s : Settings) (input : Path) :
    ∃ first rest, split (s.outputName input) = first :: rest ∧ 2 ≤ first.length ∧
      (slash ∈ encodeUtf8 s.suffix →
        ∃ middle last, rest = middle ++ [last ++ dot :: png]) := by
  obtain ⟨hne, hslash⟩ := outputStem_well_formed input
  have hpng : slash ∉ dot :: png := by decide
  have hdot : slash ∉ outputStem input ++ [dot] := by
    rw [List.mem_append, not_or]
    exact ⟨hslash, by decide⟩
  obtain ⟨pieces, piece, hsuffix, hrest⟩ := exists_split_append_right (encodeUtf8 s.suffix) hpng
  obtain ⟨first, rest, hfirst, hname⟩ :=
    exists_split_append_left hdot (encodeUtf8 s.suffix ++ dot :: png)
  rw [List.append_assoc, List.singleton_append, ← outputName_eq] at hname
  refine ⟨_, rest, hname, ?_, fun hmem => ?_⟩
  · have := List.length_pos_of_ne_nil hne
    simp only [List.length_append, List.length_singleton]
    omega
  · cases pieces with
    | nil =>
      have hwhole := join_split (encodeUtf8 s.suffix)
      rw [hsuffix] at hwhole
      obtain rfl : piece = encodeUtf8 s.suffix := hwhole
      have hself : encodeUtf8 s.suffix ∈ split (encodeUtf8 s.suffix) := by simp [hsuffix]
      exact absurd hmem (not_mem_of_mem_split hself)
    | cons q qs =>
      rw [hfirst, List.cons_append] at hrest
      exact ⟨qs, piece, (List.cons.inj hrest).2⟩

theorem components_defaultOutput (s : Settings) (input : Path) :
    (s.defaultOutput input).components =
      (if input.fileName?.isSome then input.components.dropLast else input.components) ++
        parts (s.outputName input) := by
  obtain ⟨first, rest, hsplit, hfirst, -⟩ := split_outputName s input
  exact components_withFileName hsplit (not_ignorable_of_length hfirst) input

theorem component?_outputName (s : Settings) (input : Path) :
    component? (s.outputName input) = some (.name (s.outputName input)) := by
  refine component?_of_length ?_
  rw [outputName_eq]
  simp [png]
  omega

theorem slash_mem_outputName_iff :
    slash ∈ s.outputName input ↔ slash ∈ encodeUtf8 s.suffix := by
  have hpng : slash ∉ dot :: png := by decide
  have hdot : slash ≠ dot := by decide
  simp [outputName_eq, hpng, hdot, (outputStem_well_formed input).2]

theorem exists_parts_outputName (s : Settings) (input : Path) :
    ∃ folders last, parts (s.outputName input) = folders ++ [.name last] ∧
      (folders = [] ↔ slash ∉ encodeUtf8 s.suffix) ∧
      (last = s.outputName input ↔ slash ∉ encodeUtf8 s.suffix) := by
  by_cases hslash : slash ∈ encodeUtf8 s.suffix
  · obtain ⟨first, rest, hsplit, hfirst, hrest⟩ := split_outputName s input
    obtain ⟨middle, last, rfl⟩ := hrest hslash
    obtain ⟨c, hc⟩ : ∃ c, component? first = some c := by
      rw [← Option.ne_none_iff_exists', ne_eq, component?_eq_none_iff,
        not_ignorable_of_length hfirst]
      exact Bool.false_ne_true
    have hlast : component? (last ++ dot :: png) = some (.name (last ++ dot :: png)) :=
      component?_of_length (by simp [png])
    have hmem : last ++ dot :: png ∈ split (s.outputName input) := by simp [hsplit]
    refine ⟨c :: middle.filterMap component?, last ++ dot :: png, ?_,
      iff_of_false (List.cons_ne_nil _ _) (not_not_intro hslash),
      iff_of_false (fun heq => ?_) (not_not_intro hslash)⟩
    · rw [parts, hsplit, List.filterMap_cons_some hc, List.filterMap_append,
        List.filterMap_cons_some hlast]
      rfl
    · exact not_mem_of_mem_split hmem (heq ▸ slash_mem_outputName_iff.mpr hslash)
  · refine ⟨[], s.outputName input, ?_, iff_of_true rfl hslash, iff_of_true rfl hslash⟩
    rw [parts, split_of_not_mem (mt slash_mem_outputName_iff.mp hslash),
      List.filterMap_cons_some (component?_outputName s input)]
    rfl

theorem outputName_ne (h : input.fileName? = some n) : s.outputName input ≠ n := by
  intro heq
  have hname : s.outputName input =
      (outputStem input ++ dot :: encodeUtf8 s.suffix) ++ dot :: png := by
    rw [outputName_eq, List.append_assoc, List.cons_append]
  have hstem : stem n = outputStem input ++ dot :: encodeUtf8 s.suffix := by
    rw [← heq, hname]
    exact stem_append_dot (by simp) (by decide)
  have hlength := length_le_encodeUtf8_decodeLossy (stem n)
  rw [← outputStem_of_fileName? h, hstem] at hlength
  simp at hlength

theorem defaultOutput_not_same (s : Settings) (input : Path) :
    ¬ Path.Same (s.defaultOutput input) input := by
  obtain ⟨folders, last, hparts, hfolders, hlast⟩ := exists_parts_outputName s input
  intro hsame
  rw [Path.Same, components_defaultOutput, hparts] at hsame
  cases hname : input.fileName? with
  | none =>
    rw [hname, Option.isSome_none, if_neg Bool.false_ne_true] at hsame
    simp at hsame
  | some n =>
    rw [hname, Option.isSome_some, if_pos rfl] at hsame
    by_cases hnil : folders = []
    · have hend := fileName?_eq_some_iff.mp hname
      rw [← hsame, hnil, List.nil_append, List.getLast?_concat] at hend
      have hn : last = n := Path.Component.name.inj (Option.some.inj hend)
      exact outputName_ne hname ((hlast.mpr (hfolders.mp hnil)).symm.trans hn)
    · -- The output has more components than the input.
      have hlength := congrArg List.length hsame
      have hpos := List.length_pos_of_ne_nil hnil
      simp only [List.length_append, List.length_dropLast, List.length_singleton] at hlength
      omega

theorem defaultOutput_of_parts (hname : input.fileName? = some n) {folders : List Component}
    {last : List UInt8} (hparts : parts (s.outputName input) = folders ++ [.name last]) :
    (s.defaultOutput input).fileName? = some last ∧
      (s.defaultOutput input).parent.components = input.parent.components ++ folders := by
  have hcomponents : (s.defaultOutput input).components =
      input.parent.components ++ folders ++ [.name last] := by
    rw [components_defaultOutput, hname, Option.isSome_some, if_pos rfl, hparts,
      components_parent hname, List.append_assoc]
  have hlast : (s.defaultOutput input).fileName? = some last := by
    rw [fileName?_eq_some_iff, hcomponents, List.getLast?_concat]
  exact ⟨hlast, by rw [components_parent hlast, hcomponents, List.dropLast_concat]⟩

theorem defaultOutput_eq_push (hname : input.fileName? = some n) :
    s.defaultOutput input = push input.parent (s.outputName input) := by
  rw [defaultOutput, withFileName, hname, Option.isSome_some, if_pos rfl]

theorem outputName_of_fileName? (h : input.fileName? = some n) :
    s.outputName input = encodeUtf8 s!"{decodeLossy (stem n)}.{s.suffix}.png" := by
  rw [outputName, fileStem?, h]
  rfl

end Settings

namespace ImageFile

variable {images : ImageLibrary} {p : Path} {indexed : Bool} {g : Grid}

theorem writesOnly_load (allowed : Path → Prop) : (load p images).WritesOnly allowed := by
  refine .bind (fun _ => trivial) fun got => ?_
  cases got <;> trivial

theorem writesOnly_save : (save p indexed g images).WritesOnly (· = p) := by
  rw [save]
  split
  next => trivial
  next => exact .bind ⟨rfl, fun _ => trivial⟩ fun _ => trivial

end ImageFile

namespace Job

open PaletteSnap.Path Text

variable {images : ImageLibrary} {j : Job} {t : FileTree} {input : Path} {name : List UInt8}
  {l : Location}

theorem writesOnly_run (images : ImageLibrary) (j : Job) (input : Path) (asked : Option Path) :
    (j.run input asked images).WritesOnly (· = j.outputPath input asked) := by
  refine .bind (ImageFile.writesOnly_load _) fun loaded => ?_
  split
  next => trivial
  next =>
    extract_lets snapped
    split
    next => trivial
    next =>
      refine .bind ImageFile.writesOnly_save fun saved => ?_
      split <;> trivial

-- The paths differ as paths; with `..` in its suffix, an output may still lead to the file.
theorem default_output_ne_input (j : Job) (input : Path) :
    ¬ Path.Same (j.settings.defaultOutput input) input ∧
      ∀ images, (j.run input none images).WritesOnly fun target => ¬ Path.Same target input := by
  have hne := Settings.defaultOutput_not_same j.settings input
  refine ⟨hne, fun images => (writesOnly_run images j input none).mono ?_⟩
  rintro target rfl
  exact hne

theorem target_of_changed {asked : Option Path}
    (h : ((j.run input asked images).on t).2.get? l ≠ t.get? l) :
    t.target (j.outputPath input asked) = .ok l := by
  have hends := ends_run images j t input asked
  generalize (j.run input asked images).on t = ran at hends h
  cases hends with
  | unread => exact absurd rfl h
  | undecoded => exact absurd rfl h
  | unsnapped => exact absurd rfl h
  | unencoded => exact absurd rfl h
  | unwritten => exact absurd rfl h
  | written image himage events g hsnap content hencode place htarget =>
    have hplace := (FileTree.target_eq_ok_iff.mp htarget).2
    by_cases hl : l = place
    · rwa [hl]
    · exact absurd (FileTree.get?_fill_of_ne hplace hl) h

theorem default_output_beside_input_iff (j : Job) (hname : input.fileName? = some name) :
    let output := j.settings.defaultOutput input
    let expected := encodeUtf8 s!"{decodeLossy (stem name)}.{j.settings.suffix}.png"
    output.components = input.parent.components ++ parts expected ∧
    (Path.Same output.parent input.parent ↔ '/' ∉ j.settings.suffix.toList) ∧
    (output.fileName? = some expected ↔ '/' ∉ j.settings.suffix.toList) ∧
    ('/' ∉ j.settings.suffix.toList → ∀ images,
      ((j.run input none images).WritesOnly fun target =>
        Path.Same target.parent input.parent ∧ target.fileName? = some expected) ∧
      ∀ t l, ((j.run input none images).on t).2.get? l ≠ t.get? l →
        ∃ folder, t.Leads input.parent folder ∧ l = folder ++ [expected]) := by
  intro output expected
  have hexpected : j.settings.outputName input = expected := Settings.outputName_of_fileName? hname
  have hcomponents : output.components = input.parent.components ++ parts expected := by
    rw [Settings.components_defaultOutput, hname, Option.isSome_some, if_pos rfl, hexpected,
      components_parent hname]
  obtain ⟨folders, last, hparts, hfolders, hlast⟩ :=
    Settings.exists_parts_outputName j.settings input
  obtain ⟨hfile, hparent⟩ := Settings.defaultOutput_of_parts hname hparts
  have hsame : Path.Same output.parent input.parent ↔ '/' ∉ j.settings.suffix.toList := by
    rw [← slash_mem_encodeUtf8_iff, Path.Same, hparent, List.append_right_eq_self]
    exact hfolders
  have hnamed : output.fileName? = some expected ↔ '/' ∉ j.settings.suffix.toList := by
    rw [← slash_mem_encodeUtf8_iff, hfile, Option.some.injEq, ← hexpected]
    exact hlast
  refine ⟨hcomponents, hsame, hnamed, fun hslash images => ⟨?_, fun t l hchanged => ?_⟩⟩
  · refine (writesOnly_run images j input none).mono ?_
    rintro target rfl
    exact ⟨hsame.mpr hslash, hnamed.mpr hslash⟩
  · have htarget := target_of_changed hchanged
    rw [outputPath, Option.getD_none, Settings.defaultOutput_eq_push hname] at htarget
    rw [← slash_mem_encodeUtf8_iff] at hslash
    rw [← hexpected]
    exact FileTree.exists_leads_of_target_push (Settings.component?_outputName j.settings input)
      (mt Settings.slash_mem_outputName_iff.mp hslash) htarget

-- The canonical colors in one row, in a folder below the working directory.
theorem default_output_beside_input_iff_strip :
    let j : Job := ⟨{}, by constructor <;> decide⟩
    let input := Path.ofText "/home/dir/strip.ppm"
    let name := encodeUtf8 "strip.ppm"
    let expected := encodeUtf8 "strip.remapped.png"
    let dir := encodeUtf8 "dir"
    let t := (FileTree.empty.put [dir] .folder).put [dir, name] (.file strip)
    let l := t.home ++ [dir, expected]
    input.fileName? = some name ∧
      Path.Same (j.settings.defaultOutput input).parent input.parent ∧
      (j.settings.defaultOutput input).fileName? = some expected ∧
      ((j.run input none).WritesOnly fun target =>
        Path.Same target.parent input.parent ∧ target.fileName? = some expected) ∧
      ((j.run input none).on t).2.get? l ≠ t.get? l ∧
      ∃ folder, t.Leads input.parent folder ∧ l = folder ++ [expected] := by
  intro j input name expected dir t l
  have hname : input.fileName? = some name := by decide
  have hslash : '/' ∉ j.settings.suffix.toList := by decide
  have hexpected : encodeUtf8 s!"{decodeLossy (stem name)}.{j.settings.suffix}.png" = expected := by
    decide +kernel
  have hchanged : ((j.run input none).on t).2.get? l ≠ t.get? l := by
    decide +kernel
  obtain ⟨-, hparent, hfile, hwrites⟩ := default_output_beside_input_iff j hname
  rw [hexpected] at hfile hwrites
  obtain ⟨honly, hplaces⟩ := hwrites hslash .standard
  exact ⟨hname, hparent.mpr hslash, hfile.mpr hslash, honly, hchanged, hplaces t l hchanged⟩

theorem default_output_elsewhere_slashSuffix :
    let j : Job := ⟨{ suffix := "a/b" }, by constructor <;> decide⟩
    let input := Path.ofText "dir/prog.png"
    let output := j.settings.defaultOutput input
    output = Path.ofText "dir/prog.a/b.png" ∧
      input.fileName? = some (encodeUtf8 "prog.png") ∧
      ¬ Path.Same output.parent input.parent ∧
      output.fileName? ≠ some (encodeUtf8 "prog.a/b.png") := by
  decide +kernel

-- Such a suffix leads back to the file that is read.
example :
    let s : Settings := { suffix := "/../prog" }
    let t := (FileTree.empty.put [encodeUtf8 "prog."] .folder).put [encodeUtf8 "prog.png"]
      (.file [])
    t.target (s.defaultOutput (Path.ofText "prog.png")) =
      .ok (t.home ++ [encodeUtf8 "prog.png"]) := by
  decide +kernel

end Job

end PaletteSnap
