import PaletteSnap.Proofs.Recoloring

namespace PaletteSnap

namespace Snapper

def upToLegend (dumps : List Event) : List Event :=
  [.started .enumerating, .colorsFound 20, .done .enumerating, .started .hueSorting,
    .done .hueSorting, .started .lightnessSorting, .done .lightnessSorting,
    .started .associating] ++ dumps ++ [.done .associating]

inductive Transcript (failing : List Family) (dumps : List Event) :
    Except SnapError Grid → List Event → Prop
  | dimensions (width height expected actual : Nat) :
      Transcript failing dumps (.error (.dimensions width height expected actual)) []
  | zeroMargin : Transcript failing dumps (.error .zeroMargin) []
  | colorCount (found : Nat) (hint : Hint) :
      Transcript failing dumps (.error (.colorCount found 20 hint))
        [.started .enumerating, .countMismatch found 20 hint]
  | hueSorting (mismatches : List Mismatch) :
      Transcript failing dumps (.error (.hueSorting mismatches))
        ([.started .enumerating, .colorsFound 20, .done .enumerating, .started .hueSorting] ++
          mismatches.map .hueMismatch ++ [.hueDump failing])
  | unmatchedPixel (index : Nat) :
      Transcript failing dumps (.error (.unmatchedPixel index))
        (upToLegend dumps ++ [.started .remapping])
  | snapped (g : Grid) :
      Transcript failing dumps (.ok g)
        (upToLegend dumps ++ [.started .remapping, .done .remapping])

def withDump (families : List Family) (events : List Event) : List Event :=
  events.flatMap fun e => if e = .started .associating then [e, .hueDump families] else [e]

section

variable {failing families : List Family} {dumps : List Event} {result : Except SnapError Grid}
  {events events' : List Event}

theorem Transcript.unique (h : Transcript failing dumps result events)
    (h' : Transcript failing dumps result events') : events = events' := by
  cases h <;> cases h' <;> rfl

theorem withDump_eq_self (h : .started .associating ∉ events) :
    withDump families events = events := by
  induction events with
  | nil => rfl
  | cons e rest ih =>
    rw [List.mem_cons, not_or] at h
    simp only [withDump] at ih
    simp [withDump, Ne.symm h.1, ih h.2]

theorem withDump_upToLegend (h : .started .associating ∉ events) :
    withDump families (upToLegend [] ++ events) = upToLegend [.hueDump families] ++ events := by
  have hrest : withDump families events = events := withDump_eq_self h
  simp only [withDump] at hrest
  simp [withDump, upToLegend, hrest]

theorem Transcript.withDump (h : Transcript failing [] result events) :
    Transcript failing [.hueDump families] result (withDump families events) := by
  cases h with
  | dimensions => exact .dimensions _ _ _ _
  | zeroMargin => exact .zeroMargin
  | colorCount =>
    rw [withDump_eq_self (by simp)]
    exact .colorCount _ _
  | hueSorting =>
    rw [withDump_eq_self (by simp)]
    exact .hueSorting _
  | unmatchedPixel =>
    rw [withDump_upToLegend (by simp)]
    exact .unmatchedPixel _
  | snapped =>
    rw [withDump_upToLegend (by simp)]
    exact .snapped _

end

section

variable {s : Snapper} {pixels : List Color} {w h : Nat}

def dumps (s : Snapper) (m : Legend) : List Event :=
  if s.verbose then [.hueDump m.families] else []

theorem analyze_of_margin_eq_zero (hmargin : s.margin = 0) :
    s.analyze pixels = ⟨[], .error .zeroMargin⟩ := by
  rw [analyze, if_pos hmargin]

theorem analyze_of_size_ne (hmargin : s.margin ≠ 0) {found : Nat}
    (hfound : (Discovery.ofSamples s.tolerance pixels).size = found) (hne : found ≠ Palette.size) :
    s.analyze pixels =
      ⟨[.started .enumerating, .countMismatch found 20 (Hint.forCount found 20)],
        .error (.colorCount found 20 (Hint.forCount found 20))⟩ := by
  subst hfound
  rw [analyze, if_neg hmargin]
  dsimp only
  rw [if_neg hne]
  rfl

theorem analyze_of_size_eq (hmargin : s.margin ≠ 0) {d : Discovery}
    (hd : .ofSamples s.tolerance pixels = d) (hsize : d.size = Palette.size) :
    s.analyze pixels =
      ⟨[.started .enumerating, .colorsFound 20, .done .enumerating] ++ (s.sortHues d).events,
        (s.sortHues d).result⟩ := by
  subst hd
  rw [analyze, if_neg hmargin]
  dsimp only
  rw [if_pos hsize, hsize]
  rfl

theorem sortHues_of_mismatches_ne_nil {d marked : Discovery} {b : Buckets}
    (hclassify : Buckets.classify s.margin d = (marked, b)) (hne : b.mismatches ≠ []) :
    s.sortHues d =
      ⟨.started .hueSorting :: b.mismatches.map .hueMismatch ++ [.hueDump (b.families marked)],
        .error (.hueSorting b.mismatches)⟩ := by
  simp only [sortHues, hclassify]

theorem sortHues_of_familiesFit {d : Discovery} (hfit : d.FamiliesFit s.margin) :
    s.sortHues d =
      ⟨[.started .hueSorting, .done .hueSorting, .started .lightnessSorting,
          .done .lightnessSorting, .started .associating] ++ s.dumps (s.legend d) ++
          [.done .associating],
        .ok (s.legend d)⟩ := by
  simp only [sortHues, Discovery.mismatches_classify_eq_nil_iff.mpr hfit]
  rfl

theorem snap_of_length_ne (hdim : pixels.length ≠ w * h) :
    s.snap pixels w h =
      ⟨[], .error (.dimensions w h (min (w * h) maxCount) pixels.length)⟩ := by
  simp only [snap, checkDimensions, if_neg hdim]

theorem snap_of_analyze_eq_error (hdim : pixels.length = w * h) {events : List Event}
    {e : SnapError} (he : s.analyze pixels = ⟨events, .error e⟩) :
    s.snap pixels w h = ⟨events, .error e⟩ := by
  simp only [snap, checkDimensions_eq_ok_iff.mpr hdim, he]

theorem snap_of_analyze_eq_ok (hdim : pixels.length = w * h) {events : List Event} {m : Legend}
    (hm : s.analyze pixels = ⟨events, .ok m⟩) :
    s.snap pixels w h =
      match m.firstMiss? pixels with
      | some i => ⟨events ++ [.started .remapping], .error (.unmatchedPixel i)⟩
      | none => ⟨events ++ [.started .remapping, .done .remapping],
          .ok ⟨w, h, pixels.filterMap m.colorFor?⟩⟩ := by
  simp only [snap, checkDimensions_eq_ok_iff.mpr hdim, hm, Legend.recolor, Legend.recolorFrom_eq]
  cases m.firstMiss? pixels <;> simp

def sortedFamilies (s : Snapper) (d : Discovery) : List Family :=
  let (marked, b) := Buckets.classify s.margin d
  b.families marked

inductive Ends (s : Snapper) (pixels : List Color) (w h : Nat) : Traced Grid → Prop
  | dimensions (hdim : pixels.length ≠ w * h) :
      Ends s pixels w h ⟨[], .error (.dimensions w h (min (w * h) maxCount) pixels.length)⟩
  | zeroMargin (hdim : pixels.length = w * h) (hmargin : s.margin = 0) :
      Ends s pixels w h ⟨[], .error .zeroMargin⟩
  | colorCount (hdim : pixels.length = w * h) (hmargin : s.margin ≠ 0) (found : Nat)
      (hfound : (Discovery.ofSamples s.tolerance pixels).size = found)
      (hne : found ≠ Palette.size) :
      Ends s pixels w h
        ⟨[.started .enumerating, .countMismatch found 20 (Hint.forCount found 20)],
          .error (.colorCount found 20 (Hint.forCount found 20))⟩
  | hueSorting (hdim : pixels.length = w * h) (hmargin : s.margin ≠ 0) (d marked : Discovery)
      (b : Buckets) (hd : .ofSamples s.tolerance pixels = d) (hsize : d.size = Palette.size)
      (hclassify : Buckets.classify s.margin d = (marked, b)) (hne : b.mismatches ≠ []) :
      Ends s pixels w h
        ⟨[.started .enumerating, .colorsFound 20, .done .enumerating, .started .hueSorting] ++
            b.mismatches.map .hueMismatch ++ [.hueDump (b.families marked)],
          .error (.hueSorting b.mismatches)⟩
  | unmatchedPixel (hdim : pixels.length = w * h) (hpass : s.Passes pixels) (m : Legend)
      (hm : s.legend (.ofSamples s.tolerance pixels) = m) (i : Nat)
      (hi : m.firstMiss? pixels = some i) :
      Ends s pixels w h
        ⟨upToLegend (s.dumps m) ++ [.started .remapping], .error (.unmatchedPixel i)⟩
  | snapped (hdim : pixels.length = w * h) (hpass : s.Passes pixels) (m : Legend)
      (hm : s.legend (.ofSamples s.tolerance pixels) = m) (hall : m.firstMiss? pixels = none) :
      Ends s pixels w h
        ⟨upToLegend (s.dumps m) ++ [.started .remapping, .done .remapping],
          .ok ⟨w, h, pixels.filterMap m.colorFor?⟩⟩

theorem ends_snap (s : Snapper) (pixels : List Color) (w h : Nat) :
    Ends s pixels w h (s.snap pixels w h) := by
  by_cases hdim : pixels.length = w * h
  case neg =>
    rw [snap_of_length_ne hdim]
    exact .dimensions hdim
  by_cases hmargin : s.margin = 0
  · rw [snap_of_analyze_eq_error hdim (analyze_of_margin_eq_zero hmargin)]
    exact .zeroMargin hdim hmargin
  by_cases hsize : (Discovery.ofSamples s.tolerance pixels).size = Palette.size
  case neg =>
    rw [snap_of_analyze_eq_error hdim (analyze_of_size_ne hmargin rfl hsize)]
    exact .colorCount hdim hmargin _ rfl hsize
  have hanalyze := analyze_of_size_eq hmargin rfl hsize
  by_cases hfit : (Discovery.ofSamples s.tolerance pixels).FamiliesFit s.margin
  · rw [sortHues_of_familiesFit hfit] at hanalyze
    rw [snap_of_analyze_eq_ok hdim hanalyze]
    have hpass : s.Passes pixels := ⟨hmargin, hsize, hfit⟩
    split
    next i hi => exact .unmatchedPixel hdim hpass _ rfl i hi
    next hall => exact .snapped hdim hpass _ rfl hall
  · have hne := mt Discovery.mismatches_classify_eq_nil_iff.mp hfit
    rw [sortHues_of_mismatches_ne_nil rfl hne] at hanalyze
    rw [snap_of_analyze_eq_error hdim hanalyze]
    exact .hueSorting hdim hmargin _ _ _ rfl hsize rfl hne

theorem transcript_snap (s : Snapper) (pixels : List Color) (w h : Nat) :
    let d := Discovery.ofSamples s.tolerance pixels
    Transcript (s.sortedFamilies d) (s.dumps (s.legend d)) (s.snap pixels w h).result
      (s.snap pixels w h).events := by
  have hends := ends_snap s pixels w h
  generalize s.snap pixels w h = run at hends ⊢
  cases hends with
  | dimensions => exact .dimensions _ _ _ _
  | zeroMargin => exact .zeroMargin
  | colorCount => exact .colorCount _ _
  | hueSorting _ _ d marked b hd _ hclassify =>
    simp only [sortedFamilies, hd, hclassify]
    exact .hueSorting _
  | unmatchedPixel _ _ m hm =>
    subst hm
    exact .unmatchedPixel _
  | snapped _ _ m hm =>
    subst hm
    exact .snapped _

theorem result_analyze_setVerbose (s : Snapper) (verbose : Bool) (pixels : List Color) :
    ({ s with verbose := verbose }.analyze pixels).result = (s.analyze pixels).result := by
  simp only [analyze, result_sortHues]
  split
  next => rfl
  next =>
    split
    next => rfl
    next => rfl

theorem result_snap_setVerbose (s : Snapper) (verbose : Bool) (pixels : List Color) (w h : Nat) :
    ({ s with verbose := verbose }.snap pixels w h).result = (s.snap pixels w h).result := by
  simp only [snap, result_analyze_setVerbose]
  split
  next => rfl
  next =>
    split
    next => rfl
    next => split <;> rfl

theorem result_snap_eq_dimensions_iff :
    (∃ w' h' expected actual, (s.snap pixels w h).result =
      .error (.dimensions w' h' expected actual)) ↔ pixels.length ≠ w * h := by
  have hends := ends_snap s pixels w h
  generalize s.snap pixels w h = run at hends ⊢
  cases hends with
  | dimensions hdim => simp [hdim]
  | zeroMargin hdim => simp [hdim]
  | colorCount hdim => simp [hdim]
  | hueSorting hdim => simp [hdim]
  | unmatchedPixel hdim => simp [hdim]
  | snapped hdim => simp [hdim]

theorem result_snap_eq_zeroMargin_iff :
    (s.snap pixels w h).result = .error .zeroMargin ↔ pixels.length = w * h ∧ s.margin = 0 := by
  have hends := ends_snap s pixels w h
  generalize s.snap pixels w h = run at hends ⊢
  cases hends with
  | dimensions hdim => simp [hdim]
  | zeroMargin hdim hmargin => simp [hdim, hmargin]
  | colorCount _ hmargin => simp [hmargin]
  | hueSorting _ hmargin => simp [hmargin]
  | unmatchedPixel _ hpass => simp [hpass.margin]
  | snapped _ hpass => simp [hpass.margin]

theorem snap_announces (s : Snapper) (pixels : List Color) (w h : Nat) :
    let quiet := { s with verbose := false }.snap pixels w h
    let loud := { s with verbose := true }.snap pixels w h
    let d := Discovery.ofSamples s.tolerance pixels
    let families := (s.legend d).families
    Transcript (s.sortedFamilies d) [] quiet.result quiet.events ∧
      Transcript (s.sortedFamilies d) [.hueDump families] loud.result loud.events ∧
      loud.result = quiet.result ∧ loud.events = withDump families quiet.events ∧
      ((∃ w' h' expected actual, quiet.result = .error (.dimensions w' h' expected actual)) ↔
        pixels.length ≠ w * h) ∧
      (quiet.result = .error .zeroMargin ↔ pixels.length = w * h ∧ s.margin = 0) := by
  intro quiet loud d families
  have hquiet : Transcript (s.sortedFamilies d) [] quiet.result quiet.events :=
    transcript_snap { s with verbose := false } pixels w h
  have hloud : Transcript (s.sortedFamilies d) [.hueDump families] loud.result loud.events :=
    transcript_snap { s with verbose := true } pixels w h
  have hresult : loud.result = quiet.result :=
    (result_snap_setVerbose s true pixels w h).trans
      (result_snap_setVerbose s false pixels w h).symm
  refine ⟨hquiet, hloud, hresult, ?_, result_snap_eq_dimensions_iff, result_snap_eq_zeroMargin_iff⟩
  rw [hresult] at hloud
  exact hloud.unique hquiet.withDump

end

end Snapper

end PaletteSnap
