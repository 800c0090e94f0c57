import PaletteSnap.Proofs.Balance
import PaletteSnap.Report

namespace PaletteSnap

theorem filterMap_getElem?_range {α : Type*} (xs : List α) :
    (List.range xs.length).filterMap (xs[·]?) = xs := by
  induction xs with
  | nil => rfl
  | cons x xs ih =>
    rw [List.length_cons, List.range_succ_eq_map]
    change x :: ((List.range xs.length).map Nat.succ).filterMap ((x :: xs)[·]?) = x :: xs
    rw [List.filterMap_map]
    exact congrArg (x :: ·) ih

structure Row where
  hue : Hue
  average : Color
  weight : UInt64
  level : Nat

def Family.rows (f : Family) : List Row :=
  f.clusters.map fun k => ⟨f.hue, k.average, k.weight, k.level⟩

def Cluster.row (margin : Nat) (k : Cluster) : Row :=
  let c := k.average.classify margin
  ⟨c.family, k.average, k.weight, c.level⟩

structure DumpEntry where
  average : String
  weight : Nat
  level : Nat
  reference : Option String

def Cluster.entry (k : Cluster) : DumpEntry :=
  ⟨k.average.toText, k.weight.toNat, k.level, k.reference.map Color.toText⟩

section

open Json

def recordedReference? : Json → Option (Option String)
  | .null => some none
  | .text c => some (some c)
  | _ => none

def recordedEntry? : Json → Option DumpEntry
  | record [("average", text average), ("weight", number weight), ("level", number level),
      ("reference", reference)] =>
    (recordedReference? reference).map (⟨average, weight, level, ·⟩)
  | _ => none

def recordedFamily? : Json → Option (String × List DumpEntry)
  | record [("hue", text name), ("clusters", list clusters)] =>
    (clusters.mapM recordedEntry?).map (name, ·)
  | _ => none

def recordedFamilies? : Json → Option (List (String × List DumpEntry))
  | record [("event", text "hue_dump"), ("families", list families)] =>
    families.mapM recordedFamily?
  | _ => none

end

theorem recordedEntry?_clusterJson (k : Cluster) :
    recordedEntry? (Report.clusterJson k) = some k.entry := by
  rw [Report.clusterJson, Cluster.entry]
  cases k.reference <;> rfl

theorem recordedFamily?_familyJson (f : Family) :
    recordedFamily? (Report.familyJson f) = some (f.hue.name, f.clusters.map Cluster.entry) := by
  have hentries : (f.clusters.map Report.clusterJson).mapM recordedEntry? =
      some (f.clusters.map Cluster.entry) := by
    rw [List.mapM_map, show recordedEntry? ∘ Report.clusterJson = fun k => pure k.entry from
      funext recordedEntry?_clusterJson, List.mapM_pure]
    rfl
  rw [Report.familyJson, recordedFamily?, hentries, Option.map_some]

theorem recordedFamilies?_eventJson (fs : List Family) :
    recordedFamilies? (Report.eventJson (.hueDump fs)) =
      some ((fs.map (·.hue.name)).zip (fs.map fun f => f.clusters.map Cluster.entry)) := by
  rw [Report.eventJson, recordedFamilies?, List.mapM_map,
    show recordedFamily? ∘ Report.familyJson = fun f => pure _ from
      funext recordedFamily?_familyJson, List.mapM_pure, List.zip_map']
  rfl

namespace Discovery

theorem marks_ofSamples (t : Nat) (xs : List Color) :
    ∀ marks ∈ (ofSamples t xs).clusters.map Cluster.marks, marks = (none, 0, none) := by
  induction xs using List.reverseRecOn with
  | nil => simp [ofSamples, empty]
  | append_singleton xs x ih =>
    have hstep : ofSamples t (xs ++ [x]) = ((ofSamples t xs).insert x).1 :=
      ofSamples_append t xs [x]
    intro marks hmarks
    rw [hstep, map_marks_insert, List.mem_append] at hmarks
    rcases hmarks with hold | hnew
    · exact ih marks hold
    · split at hnew
      · exact List.mem_singleton.mp hnew
      · cases hnew

theorem reference_ofSamples {t : Nat} {xs : List Color} {k : Cluster}
    (hk : k ∈ (ofSamples t xs).clusters) : k.reference = none := by
  have hmarks := marks_ofSamples t xs k.marks (List.mem_map_of_mem hk)
  exact (Prod.mk.inj (Prod.mk.inj hmarks).2).2

end Discovery

namespace Buckets

variable {b : Buckets} {d marked : Discovery} {margin : Nat}

structure Displays (b : Buckets) (marked : Discovery) (margin : Nat) (d : Discovery) : Prop where
  clusters : marked.clusters.map (fun k => (k.average, k.weight, k.level)) =
    d.clusters.map fun k => (k.average, k.weight, k.average.level margin)
  members : ∀ h, (b.members h).Perm (d.familyIndices margin h)

theorem Displays.exists_cluster (hb : b.Displays marked margin d) {h : Hue} {i : Nat}
    (hi : i ∈ b.members h) :
    ∃ k k₀, marked.clusters[i]? = some k ∧ d.clusters[i]? = some k₀ ∧
      k₀.average.family margin = h ∧ k.average = k₀.average ∧ k.weight = k₀.weight ∧
      k.level = k₀.average.level margin := by
  obtain ⟨k₀, hk₀, hfam⟩ := Discovery.mem_familyIndices.mp ((hb.members h).mem_iff.mp hi)
  have hi := congrArg (·[i]?) hb.clusters
  simp only [List.getElem?_map, hk₀, Option.map_some, Option.map_eq_some_iff, Prod.mk.injEq] at hi
  obtain ⟨k, hk, hsame⟩ := hi
  exact ⟨k, k₀, hk, hk₀, hfam, hsame⟩

theorem Displays.rows_family (hb : b.Displays marked margin d) (h : Hue) :
    Family.rows ⟨h, (b.members h).filterMap (marked.clusters[·]?)⟩ =
      ((b.members h).filterMap (d.clusters[·]?)).map (Cluster.row margin) := by
  rw [Family.rows, List.map_filterMap, List.map_filterMap]
  refine List.filterMap_congr fun i hi => ?_
  obtain ⟨k, k₀, hk, hk₀, rfl, haverage, hweight, hlevel⟩ := hb.exists_cluster hi
  rw [hk, hk₀, Option.map_some, Option.map_some, haverage, hweight, hlevel]
  rfl

theorem Displays.perm_rows (hb : b.Displays marked margin d) :
    ((b.families marked).flatMap Family.rows).Perm (d.clusters.map (Cluster.row margin)) := by
  have hindices : (Hue.all.flatMap b.members).Perm (List.range d.clusters.length) :=
    (List.Perm.flatMap_left _ fun h _ => hb.members h).trans (perm_members_classify margin d)
  have hclusters := (hindices.filterMap (d.clusters[·]?)).map (Cluster.row margin)
  rw [filterMap_getElem?_range, List.filterMap_flatMap, List.map_flatMap] at hclusters
  rw [families, List.flatMap_map, List.flatMap_congr fun h _ => hb.rows_family h]
  exact hclusters

theorem Displays.tallies (hb : b.Displays marked margin d) :
    (b.families marked).map (fun f => (f.hue, f.clusters.length)) =
      Hue.all.map fun h => (h, (b.members h).length) := by
  rw [families, List.map_map]
  refine List.map_congr_left fun h _ => ?_
  have hlen : ((b.members h).filterMap (marked.clusters[·]?)).length = (b.members h).length := by
    rw [List.length_filterMap_eq_countP, List.countP_eq_length]
    intro i hi
    obtain ⟨k, -, hk, -⟩ := hb.exists_cluster hi
    rw [hk]
    rfl
  exact congrArg (Prod.mk h) hlen

theorem tallies_mismatches (b : Buckets) :
    b.mismatches.map (fun m => (m.hue, m.found)) =
      (Hue.all.map fun h => (h, (b.members h).length)).filter
        fun p => p.2 ≠ p.1.expectedMembers := by
  rw [mismatches]
  induction Hue.all with
  | nil => rfl
  | cons h hues ih =>
    rw [List.filterMap_cons, List.map_cons, List.filter_cons, ← ih]
    by_cases hsize : (b.members h).length = h.expectedMembers <;> simp [hsize]

theorem displays_classify (margin : Nat) (d : Discovery) :
    (classify margin d).2.Displays (classify margin d).1 margin d where
  clusters := List.map_map
  members _ := .refl _

theorem mem_families {f : Family} {k : Cluster} (hf : f ∈ b.families d) (hk : k ∈ f.clusters) :
    k ∈ d.clusters := by
  obtain ⟨h, -, rfl⟩ := List.mem_map.mp hf
  obtain ⟨i, -, hi⟩ := List.mem_filterMap.mp hk
  exact List.mem_of_getElem? hi

end Buckets

namespace Snapper

variable {s : Snapper} {d : Discovery} {pixels : List Color} {before after : List Event}
  {fs : List Family}

theorem displays_legend (hfit : d.FamiliesFit s.margin) :
    (s.legend d).buckets.Displays (s.legend d).discovery s.margin d where
  clusters := map_legend (fun _ _ => rfl) s d
  members h := by
    have hsorted : (s.legend d).buckets.members h = _ := hfit.members_sorted h
    rw [hsorted]
    exact perm_sortByKey _ _

theorem length_members_legend (hfit : d.FamiliesFit s.margin) (h : Hue) :
    ((s.legend d).buckets.members h).length = h.expectedMembers := by
  rw [((displays_legend hfit).members h).length_eq, Discovery.length_familyIndices, hfit]

theorem sizes_legend (hfit : d.FamiliesFit s.margin) :
    (s.legend d).families.map (·.clusters.length) = Hue.all.map Hue.expectedMembers := by
  have htallies := congrArg (List.map Prod.snd) (displays_legend hfit).tallies
  rw [List.map_map, List.map_map] at htallies
  exact htallies.trans (List.map_congr_left fun h _ => length_members_legend hfit h)

theorem pairwise_levels_legend (hfit : d.FamiliesFit s.margin) {f : Family}
    (hf : f ∈ (s.legend d).families) : (f.clusters.map (·.level)).Pairwise (· ≤ ·) := by
  obtain ⟨h, -, rfl⟩ := List.mem_map.mp hf
  have hsorted : ((s.legend d).buckets.members h).Pairwise
      fun i j => d.levelOf s.margin i ≤ d.levelOf s.margin j := by
    have hmembers : (s.legend d).buckets.members h = _ := hfit.members_sorted h
    rw [hmembers]
    exact (pairwise_sortByKey _ (Discovery.pairwise_familyIndices _ _ h)).imp Before.le
  have hlevel {i : Nat} {k : Cluster} (hk : (s.legend d).discovery.clusters[i]? = some k) :
      d.levelOf s.margin i = k.level := by
    obtain ⟨k₀, c, hk₀, -, rfl⟩ := exists_of_getElem?_legend hfit hk
    exact Discovery.levelOf_eq hk₀
  rw [List.pairwise_map]
  refine hsorted.filterMap _ fun i j hij k hk k' hk' => ?_
  rw [hlevel hk, hlevel hk'] at hij
  exact hij

theorem reference_legend (hfit : d.FamiliesFit s.margin) {k : Cluster}
    (hk : k ∈ (s.legend d).discovery.clusters) : k.reference ≠ none := by
  obtain ⟨i, hi⟩ := List.getElem?_of_mem hk
  obtain ⟨c, -, href⟩ := reference_mem_colors hfit hi
  rw [href]
  exact Option.some_ne_none c

inductive Dumped (s : Snapper) (pixels : List Color) (before : List Event) (fs : List Family) : Prop
  | mismatched (ms : List Mismatch) (hresult : (s.analyze pixels).result = .error (.hueSorting ms))
      (hms : (Buckets.classify s.margin (.ofSamples s.tolerance pixels)).2.mismatches = ms)
      (hbefore : before = [.started .enumerating, .colorsFound 20, .done .enumerating,
        .started .hueSorting] ++ ms.map .hueMismatch)
      (hfs : fs = s.sortedFamilies (.ofSamples s.tolerance pixels))
  | asked (hpass : s.Passes pixels) (hverbose : s.verbose = true)
      (hfs : fs = (s.legend (.ofSamples s.tolerance pixels)).families)

theorem dumped_of_events
    (hdump : (s.analyze pixels).events = before ++ .hueDump fs :: after) :
    (Discovery.ofSamples s.tolerance pixels).size = Palette.size ∧ Dumped s pixels before fs := by
  have hmem : .hueDump fs ∈ (s.analyze pixels).events := by
    rw [hdump]
    exact List.mem_append_right _ List.mem_cons_self
  by_cases hmargin : s.margin = 0
  · simp [analyze_of_margin_eq_zero hmargin] at hmem
  by_cases hsize : (Discovery.ofSamples s.tolerance pixels).size = Palette.size
  case neg => simp [analyze_of_size_ne hmargin rfl hsize] at hmem
  refine ⟨hsize, ?_⟩
  have hanalyze := analyze_of_size_eq hmargin rfl hsize
  by_cases hfit : (Discovery.ofSamples s.tolerance pixels).FamiliesFit s.margin
  · rw [sortHues_of_familiesFit hfit] at hanalyze
    rw [hanalyze] at hmem
    cases hverbose : s.verbose with
    | false => simp [dumps, hverbose] at hmem
    | true =>
      have hfs : fs = (s.legend (.ofSamples s.tolerance pixels)).families := by
        simpa [dumps, hverbose] using hmem
      exact .asked ⟨hmargin, hsize, hfit⟩ hverbose hfs
  · have hne := mt Discovery.mismatches_classify_eq_nil_iff.mp hfit
    rcases hclassify : Buckets.classify s.margin (.ofSamples s.tolerance pixels) with ⟨marked, b⟩
    rw [hclassify] at hne
    rw [sortHues_of_mismatches_ne_nil hclassify hne] at hanalyze
    have hsplit : ([.started .enumerating, .colorsFound 20, .done .enumerating,
          .started .hueSorting] ++ b.mismatches.map .hueMismatch) ++
        [.hueDump (b.families marked)] = before ++ .hueDump fs :: after := by
      rw [← hdump, hanalyze]
      simp
    obtain ⟨hbefore, hfs, -⟩ := (List.append_cons_inj_of_notMem (by simp) (by simp)).mp hsplit
    have hfamilies : s.sortedFamilies (.ofSamples s.tolerance pixels) = b.families marked := by
      rw [sortedFamilies, hclassify]
    exact .mismatched b.mismatches (by rw [hanalyze]) (by rw [hclassify]) hbefore.symm
      ((Event.hueDump.inj hfs).symm.trans hfamilies.symm)

theorem Dumped.displays (h : Dumped s pixels before fs) :
    ∃ (b : Buckets) (marked : Discovery),
      b.Displays marked s.margin (.ofSamples s.tolerance pixels) ∧ fs = b.families marked := by
  cases h with
  | mismatched ms _ _ _ hfs => exact ⟨_, _, Buckets.displays_classify s.margin _, hfs⟩
  | asked hpass _ hfs => exact ⟨_, _, displays_legend hpass.families, hfs⟩

theorem reference_sortedFamilies {t : Nat} {xs : List Color} {f : Family} {k : Cluster}
    (hf : f ∈ s.sortedFamilies (.ofSamples t xs)) (hk : k ∈ f.clusters) : k.reference = none := by
  obtain ⟨k₀, hk₀, rfl⟩ := List.mem_map.mp (Buckets.mem_families hf hk)
  exact Discovery.reference_ofSamples (k := k₀) hk₀

theorem dumps_are_complete
    (hdump : (s.analyze pixels).events = before ++ .hueDump fs :: after) :
    let d := Discovery.ofSamples s.tolerance pixels
    recordedFamilies? (Report.eventJson (.hueDump fs)) =
        some (["black", "blue", "green", "cyan", "red", "magenta", "yellow", "white"].zip
          (fs.map fun f => f.clusters.map Cluster.entry)) ∧
      fs.map (·.hue) = [.black, .blue, .green, .cyan, .red, .magenta, .yellow, .white] ∧
      d.size = 20 ∧ (fs.flatMap Family.rows).Perm (d.clusters.map (Cluster.row s.margin)) ∧
      (pixels.length < 2 ^ 64 →
        ((fs.flatMap Family.rows).map (·.weight.toNat)).sum = pixels.length) ∧
      ((∃ ms, (s.analyze pixels).result = .error (.hueSorting ms) ∧
          (∀ f ∈ fs, ∀ k ∈ f.clusters, k.reference = none) ∧
          (∃ start, before = start ++ ms.map .hueMismatch ∧ ∀ m, .hueMismatch m ∉ start) ∧
          ms.map (fun m => (m.hue, m.found)) =
            (fs.map fun f => (f.hue, f.clusters.length)).filter
              fun p => p.2 ≠ p.1.expectedMembers) ∨
        ∃ m, (s.analyze pixels).result = .ok m ∧ s.verbose = true ∧
          (∀ f ∈ fs, ∀ k ∈ f.clusters, k.reference ≠ none) ∧
          fs.map (·.clusters.length) = [1, 3, 3, 3, 3, 3, 3, 1] ∧
          ∀ f ∈ fs, (f.clusters.map (·.level)).Pairwise (· ≤ ·)) := by
  intro d
  obtain ⟨hsize, hdumped⟩ := dumped_of_events hdump
  obtain ⟨b, marked, hdisplays, hfs⟩ := hdumped.displays
  have hhues : fs.map (·.hue) = Hue.all := by
    rw [hfs, Buckets.families, List.map_map]
    exact List.map_id _
  have hrows : (fs.flatMap Family.rows).Perm (d.clusters.map (Cluster.row s.margin)) :=
    hfs ▸ hdisplays.perm_rows
  have hweights (hn : pixels.length < 2 ^ 64) :
      ((fs.flatMap Family.rows).map (·.weight.toNat)).sum = pixels.length := by
    rw [(hrows.map _).sum_eq, List.map_map]
    exact Discovery.sum_weights_ofSamples hn
  have hnames : fs.map (·.hue.name) = Hue.all.map Hue.name := by
    rw [← hhues, List.map_map]
    rfl
  have hrecorded := recordedFamilies?_eventJson fs
  rw [hnames] at hrecorded
  refine ⟨hrecorded, hhues, hsize, hrows, hweights, ?_⟩
  cases hdumped with
  | mismatched ms hresult hms hbefore hfs =>
    refine .inl ⟨ms, hresult, ?_, ⟨_, hbefore, by simp⟩, ?_⟩
    · intro f hf k hk
      rw [hfs] at hf
      exact reference_sortedFamilies hf hk
    · have htallies := (Buckets.displays_classify s.margin d).tallies
      rw [hfs, ← hms, Buckets.tallies_mismatches, ← htallies]
      rfl
  | asked hpass hverbose hfs =>
    subst hfs
    refine .inr ⟨_, result_analyze_of_passes hpass, hverbose, ?_, sizes_legend hpass.families, ?_⟩
    · intro f hf k hk
      exact reference_legend hpass.families (Buckets.mem_families hf hk)
    · intro f hf
      exact pairwise_levels_legend hpass.families hf

-- The first pixel comes once more.
theorem dumps_are_complete_misplaced :
    ∃ before fs, (({} : Snapper).analyze (misplacedColors ++ [⟨96, 0, 0⟩])).events =
        before ++ [.hueDump fs] ∧
      ((fs.flatMap Family.rows).map (·.weight.toNat)).sum = 21 ∧
      ∀ f ∈ fs, ∀ k ∈ f.clusters, k.reference = none := by
  have hresult : (({} : Snapper).analyze (misplacedColors ++ [⟨96, 0, 0⟩])).result =
    .error (.hueSorting [⟨.black, 0, 1⟩, ⟨.blue, 4, 3⟩, ⟨.red, 4, 3⟩, ⟨.yellow, 2, 3⟩]) := rfl
  have hdump : (({} : Snapper).analyze (misplacedColors ++ [⟨96, 0, 0⟩])).events =
    [.started .enumerating, .colorsFound 20, .done .enumerating, .started .hueSorting,
      .hueMismatch ⟨.black, 0, 1⟩, .hueMismatch ⟨.blue, 4, 3⟩, .hueMismatch ⟨.red, 4, 3⟩,
      .hueMismatch ⟨.yellow, 2, 3⟩] ++ .hueDump _ :: [] := rfl
  obtain ⟨-, -, -, -, hweights, hending⟩ := dumps_are_complete hdump
  refine ⟨_, _, hdump, hweights (by decide), ?_⟩
  rcases hending with ⟨ms, -, hnull, -⟩ | ⟨m, hm, -⟩
  · exact hnull
  · rw [hresult] at hm
    cases hm

end Snapper

end PaletteSnap
