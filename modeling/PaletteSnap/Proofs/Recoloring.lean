import PaletteSnap.Proofs.Association
import PaletteSnap.Proofs.Reception

namespace PaletteSnap

namespace Discovery

theorem lookup?_eq (d : Discovery) (x : Color) :
    d.lookup? x = (d.find? x).bind (d.clusters[·]?) :=
  List.find?_eq_bind_findIdx?_getElem?

theorem find?_eq_findIdx?_averages (d : Discovery) (x : Color) :
    d.find? x =
      (d.clusters.map (·.average)).findIdx? fun a => decide (Color.Near d.tolerance a x) := by
  rw [List.findIdx?_map]
  rfl

end Discovery

namespace Legend

variable {m : Legend} {pixels cs : List Color} {n i : Nat}

def firstMiss? (m : Legend) (pixels : List Color) : Option Nat :=
  pixels.findIdx? fun x => (m.colorFor? x).isNone

theorem recolorFrom_eq (m : Legend) (n : Nat) (pixels : List Color) :
    m.recolorFrom n pixels =
      match m.firstMiss? pixels with
      | some i => .error (.unmatchedPixel (n + i))
      | none => .ok (pixels.filterMap m.colorFor?) := by
  induction pixels generalizing n with
  | nil => rfl
  | cons x rest ih =>
    rw [recolorFrom, firstMiss?, List.findIdx?_cons]
    cases hx : m.colorFor? x with
    | none => rfl
    | some c =>
      rw [firstMiss?] at ih
      simp only [ih, Option.isNone_some, Bool.false_eq_true, if_false,
        List.filterMap_cons_some hx]
      cases rest.findIdx? fun x => (m.colorFor? x).isNone with
      | none => rfl
      | some i =>
        simp only [Option.map_some]
        rw [Nat.add_assoc, Nat.add_comm 1 i]

theorem firstMiss?_eq_some_iff :
    m.firstMiss? pixels = some i ↔
      (∃ x, pixels[i]? = some x ∧ m.colorFor? x = none) ∧
        ∀ j x, j < i → pixels[j]? = some x → m.colorFor? x ≠ none := by
  rw [firstMiss?, List.findIdx?_eq_some_iff_getElem]
  constructor
  · rintro ⟨hi, hnone, hbefore⟩
    refine ⟨⟨pixels[i], List.getElem?_eq_getElem hi, by simpa using hnone⟩, ?_⟩
    intro j x hj hx
    obtain ⟨hlt, rfl⟩ := List.getElem?_eq_some_iff.mp hx
    simpa using hbefore j hj
  · rintro ⟨⟨x, hx, hnone⟩, hbefore⟩
    obtain ⟨hi, rfl⟩ := List.getElem?_eq_some_iff.mp hx
    refine ⟨hi, by simpa using hnone, fun j hj => ?_⟩
    have hlt := Nat.lt_trans hj hi
    simpa using hbefore j pixels[j] hj (List.getElem?_eq_getElem hlt)

theorem firstMiss?_eq_none_iff :
    m.firstMiss? pixels = none ↔ ∀ x ∈ pixels, m.colorFor? x ≠ none := by
  rw [firstMiss?, List.findIdx?_eq_none_iff]
  simp only [Option.isNone_eq_false_iff, Option.isSome_iff_ne_none]

theorem map_colorFor?_eq_iff :
    pixels.map m.colorFor? = cs.map some ↔
      m.firstMiss? pixels = none ∧ pixels.filterMap m.colorFor? = cs := by
  rw [firstMiss?_eq_none_iff]
  constructor
  · intro h
    refine ⟨fun x hx hnone => ?_, ?_⟩
    · have hmem : m.colorFor? x ∈ cs.map some := h ▸ List.mem_map_of_mem hx
      simp [hnone] at hmem
    · have hid := congrArg (List.filterMap id) h
      simpa [List.filterMap_map] using hid
  · rintro ⟨hall, rfl⟩
    rw [List.map_filterMap_some_eq_filter_map_isSome, eq_comm, List.filter_eq_self]
    intro c hc
    obtain ⟨x, hx, rfl⟩ := List.mem_map.mp hc
    exact Option.isSome_iff_ne_none.mpr (hall x hx)

end Legend

theorem checkDimensions_eq_ok_iff {pixels : List Color} {w h : Nat} :
    checkDimensions pixels w h = .ok () ↔ pixels.length = w * h := by
  rw [checkDimensions]
  split <;> simp [*]

namespace Snapper

variable {s : Snapper} {pixels : List Color} {w h : Nat} {x : Color} {d : Discovery}

theorem map_legend {β : Type*} {f : Cluster → β} (hf : ∀ k c, f (k.setReference c) = f k)
    (s : Snapper) (d : Discovery) :
    (s.legend d).discovery.clusters.map f =
      d.clusters.map fun k => f (Buckets.mark s.margin k) := by
  change (Buckets.associate _ (Buckets.classify s.margin d).1).clusters.map f = _
  rw [Buckets.map_associate hf]
  exact List.map_map

theorem map_average_legend (s : Snapper) (d : Discovery) :
    (s.legend d).discovery.clusters.map (·.average) = d.clusters.map (·.average) :=
  map_legend (fun _ _ => rfl) s d

theorem find?_legend (s : Snapper) (d : Discovery) (x : Color) :
    (s.legend d).discovery.find? x = d.find? x := by
  rw [Discovery.find?_eq_findIdx?_averages, Discovery.find?_eq_findIdx?_averages,
    map_average_legend]
  rfl

theorem colorFor?_eq_some_iff {c : Color} :
    (s.legend d).colorFor? x = some c ↔
      ∃ i k, d.find? x = some i ∧ (s.legend d).discovery.clusters[i]? = some k ∧
        k.reference = some c := by
  rw [Legend.colorFor?, Discovery.lookup?_eq, find?_legend, Option.bind_eq_some_iff]
  constructor
  · rintro ⟨k, hk, href⟩
    obtain ⟨i, hi, hik⟩ := Option.bind_eq_some_iff.mp hk
    exact ⟨i, k, hi, hik, href⟩
  · rintro ⟨i, k, hi, hik, href⟩
    exact ⟨k, Option.bind_eq_some_iff.mpr ⟨i, hi, hik⟩, href⟩

theorem colorFor?_eq_none_iff (hfit : d.FamiliesFit s.margin) :
    (s.legend d).colorFor? x = none ↔ ∀ k ∈ d.clusters, ¬ Color.Near d.tolerance k.average x := by
  have hfind : d.find? x = none ↔ ∀ k ∈ d.clusters, ¬ Color.Near d.tolerance k.average x := by
    simp only [Discovery.find?_eq_none_iff, Cluster.accepts_iff]
  rw [← hfind]
  constructor
  · intro hnone
    by_contra hsome
    obtain ⟨i, hi⟩ := Option.ne_none_iff_exists'.mp hsome
    obtain ⟨k, hk, -⟩ := Discovery.find?_eq_some_iff.mp hi
    obtain ⟨c, -, hlegend⟩ := exists_color_at_place hfit hk
    have hcolor := colorFor?_eq_some_iff.mpr ⟨i, _, hi, hlegend, rfl⟩
    rw [hnone] at hcolor
    cases hcolor
  · intro hnone
    rw [Legend.colorFor?, Discovery.lookup?_eq, find?_legend, hnone]
    rfl

structure Passes (s : Snapper) (pixels : List Color) : Prop where
  margin : s.margin ≠ 0
  count : (Discovery.ofSamples s.tolerance pixels).size = Palette.size
  families : (Discovery.ofSamples s.tolerance pixels).FamiliesFit s.margin

theorem result_sortHues (s : Snapper) (d : Discovery) :
    (s.sortHues d).result =
      match (Buckets.classify s.margin d).2.mismatches with
      | [] => .ok (s.legend d)
      | mismatches => .error (.hueSorting mismatches) := by
  simp only [sortHues]
  cases (Buckets.classify s.margin d).2.mismatches <;> rfl

theorem result_analyze_of_passes (hpass : s.Passes pixels) :
    (s.analyze pixels).result = .ok (s.legend (.ofSamples s.tolerance pixels)) := by
  rw [analyze, if_neg hpass.margin]
  simp only [if_pos hpass.count, result_sortHues,
    Discovery.mismatches_classify_eq_nil_iff.mpr hpass.families]

theorem result_analyze_of_not_passes (hfail : ¬ s.Passes pixels) :
    ∃ e, (s.analyze pixels).result = .error e ∧ ∀ i, e ≠ .unmatchedPixel i := by
  rw [analyze]
  split
  next => exact ⟨_, rfl, by simp⟩
  next hmargin =>
    dsimp only
    split
    next hcount =>
      simp only [result_sortHues]
      split
      next hnil =>
        have hfit := Discovery.mismatches_classify_eq_nil_iff.mp hnil
        exact absurd ⟨hmargin, hcount, hfit⟩ hfail
      next => exact ⟨_, rfl, by simp⟩
    next => exact ⟨_, rfl, by simp⟩

theorem result_analyze_eq_ok_iff {m : Legend} :
    (s.analyze pixels).result = .ok m ↔
      s.Passes pixels ∧ m = s.legend (.ofSamples s.tolerance pixels) := by
  constructor
  · intro hm
    by_cases hpass : s.Passes pixels
    · rw [result_analyze_of_passes hpass, Except.ok.injEq] at hm
      exact ⟨hpass, hm.symm⟩
    · obtain ⟨e, he, -⟩ := result_analyze_of_not_passes hpass
      rw [he] at hm
      cases hm
  · rintro ⟨hpass, rfl⟩
    exact result_analyze_of_passes hpass

theorem result_snap_of_passes (hdim : pixels.length = w * h) (hpass : s.Passes pixels) :
    (s.snap pixels w h).result =
      match (s.legend (.ofSamples s.tolerance pixels)).firstMiss? pixels with
      | some i => .error (.unmatchedPixel i)
      | none => .ok ⟨w, h, pixels.filterMap
          (s.legend (.ofSamples s.tolerance pixels)).colorFor?⟩ := by
  have hok := checkDimensions_eq_ok_iff.mpr hdim
  simp only [snap, hok, result_analyze_of_passes hpass, Legend.recolor, Legend.recolorFrom_eq]
  cases (s.legend (.ofSamples s.tolerance pixels)).firstMiss? pixels <;> simp

theorem result_snap_of_not_passes (hfail : ¬ (pixels.length = w * h ∧ s.Passes pixels)) :
    ∃ e, (s.snap pixels w h).result = .error e ∧ ∀ i, e ≠ .unmatchedPixel i := by
  rw [snap, checkDimensions]
  split
  next e he =>
    split at he
    next => simp at he
    next => exact ⟨e, rfl, by cases he; simp⟩
  next hok =>
    split at hok
    next hdim =>
      obtain ⟨e, he, hne⟩ := result_analyze_of_not_passes fun hpass => hfail ⟨hdim, hpass⟩
      exact ⟨e, by simp only [he], hne⟩
    next => simp at hok

theorem result_snap_eq_ok_iff {g : Grid} :
    (s.snap pixels w h).result = .ok g ↔
      (pixels.length = w * h ∧ s.Passes pixels) ∧ g.width = w ∧ g.height = h ∧
        pixels.map (s.legend (.ofSamples s.tolerance pixels)).colorFor? = g.pixels.map some := by
  by_cases h' : pixels.length = w * h ∧ s.Passes pixels
  · rw [result_snap_of_passes h'.1 h'.2, Legend.map_colorFor?_eq_iff]
    obtain ⟨w', h', pixels'⟩ := g
    cases (s.legend (.ofSamples s.tolerance pixels)).firstMiss? pixels with
    | some i => simp
    | none => simp [*, eq_comm]
  · obtain ⟨e, he, -⟩ := result_snap_of_not_passes h'
    simp [he, h']

theorem pixels_subset_colors {g : Grid} (hg : (s.snap pixels w h).result = .ok g) :
    g.pixels ⊆ Palette.colors := by
  intro c hc
  obtain ⟨⟨-, hpass⟩, -, -, hmap⟩ := result_snap_eq_ok_iff.mp hg
  have hmem : some c ∈ g.pixels.map some := List.mem_map_of_mem hc
  rw [← hmap] at hmem
  obtain ⟨x, -, hx⟩ := List.mem_map.mp hmem
  obtain ⟨i, k, -, hk, href⟩ := colorFor?_eq_some_iff.mp hx
  obtain ⟨c', hc', href'⟩ := reference_mem_colors hpass.families hk
  exact Option.some.inj (href'.symm.trans href) ▸ hc'

theorem length_pixels {g : Grid} (hg : (s.snap pixels w h).result = .ok g) :
    g.pixels.length = pixels.length := by
  obtain ⟨-, -, -, hmap⟩ := result_snap_eq_ok_iff.mp hg
  simpa using (congrArg List.length hmap).symm

theorem filled {g : Grid} (hg : (s.snap pixels w h).result = .ok g) : g.Filled := by
  obtain ⟨⟨hdim, -⟩, hwidth, hheight, -⟩ := result_snap_eq_ok_iff.mp hg
  rw [Grid.Filled, length_pixels hg, hdim, hwidth, hheight]

theorem pixels_ne_nil {g : Grid} (hg : (s.snap pixels w h).result = .ok g) : pixels ≠ [] := by
  rintro rfl
  obtain ⟨⟨-, hpass⟩, -⟩ := result_snap_eq_ok_iff.mp hg
  exact absurd hpass.count (by decide : (0 : Nat) ≠ Palette.size)

end Snapper

end PaletteSnap
