import Mathlib.Data.List.Count
import Mathlib.Data.List.Nodup
import Mathlib.Data.List.Perm.Subperm
import PaletteSnap.Proofs.Ordering
import PaletteSnap.Proofs.Palette
import PaletteSnap.Snapper

namespace PaletteSnap

theorem map_modify_of_fixed {α β : Type*} {f : α → β} {g : α → α} (hg : ∀ a, f (g a) = f a)
    (xs : List α) (i : Nat) : (xs.modify i g).map f = xs.map f := by
  refine List.ext_getElem? fun j => ?_
  rw [List.getElem?_map, List.getElem?_map, List.getElem?_modify]
  cases xs[j]? with
  | none => rfl
  | some a =>
    change some (f (if i = j then g a else a)) = some (f a)
    split
    · rw [hg]
    · rfl

namespace Buckets

theorem mem_indicesOf {ks : List Cluster} {h : Hue} {i : Nat} :
    i ∈ indicesOf ks h ↔ ∃ k, ks[i]? = some k ∧ k.family = some h := by
  simp only [indicesOf, List.mem_filterMap, Prod.exists, List.mk_mem_zipIdx_iff_getElem?]
  constructor
  · rintro ⟨k, j, hk, hj⟩
    split at hj
    next hfam =>
      obtain rfl : j = i := by simpa using hj
      exact ⟨k, hk, hfam⟩
    next => simp at hj
  · rintro ⟨k, hk, hfam⟩
    exact ⟨k, i, hk, by rw [if_pos hfam]⟩

theorem pairwise_indicesOf (ks : List Cluster) (h : Hue) :
    (indicesOf ks h).Pairwise (· < ·) := by
  have hzip : ks.zipIdx.Pairwise (fun p q => p.2 < q.2) := by
    rw [← List.pairwise_map (f := Prod.snd), List.zipIdx_map_snd]
    exact List.pairwise_lt_range'
  refine hzip.filterMap _ ?_
  rintro ⟨k, i⟩ ⟨k', j⟩ hij b hb b' hb'
  simp only [Option.ite_none_right_eq_some, Option.some.injEq] at hb hb'
  omega

theorem length_indicesOf (ks : List Cluster) (h : Hue) :
    (indicesOf ks h).length = ks.countP (fun k => k.family = some h) := by
  conv_rhs => rw [← List.zipIdx_map_fst 0 ks, List.countP_map]
  rw [indicesOf, List.length_filterMap_eq_countP]
  congr 1
  funext p
  by_cases hp : p.1.family = some h <;> simp [hp]

theorem mismatches_eq_nil_iff {b : Buckets} :
    b.mismatches = [] ↔ ∀ h, (b.members h).length = h.expectedMembers := by
  simp only [mismatches, List.filterMap_eq_nil_iff]
  constructor
  · intro hnone h
    simpa using hnone h h.mem_all
  · intro hlen h _
    simp [hlen h]

def give : Option Color → Cluster → Cluster
  | some c, k => k.setReference c
  | none, k => k

theorem getElem?_giveAll (hue : Hue) (members : List Nat) (hnd : members.Nodup) (n : Nat)
    (ks : List Cluster) (i : Nat) :
    ((members.zipIdx n).foldl
      (fun ks (i, position) =>
        match Palette.color? hue position with
        | some c => ks.modify i (Cluster.setReference c)
        | none => ks) ks)[i]? =
      if i ∈ members then ks[i]?.map (give (Palette.color? hue (n + members.idxOf i)))
      else ks[i]? := by
  induction members generalizing n ks with
  | nil => simp
  | cons j rest ih =>
    obtain ⟨hj, hrest⟩ := List.nodup_cons.mp hnd
    rw [List.zipIdx_cons, List.foldl_cons, ih hrest]
    by_cases hij : j = i
    · subst hij
      rw [if_neg hj, if_pos List.mem_cons_self, List.idxOf_cons_self]
      cases hc : Palette.color? hue n with
      | none => cases hk : ks[j]? <;> simp [hc, hk, give]
      | some c => cases hk : ks[j]? <;> simp [hc, hk, give]
    · have hstep : (match Palette.color? hue n with
          | some c => ks.modify j (Cluster.setReference c)
          | none => ks)[i]? = ks[i]? := by
        split
        · rw [List.getElem?_modify_ne _ _ hij]
        · rfl
      have hmem : i ∈ j :: rest ↔ i ∈ rest := by simp [Ne.symm hij]
      simp only [hmem, List.idxOf_cons_ne _ hij, hstep, Nat.succ_eq_add_one]
      rw [Nat.add_right_comm, Nat.add_assoc]

theorem getElem?_associateFamily (hue : Hue) {members : List Nat} (hnd : members.Nodup)
    (ks : List Cluster) (i : Nat) :
    (associateFamily hue members ks)[i]? =
      if i ∈ members then ks[i]?.map (give (Palette.color? hue (members.idxOf i)))
      else ks[i]? := by
  have h := getElem?_giveAll hue members hnd 0 ks i
  rw [Nat.zero_add] at h
  exact h

theorem map_associateFamily {β : Type*} {f : Cluster → β} (hf : ∀ k c, f (k.setReference c) = f k)
    (h : Hue) (members : List Nat) (ks : List Cluster) :
    (associateFamily h members ks).map f = ks.map f := by
  rw [associateFamily]
  generalize members.zipIdx = ps
  induction ps generalizing ks with
  | nil => rfl
  | cons p ps ih =>
    rw [List.foldl_cons, ih]
    dsimp only
    split
    next c _ => exact map_modify_of_fixed (fun k => hf k c) ks p.1
    next => rfl

theorem map_associate {β : Type*} {f : Cluster → β} (hf : ∀ k c, f (k.setReference c) = f k)
    (b : Buckets) (d : Discovery) : (b.associate d).clusters.map f = d.clusters.map f := by
  rw [associate]
  generalize Hue.all = hues, d.clusters = ks
  induction hues generalizing ks with
  | nil => rfl
  | cons h hues ih => rw [List.foldl_cons, ih, map_associateFamily hf]

theorem length_associate (b : Buckets) (d : Discovery) :
    (b.associate d).clusters.length = d.clusters.length := by
  have hmap := map_associate (f := fun _ => ()) (fun _ _ => rfl) b d
  simpa using congrArg List.length hmap

theorem getElem?_associateAll_of_not_mem {b : Buckets} (hnd : ∀ h, (b.members h).Nodup)
    {hues : List Hue} {i : Nat} (hi : ∀ h ∈ hues, i ∉ b.members h) (ks : List Cluster) :
    (hues.foldl (fun ks h => associateFamily h (b.members h) ks) ks)[i]? = ks[i]? := by
  induction hues generalizing ks with
  | nil => rfl
  | cons h hues ih =>
    rw [List.foldl_cons, ih fun h' hh' => hi h' (List.mem_cons_of_mem _ hh'),
      getElem?_associateFamily h (hnd h), if_neg (hi h List.mem_cons_self)]

theorem getElem?_associateAll_of_mem {b : Buckets} (hnd : ∀ h, (b.members h).Nodup)
    {hues : List Hue} (hhues : hues.Nodup) {i : Nat} {h : Hue} (hh : h ∈ hues)
    (hi : i ∈ b.members h) (honly : ∀ h', i ∈ b.members h' → h' = h) (ks : List Cluster) :
    (hues.foldl (fun ks h => associateFamily h (b.members h) ks) ks)[i]? =
      ks[i]?.map (give (Palette.color? h ((b.members h).idxOf i))) := by
  induction hues generalizing ks with
  | nil => simp at hh
  | cons h' hues ih =>
    obtain ⟨hnot, hrest⟩ := List.nodup_cons.mp hhues
    rw [List.foldl_cons]
    by_cases heq : h' = h
    · subst heq
      have hlater : ∀ h ∈ hues, i ∉ b.members h := fun h hmem hi' =>
        hnot (honly h hi' ▸ hmem)
      rw [getElem?_associateAll_of_not_mem hnd hlater, getElem?_associateFamily h' (hnd h'),
        if_pos hi]
    · rw [ih hrest ((List.mem_cons.mp hh).resolve_left (Ne.symm heq)),
        getElem?_associateFamily h' (hnd h'), if_neg fun hi' => heq (honly h' hi')]

theorem getElem?_associate {b : Buckets} (hnd : ∀ h, (b.members h).Nodup) (d : Discovery)
    {i : Nat} {h : Hue} (hi : i ∈ b.members h) (honly : ∀ h', i ∈ b.members h' → h' = h) :
    (b.associate d).clusters[i]? =
      d.clusters[i]?.map (give (Palette.color? h ((b.members h).idxOf i))) :=
  getElem?_associateAll_of_mem hnd (by decide) (by cases h <;> decide) hi honly d.clusters

end Buckets

namespace Discovery

variable {d : Discovery} {margin : Nat} {h : Hue} {i j : Nat} {k : Cluster}

def FamiliesFit (margin : Nat) (d : Discovery) : Prop :=
  ∀ h, d.clusters.countP (fun k => k.average.family margin = h) = h.expectedMembers

def familyIndices (margin : Nat) (d : Discovery) (h : Hue) : List Nat :=
  Buckets.indicesOf (d.clusters.map (Buckets.mark margin)) h

def levelOf (margin : Nat) (d : Discovery) (i : Nat) : Nat :=
  Buckets.levelAt (Buckets.classify margin d).1 i

def place (margin : Nat) (d : Discovery) (h : Hue) (i : Nat) : Nat :=
  (d.familyIndices margin h).countP (Before (d.levelOf margin) · i)

theorem mem_familyIndices :
    i ∈ d.familyIndices margin h ↔
      ∃ k, d.clusters[i]? = some k ∧ k.average.family margin = h := by
  simp only [familyIndices, Buckets.mem_indicesOf, List.getElem?_map, Option.map_eq_some_iff]
  constructor
  · rintro ⟨-, ⟨k, hk, rfl⟩, hfam⟩
    exact ⟨k, hk, Option.some.inj hfam⟩
  · rintro ⟨k, hk, rfl⟩
    exact ⟨_, ⟨k, hk, rfl⟩, rfl⟩

theorem pairwise_familyIndices (margin : Nat) (d : Discovery) (h : Hue) :
    (d.familyIndices margin h).Pairwise (· < ·) :=
  Buckets.pairwise_indicesOf _ _

theorem length_familyIndices (margin : Nat) (d : Discovery) (h : Hue) :
    (d.familyIndices margin h).length =
      d.clusters.countP (fun k => k.average.family margin = h) := by
  rw [familyIndices, Buckets.length_indicesOf, List.countP_map]
  simp [Function.comp_def, Buckets.mark, Color.classify]

theorem levelOf_eq (hk : d.clusters[i]? = some k) :
    d.levelOf margin i = k.average.level margin := by
  simp [levelOf, Buckets.levelAt, Buckets.classify, List.getElem?_map, hk, Buckets.mark,
    Color.classify]

theorem mismatches_classify_eq_nil_iff :
    (Buckets.classify margin d).2.mismatches = [] ↔ d.FamiliesFit margin := by
  rw [Buckets.mismatches_eq_nil_iff, FamiliesFit]
  exact forall_congr' fun h => by rw [← length_familyIndices]; rfl

theorem FamiliesFit.members_sorted (hfit : d.FamiliesFit margin) (h : Hue) :
    ((Buckets.classify margin d).2.sortByLevel (Buckets.classify margin d).1).members h =
      sortByKey (d.levelOf margin) (d.familyIndices margin h) := by
  by_cases hh : h.isChromatic
  · exact Buckets.members_sortByLevel_of_chromatic _ _ hh
  · -- the two families that are not sorted have one member
    have hlen : (d.familyIndices margin h).length = 1 := by
      rw [length_familyIndices, hfit h, Hue.expectedMembers, if_neg hh]
    obtain ⟨i, hi⟩ := List.length_eq_one_iff.mp hlen
    rw [Buckets.members_sortByLevel_of_gray _ _ hh, hi]
    exact hi

theorem place_lt (hfit : d.FamiliesFit margin) (hi : i ∈ d.familyIndices margin h) :
    d.place margin h i < h.expectedMembers := by
  rw [← hfit h, ← length_familyIndices, place, List.countP_lt_length_iff]
  exact ⟨i, hi, by simp [Before.irrefl]⟩

theorem place_inj (hi : i ∈ d.familyIndices margin h) (hj : j ∈ d.familyIndices margin h)
    (hij : d.place margin h i = d.place margin h j) : i = j := by
  have hsorted := pairwise_familyIndices margin d h
  rw [place, place, ← idxOf_sortByKey _ hsorted hi, ← idxOf_sortByKey _ hsorted hj] at hij
  exact (List.idxOf_inj ((perm_sortByKey _ _).mem_iff.mpr hi)).mp hij

end Discovery

namespace Snapper

variable {s : Snapper} {d : Discovery} {i j : Nat} {k : Cluster}

def legend (s : Snapper) (d : Discovery) : Legend :=
  (s.arrange (Buckets.classify s.margin d).1 (Buckets.classify s.margin d).2).2

theorem exists_color_at_place (hfit : d.FamiliesFit s.margin) (hk : d.clusters[i]? = some k) :
    ∃ c, Palette.color? (k.average.family s.margin)
        (d.place s.margin (k.average.family s.margin) i) = some c ∧
      (s.legend d).discovery.clusters[i]? =
        some ((Buckets.mark s.margin k).setReference c) := by
  have hi : i ∈ d.familyIndices s.margin (k.average.family s.margin) :=
    Discovery.mem_familyIndices.mpr ⟨k, hk, rfl⟩
  obtain ⟨c, hc⟩ := Option.isSome_iff_exists.mp
    (Palette.isSome_color?_iff.mpr (Discovery.place_lt hfit hi))
  refine ⟨c, hc, ?_⟩
  let sorted := (Buckets.classify s.margin d).2.sortByLevel (Buckets.classify s.margin d).1
  have hmembers (h : Hue) : sorted.members h = _ := hfit.members_sorted h
  have hperm (h : Hue) : (sorted.members h).Perm (d.familyIndices s.margin h) := by
    rw [hmembers]
    exact perm_sortByKey _ _
  have hnd (h : Hue) : (sorted.members h).Nodup :=
    (hperm h).nodup_iff.mpr ((Discovery.pairwise_familyIndices _ _ h).imp Nat.ne_of_lt)
  have honly (h : Hue) (hi' : i ∈ sorted.members h) : h = k.average.family s.margin := by
    obtain ⟨k', hk', rfl⟩ := Discovery.mem_familyIndices.mp ((hperm h).mem_iff.mp hi')
    rw [Option.some.inj (hk.symm.trans hk')]
  change (sorted.associate (Buckets.classify s.margin d).1).clusters[i]? = _
  rw [Buckets.getElem?_associate hnd _ ((hperm _).mem_iff.mpr hi) honly, hmembers,
    idxOf_sortByKey _ (Discovery.pairwise_familyIndices _ _ _) hi]
  change Option.map (Buckets.give (Palette.color? _ (d.place s.margin _ i)))
    (d.clusters.map (Buckets.mark s.margin))[i]? = _
  rw [hc, List.getElem?_map, hk]
  rfl

theorem length_legend (s : Snapper) (d : Discovery) :
    (s.legend d).discovery.clusters.length = d.clusters.length := by
  change (Buckets.associate _ _).clusters.length = _
  rw [Buckets.length_associate]
  exact List.length_map _

theorem exists_of_getElem?_legend (hfit : d.FamiliesFit s.margin)
    (hk : (s.legend d).discovery.clusters[i]? = some k) :
    ∃ k₀ c, d.clusters[i]? = some k₀ ∧
      Palette.color? (k₀.average.family s.margin)
        (d.place s.margin (k₀.average.family s.margin) i) = some c ∧
      k = (Buckets.mark s.margin k₀).setReference c := by
  obtain ⟨hi, -⟩ := List.getElem?_eq_some_iff.mp hk
  rw [length_legend] at hi
  have hk₀ := List.getElem?_eq_getElem hi
  obtain ⟨c, hc, hlegend⟩ := exists_color_at_place hfit hk₀
  exact ⟨d.clusters[i], c, hk₀, hc, Option.some.inj (hk.symm.trans hlegend)⟩

theorem reference_mem_colors (hfit : d.FamiliesFit s.margin)
    (hk : (s.legend d).discovery.clusters[i]? = some k) :
    ∃ c ∈ Palette.colors, k.reference = some c := by
  obtain ⟨k₀, c, -, hc, rfl⟩ := exists_of_getElem?_legend hfit hk
  exact ⟨c, Palette.mem_colors_of_color? hc, rfl⟩

theorem reference_inj (hfit : d.FamiliesFit s.margin) {k' : Cluster}
    (hi : (s.legend d).discovery.clusters[i]? = some k)
    (hj : (s.legend d).discovery.clusters[j]? = some k') (href : k.reference = k'.reference) :
    i = j := by
  obtain ⟨k₀, c, hk₀, hc, rfl⟩ := exists_of_getElem?_legend hfit hi
  obtain ⟨k₀', c', hk₀', hc', rfl⟩ := exists_of_getElem?_legend hfit hj
  obtain rfl : c = c' := Option.some.inj href
  obtain ⟨hfam, hplace⟩ := Palette.color?_inj hc hc'
  refine Discovery.place_inj (Discovery.mem_familyIndices.mpr ⟨k₀, hk₀, rfl⟩)
    (Discovery.mem_familyIndices.mpr ⟨k₀', hk₀', hfam.symm⟩) ?_
  rw [hplace, hfam]

theorem perm_references (hfit : d.FamiliesFit s.margin) (hsize : d.size = Palette.size) :
    ((s.legend d).discovery.clusters.map (·.reference)).Perm (Palette.colors.map some) := by
  have hlen := length_legend s d
  have hnd : ((s.legend d).discovery.clusters.map (·.reference)).Nodup := by
    refine List.nodup_iff_injective_get.mpr fun i j hij => Fin.ext ?_
    refine reference_inj hfit (List.getElem?_eq_getElem (by simpa using i.2))
      (List.getElem?_eq_getElem (by simpa using j.2)) ?_
    simpa using hij
  have hsub : (s.legend d).discovery.clusters.map (·.reference) ⊆ Palette.colors.map some := by
    intro r hr
    obtain ⟨k, hk, rfl⟩ := List.mem_map.mp hr
    obtain ⟨i, hi⟩ := List.getElem?_of_mem hk
    obtain ⟨c, hc, href⟩ := reference_mem_colors hfit hi
    exact List.mem_map.mpr ⟨c, hc, href.symm⟩
  refine (hnd.subperm hsub).perm_of_length_le ?_
  rw [List.length_map, List.length_map, hlen]
  exact Nat.le_of_eq hsize.symm

end Snapper

end PaletteSnap
