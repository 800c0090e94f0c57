import PaletteSnap.Proofs.Assignment
import PaletteSnap.Proofs.Recoloring

namespace PaletteSnap

namespace Cluster

def gist (k : Cluster) : Color × UInt64 :=
  (k.average, k.weight)

def marks (k : Cluster) : Option Hue × Nat × Option Color :=
  (k.family, k.level, k.reference)

theorem gist_receive {o o' : Option Cluster} (h : o.map gist = o'.map gist) (x : Color) :
    (receive o x).gist = (receive o' x).gist := by
  cases o with
  | none =>
    obtain rfl : o' = none := Option.map_eq_none_iff.mp h.symm
    rfl
  | some k =>
    obtain ⟨k', rfl, hgist⟩ := Option.map_eq_some_iff.mp h.symm
    obtain ⟨haverage, hweight⟩ : k'.average = k.average ∧ k'.weight = k.weight :=
      Prod.mk.inj hgist
    simp only [receive, merge, gist, haverage, hweight]

end Cluster

namespace Discovery

variable {d d₀ : Discovery}

structure Agrees (d d₀ : Discovery) : Prop where
  tolerance : d.tolerance = d₀.tolerance
  gists : d.clusters.map Cluster.gist = d₀.clusters.map Cluster.gist

theorem Agrees.refl (d : Discovery) : d.Agrees d :=
  ⟨rfl, rfl⟩

theorem Agrees.trans {d₁ d₂ : Discovery} (h : d.Agrees d₁) (h' : d₁.Agrees d₂) : d.Agrees d₂ :=
  ⟨h.tolerance.trans h'.tolerance, h.gists.trans h'.gists⟩

theorem Agrees.size_eq (h : d.Agrees d₀) : d.size = d₀.size := by
  simpa [size] using congrArg List.length h.gists

theorem Agrees.averages (h : d.Agrees d₀) :
    d.clusters.map (·.average) = d₀.clusters.map (·.average) := by
  have hfst := congrArg (List.map Prod.fst) h.gists
  rwa [List.map_map, List.map_map] at hfst

theorem Agrees.weights (h : d.Agrees d₀) :
    d.clusters.map (·.weight) = d₀.clusters.map (·.weight) := by
  have hsnd := congrArg (List.map Prod.snd) h.gists
  rwa [List.map_map, List.map_map] at hsnd

theorem Agrees.find?_eq (h : d.Agrees d₀) (x : Color) : d.find? x = d₀.find? x := by
  rw [find?_eq_findIdx?_averages, find?_eq_findIdx?_averages, h.averages, h.tolerance]

theorem Agrees.index_insert_eq (h : d.Agrees d₀) (x : Color) :
    (d.insert x).2 = (d₀.insert x).2 := by
  rw [index_insert, index_insert, h.find?_eq, h.size_eq]

theorem Agrees.insert (h : d.Agrees d₀) (x : Color) : (d.insert x).1.Agrees (d₀.insert x).1 := by
  constructor
  · rw [tolerance_insert, tolerance_insert, h.tolerance]
  · refine List.ext_getElem? fun j => ?_
    have hj : d.clusters[j]?.map Cluster.gist = d₀.clusters[j]?.map Cluster.gist := by
      rw [← List.getElem?_map, h.gists, List.getElem?_map]
    rw [List.getElem?_map, List.getElem?_map, getElem?_insert, getElem?_insert,
      h.index_insert_eq]
    split
    · rw [Option.map_some, Option.map_some, Cluster.gist_receive hj]
    · exact hj

theorem agrees_classify (margin : Nat) (d : Discovery) :
    (Buckets.classify margin d).1.Agrees d :=
  ⟨rfl, List.map_map⟩

theorem map_marks_insert (d : Discovery) (x : Color) :
    (d.insert x).1.clusters.map Cluster.marks =
      d.clusters.map Cluster.marks ++ if d.find? x = none then [(none, 0, none)] else [] := by
  cases h : d.find? x with
  | none =>
    rw [insert_of_find?_eq_none h, if_pos rfl]
    exact List.map_append
  | some i =>
    rw [insert_of_find?_eq_some h, if_neg (Option.some_ne_none i), List.append_nil]
    exact map_modify_of_fixed (f := Cluster.marks) (g := (·.merge x)) (fun _ => rfl) d.clusters i

end Discovery

namespace Buckets

variable {b : Buckets} {n : Nat} {h : Hue} {i p : Nat}

structure Fits (b : Buckets) (n : Nat) : Prop where
  lt : ∀ h, ∀ i ∈ b.members h, i < n
  nodup : ∀ h, (b.members h).Nodup
  unique : ∀ {h h' i}, i ∈ b.members h → i ∈ b.members h' → h = h'

theorem fits_empty (n : Nat) : empty.Fits n where
  lt _ _ hi := absurd hi List.not_mem_nil
  nodup _ := List.nodup_nil
  unique hi := absurd hi List.not_mem_nil

theorem Fits.mono {m : Nat} (hfits : b.Fits n) (hle : n ≤ m) : b.Fits m :=
  { hfits with lt := fun h i hi => Nat.lt_of_lt_of_le (hfits.lt h i hi) hle }

theorem fits_classify (margin : Nat) (d : Discovery) : (classify margin d).2.Fits d.size where
  lt h i hi := by
    obtain ⟨k, hk, -⟩ := mem_indicesOf.mp hi
    obtain ⟨hlt, -⟩ := List.getElem?_eq_some_iff.mp hk
    rwa [List.length_map] at hlt
  nodup h := (pairwise_indicesOf _ h).imp Nat.ne_of_lt
  unique {h h' i} hi hi' := by
    obtain ⟨k, hk, hfam⟩ := mem_indicesOf.mp hi
    obtain ⟨k', hk', hfam'⟩ := mem_indicesOf.mp hi'
    obtain rfl : k = k' := Option.some.inj (hk.symm.trans hk')
    exact Option.some.inj (hfam.symm.trans hfam')

theorem Fits.sortByLevel (hfits : b.Fits n) (d : Discovery) : (b.sortByLevel d).Fits n where
  lt h i hi := hfits.lt h i ((perm_members_sortByLevel d b h).mem_iff.mp hi)
  nodup h := (perm_members_sortByLevel d b h).nodup_iff.mpr (hfits.nodup h)
  unique {h h' _} hi hi' := hfits.unique ((perm_members_sortByLevel d b h).mem_iff.mp hi)
    ((perm_members_sortByLevel d b h').mem_iff.mp hi')

theorem Fits.existsUnique_place (hfits : b.Fits n) (hi : i ∈ b.members h) :
    ∃! q : Hue × Nat, (b.members q.1)[q.2]? = some i := by
  refine ⟨(h, (b.members h).idxOf i), List.getElem?_idxOf hi, ?_⟩
  rintro ⟨h', p⟩ hp
  dsimp only at hp
  obtain rfl : h' = h := hfits.unique (List.mem_of_getElem? hp) hi
  obtain ⟨hlt, rfl⟩ := List.getElem?_eq_some_iff.mp hp
  rw [(hfits.nodup h').idxOf_getElem]

theorem Fits.getElem?_associate (hfits : b.Fits n) (d : Discovery)
    (hp : (b.members h)[p]? = some i) :
    (b.associate d).clusters[i]? = d.clusters[i]?.map (give (Palette.color? h p)) := by
  obtain ⟨hlt, hget⟩ := List.getElem?_eq_some_iff.mp hp
  have hidx : (b.members h).idxOf i = p := by
    rw [← hget, (hfits.nodup h).idxOf_getElem]
  have hmem := List.mem_of_getElem? hp
  rw [Buckets.getElem?_associate hfits.nodup d hmem fun h' hi' => hfits.unique hi' hmem, hidx]

theorem Fits.exists_reference_associate (hfits : b.Fits n) {d : Discovery} {k : Cluster}
    (hk : d.clusters[i]? = some k) :
    ∃ r, (b.associate d).clusters[i]? = some { k with reference := r } ∧
      (∀ h p c, (b.members h)[p]? = some i → Palette.color? h p = some c → r = some c) ∧
      ((∀ h p, (b.members h)[p]? = some i → Palette.color? h p = none) → r = k.reference) := by
  by_cases hplace : ∃ (h : Hue) (p : Nat), (b.members h)[p]? = some i
  · obtain ⟨h, p, hp⟩ := hplace
    have honly (h' : Hue) (p' : Nat) (hp' : (b.members h')[p']? = some i) : h' = h ∧ p' = p := by
      have heq : (h', p') = (h, p) :=
        (hfits.existsUnique_place (List.mem_of_getElem? hp)).unique hp' hp
      exact Prod.mk.inj heq
    have hgive := hfits.getElem?_associate d hp
    rw [hk, Option.map_some] at hgive
    refine ⟨(give (Palette.color? h p) k).reference, ?_, ?_, ?_⟩
    · rw [hgive]
      cases Palette.color? h p <;> rfl
    · intro h' p' c hp' hc
      obtain ⟨rfl, rfl⟩ := honly h' p' hp'
      rw [hc]
      rfl
    · intro hnone
      rw [hnone h p hp]
      rfl
  · refine ⟨k.reference, ?_, fun h p c hp => absurd ⟨h, p, hp⟩ hplace, fun _ => rfl⟩
    have hi (h : Hue) : i ∉ b.members h := fun hi =>
      hplace ⟨h, (b.members h).idxOf i, List.getElem?_idxOf hi⟩
    rw [associate, getElem?_associateAll_of_not_mem hfits.nodup fun h _ => hi h]
    exact hk

theorem agrees_associate (b : Buckets) (d : Discovery) : (b.associate d).Agrees d :=
  ⟨rfl, map_associate (fun _ _ => rfl) b d⟩

end Buckets

structure Workbench where
  discovery : Discovery
  buckets : Buckets

namespace Workbench

inductive Action where
  | insert (sample : Color)
  | classify (margin : Nat)
  | sortByLevel
  | associate

def Action.samples : Action → List Color
  | .insert x => [x]
  | _ => []

def empty (tolerance : Nat) : Workbench :=
  ⟨.empty tolerance, .empty⟩

def step (w : Workbench) : Action → Workbench × List Nat
  | .insert x => ({ w with discovery := (w.discovery.insert x).1 }, [(w.discovery.insert x).2])
  | .classify margin =>
    (⟨(Buckets.classify margin w.discovery).1, (Buckets.classify margin w.discovery).2⟩, [])
  | .sortByLevel => ({ w with buckets := w.buckets.sortByLevel w.discovery }, [])
  | .associate => ({ w with discovery := w.buckets.associate w.discovery }, [])

def run (w : Workbench) : List Action → Workbench × List Nat
  | [] => (w, [])
  | a :: rest =>
    let (next, is) := w.step a
    let (last, js) := next.run rest
    (last, is ++ js)

variable {w : Workbench} {d₀ : Discovery}

theorem agrees_step (h : w.discovery.Agrees d₀) (a : Action) :
    (w.step a).1.discovery.Agrees (d₀.insertAll a.samples).1 ∧
      (w.step a).2 = (d₀.insertAll a.samples).2 := by
  cases a with
  | insert x => exact ⟨h.insert x, congrArg ([·]) (h.index_insert_eq x)⟩
  | classify margin => exact ⟨(Discovery.agrees_classify margin w.discovery).trans h, rfl⟩
  | sortByLevel => exact ⟨h, rfl⟩
  | associate => exact ⟨(Buckets.agrees_associate w.buckets w.discovery).trans h, rfl⟩

theorem agrees_run (h : w.discovery.Agrees d₀) (actions : List Action) :
    (w.run actions).1.discovery.Agrees (d₀.insertAll (actions.flatMap Action.samples)).1 ∧
      (w.run actions).2 = (d₀.insertAll (actions.flatMap Action.samples)).2 := by
  -- the plain scan takes a step only where the action brings a sample
  induction actions generalizing w d₀ with
  | nil => exact ⟨h, rfl⟩
  | cons a rest ih =>
    obtain ⟨hnext, hindices⟩ := agrees_step h a
    obtain ⟨hlast, hrest⟩ := ih hnext
    rw [List.flatMap_cons, Discovery.insertAll_append]
    exact ⟨hlast, congrArg₂ (· ++ ·) hindices hrest⟩

theorem fits_step (h : w.buckets.Fits w.discovery.size) (a : Action) :
    (w.step a).1.buckets.Fits (w.step a).1.discovery.size := by
  cases a with
  | insert x =>
    refine h.mono (?_ : w.discovery.size ≤ (w.discovery.insert x).1.size)
    rcases Discovery.insert_joins_or_appends w.discovery x with ⟨-, hsize⟩ | ⟨-, hsize⟩ <;> omega
  | classify margin =>
    refine (Buckets.fits_classify margin w.discovery).mono (Nat.le_of_eq ?_)
    exact (Discovery.agrees_classify margin w.discovery).size_eq.symm
  | sortByLevel => exact h.sortByLevel w.discovery
  | associate =>
    exact h.mono (Nat.le_of_eq (Buckets.length_associate w.buckets w.discovery).symm)

theorem fits_run (h : w.buckets.Fits w.discovery.size) (actions : List Action) :
    (w.run actions).1.buckets.Fits (w.run actions).1.discovery.size := by
  induction actions generalizing w with
  | nil => exact h
  | cons a rest ih => exact ih (fits_step h a)

theorem annotating_keeps_clustering (t : Nat) (actions : List Action) :
    let w := ((empty t).run actions).1
    let scan := (Discovery.empty t).insertAll (actions.flatMap Action.samples)
    (w.discovery.clusters.map (·.average) = scan.1.clusters.map (·.average) ∧
      w.discovery.clusters.map (·.weight) = scan.1.clusters.map (·.weight) ∧
      w.discovery.size = scan.1.size ∧ ((empty t).run actions).2 = scan.2 ∧
      ∀ x, w.discovery.find? x = scan.1.find? x) ∧
    (∀ h, ∀ i ∈ w.buckets.members h,
      i < w.discovery.size ∧ ∃! q : Hue × Nat, (w.buckets.members q.1)[q.2]? = some i) ∧
    (∀ x, (w.discovery.insert x).1.clusters.map Cluster.marks =
      w.discovery.clusters.map Cluster.marks ++
        if w.discovery.find? x = none then [(none, 0, none)] else []) ∧
    (w.buckets.associate w.discovery).size = w.discovery.size ∧
    ∀ (i : Nat) (k : Cluster), w.discovery.clusters[i]? = some k →
      ∃ r, (w.buckets.associate w.discovery).clusters[i]? = some { k with reference := r } ∧
        (∀ h p c, (w.buckets.members h)[p]? = some i → Palette.color? h p = some c →
          r = some c) ∧
        ((∀ h p, (w.buckets.members h)[p]? = some i → Palette.color? h p = none) →
          r = k.reference) := by
  intro w scan
  have hstart : (empty t).discovery.Agrees (Discovery.empty t) := .refl _
  obtain ⟨hagree, hindices⟩ := agrees_run hstart actions
  have hfits : w.buckets.Fits w.discovery.size := fits_run (Buckets.fits_empty _) actions
  refine ⟨⟨hagree.averages, hagree.weights, hagree.size_eq, hindices, hagree.find?_eq⟩, ?_,
    Discovery.map_marks_insert w.discovery, Buckets.length_associate _ _, ?_⟩
  · exact fun h i hi => ⟨hfits.lt h i hi, hfits.existsUnique_place hi⟩
  · exact fun i k hk => hfits.exists_reference_associate hk

-- The buckets do not know the cluster that came after them.
example :
    ((empty 10).run [.insert Palette.black, .classify 10, .insert Palette.white,
      .associate]).1.discovery.clusters.map Cluster.marks =
      [(some .black, 0, some Palette.black), (none, 0, none)] := by decide

end Workbench

end PaletteSnap
