import Mathlib.Data.List.Nodup
import PaletteSnap.Proofs.Assignment

namespace PaletteSnap

namespace Band

variable {channel : Color → UInt8} {cs cs' : List Color} {c : Color} {t : Nat}

def values (channel : Color → UInt8) (cs : List Color) : List Nat :=
  cs.map fun c => (channel c).toNat

def hull (channel : Color → UInt8) (cs : List Color) : Band :=
  ⟨(values channel cs).min?.getD 0, (values channel cs).max?.getD 0⟩

theorem values_eq_nil_iff : values channel cs = [] ↔ cs = [] :=
  List.map_eq_nil_iff

theorem min?_eq_low (channel : Color → UInt8) (hne : cs ≠ []) :
    (values channel cs).min? = some (hull channel cs).low := by
  cases h : (values channel cs).min? with
  | none => exact absurd (values_eq_nil_iff.mp (List.min?_eq_none_iff.mp h)) hne
  | some n => rw [hull, h, Option.getD_some]

theorem max?_eq_high (channel : Color → UInt8) (hne : cs ≠ []) :
    (values channel cs).max? = some (hull channel cs).high := by
  cases h : (values channel cs).max? with
  | none => exact absurd (values_eq_nil_iff.mp (List.max?_eq_none_iff.mp h)) hne
  | some n => rw [hull, h, Option.getD_some]

theorem holds_hull (hc : c ∈ cs) : (hull channel cs).Holds (channel c) := by
  have hne : cs ≠ [] := List.ne_nil_of_mem hc
  have hmem : (channel c).toNat ∈ values channel cs := List.mem_map_of_mem hc
  obtain ⟨-, hlow⟩ := List.min?_eq_some_iff.mp (min?_eq_low channel hne)
  obtain ⟨-, hhigh⟩ := List.max?_eq_some_iff.mp (max?_eq_high channel hne)
  exact ⟨hlow _ hmem, hhigh _ hmem⟩

theorem exists_ends (channel : Color → UInt8) (hne : cs ≠ []) :
    ∃ c ∈ cs, ∃ c' ∈ cs, (channel c).toNat = (hull channel cs).low ∧
      (channel c').toNat = (hull channel cs).high := by
  obtain ⟨hlow, -⟩ := List.min?_eq_some_iff.mp (min?_eq_low channel hne)
  obtain ⟨hhigh, -⟩ := List.max?_eq_some_iff.mp (max?_eq_high channel hne)
  obtain ⟨c, hc, hclow⟩ := List.mem_map.mp hlow
  obtain ⟨c', hc', hchigh⟩ := List.mem_map.mp hhigh
  exact ⟨c, hc, c', hc', hclow, hchigh⟩

theorem narrow_hull (hne : cs ≠ [])
    (h : ∀ c ∈ cs, ∀ c' ∈ cs, channelGap (channel c) (channel c') ≤ t) :
    (hull channel cs).Narrow t := by
  obtain ⟨c, hc, c', hc', hlow, hhigh⟩ := exists_ends channel hne
  have hgap := h c hc c' hc'
  simp only [channelGap] at hgap
  simp only [Narrow]
  omega

theorem apart_hull (hne : cs ≠ []) (hne' : cs' ≠ []) (hcs : (hull channel cs).Narrow t)
    (hcs' : (hull channel cs').Narrow t)
    (h : ∀ c ∈ cs, ∀ c' ∈ cs', t < channelGap (channel c) (channel c')) :
    (hull channel cs).Apart t (hull channel cs') := by
  obtain ⟨a, ha, b, hb, halow, hbhigh⟩ := exists_ends channel hne
  obtain ⟨a', ha', b', hb', halow', hbhigh'⟩ := exists_ends channel hne'
  -- two gaps decide the side: a narrow band cannot reach from below the other one to above it
  have hgap := h b hb a' ha'
  have hgap' := h a ha b' hb'
  simp only [channelGap] at hgap hgap'
  simp only [Narrow] at hcs hcs'
  simp only [Apart]
  omega

end Band

namespace Box

def hull (cs : List Color) : Box :=
  ⟨.hull Color.red cs, .hull Color.green cs, .hull Color.blue cs⟩

variable {cs cs' : List Color} {c : Color} {t : Nat}

theorem holds_hull (hc : c ∈ cs) : (hull cs).Holds c :=
  ⟨Band.holds_hull hc, Band.holds_hull hc, Band.holds_hull hc⟩

theorem narrow_hull (hne : cs ≠ []) (h : ∀ c ∈ cs, ∀ c' ∈ cs, Color.Near t c c') :
    (hull cs).Narrow t :=
  ⟨Band.narrow_hull hne fun c hc c' hc' => (h c hc c' hc').1,
    Band.narrow_hull hne fun c hc c' hc' => (h c hc c' hc').2.1,
    Band.narrow_hull hne fun c hc c' hc' => (h c hc c' hc').2.2⟩

theorem apart_hull (hne : cs ≠ []) (hne' : cs' ≠ []) (hcs : (hull cs).Narrow t)
    (hcs' : (hull cs').Narrow t) {channel : Color → UInt8}
    (hch : channel ∈ [Color.red, Color.green, Color.blue])
    (h : ∀ c ∈ cs, ∀ c' ∈ cs', t < channelGap (channel c) (channel c')) :
    (hull cs).Apart t (hull cs') := by
  obtain ⟨hr, hg, hb⟩ := hcs
  obtain ⟨hr', hg', hb'⟩ := hcs'
  simp only [List.mem_cons, List.not_mem_nil, or_false] at hch
  rcases hch with rfl | rfl | rfl
  · exact .inl (Band.apart_hull hne hne' hr hr' h)
  · exact .inr (.inl (Band.apart_hull hne hne' hg hg' h))
  · exact .inr (.inr (Band.apart_hull hne hne' hb hb' h))

end Box

structure WellLabelled {α : Type*} (tolerance : Nat) (samples : List (α × Color)) : Prop where
  near : ∀ p ∈ samples, ∀ q ∈ samples, p.1 = q.1 → Color.Near tolerance p.2 q.2
  apart : ∀ a b : α, a ≠ b → ∃ channel ∈ [Color.red, Color.green, Color.blue],
    ∀ p ∈ samples, ∀ q ∈ samples, p.1 = a → q.1 = b →
      tolerance < channelGap (channel p.2) (channel q.2)

theorem wellLabelled_self (cs : List Color) : WellLabelled 0 (cs.map fun c => (c, c)) := by
  constructor
  · simp only [List.forall_mem_map]
    rintro c - c' - rfl
    exact Color.near_self 0 c
  · intro a b hab
    simp only [List.forall_mem_map, Nat.pos_iff_ne_zero, ne_eq, channelGap_eq_zero_iff]
    have hne (channel : Color → UInt8) (hch : channel a ≠ channel b) :
        ∀ c ∈ cs, ∀ c' ∈ cs, c = a → c' = b → ¬ channel c = channel c' := by
      rintro c - c' - rfl rfl
      exact hch
    rcases Color.exists_channel_ne hab with h | h | h
    · exact ⟨Color.red, by simp, hne _ h⟩
    · exact ⟨Color.green, by simp, hne _ h⟩
    · exact ⟨Color.blue, by simp, hne _ h⟩

section

variable {α : Type*} [DecidableEq α] {t : Nat} {samples : List (α × Color)} {a : α} {c : Color}

theorem idxOf_eraseDups_append {as : List α} (ha : a ∈ as) (bs : List α) :
    (as ++ bs).eraseDups.idxOf a = as.eraseDups.idxOf a := by
  rw [List.eraseDups_append, List.idxOf_append_of_mem (List.mem_eraseDups.mpr ha)]

theorem idxOf_eraseDups_take {as : List α} {n : Nat} (ha : as[n]? = some a) :
    (as.take n ++ [a]).eraseDups.idxOf a = as.eraseDups.idxOf a := by
  have hsplit : (as.take n ++ [a]) ++ as.drop (n + 1) = as := by
    rw [← Option.toList_some, ← ha, ← List.take_add_one, List.take_append_drop]
  rw [← idxOf_eraseDups_append (by simp) (as.drop (n + 1)), hsplit]

def samplesOf (samples : List (α × Color)) (a : α) : List Color :=
  (samples.filter (·.1 = a)).map Prod.snd

theorem mem_samplesOf : c ∈ samplesOf samples a ↔ (a, c) ∈ samples := by
  simp [samplesOf]

theorem samplesOf_ne_nil (ha : a ∈ samples.map Prod.fst) : samplesOf samples a ≠ [] := by
  obtain ⟨p, hp, rfl⟩ := List.mem_map.mp ha
  exact List.ne_nil_of_mem (mem_samplesOf.mpr hp)

theorem holds_hull_samplesOf (samples : List (α × Color)) : ∀ s ∈ samples,
    s.1 ∈ samples.map Prod.fst ∧ (Box.hull (samplesOf samples s.1)).Holds s.2 :=
  fun _ hs => ⟨List.mem_map_of_mem hs, Box.holds_hull (mem_samplesOf.mpr hs)⟩

theorem WellLabelled.separated (h : WellLabelled t samples) :
    Separated t (fun a => Box.hull (samplesOf samples a)) (samples.map Prod.fst) := by
  have hnarrow (a : α) (ha : a ∈ samples.map Prod.fst) :
      (Box.hull (samplesOf samples a)).Narrow t :=
    Box.narrow_hull (samplesOf_ne_nil ha) fun c hc c' hc' =>
      h.near _ (mem_samplesOf.mp hc) _ (mem_samplesOf.mp hc') rfl
  refine ⟨hnarrow, fun a ha b hb hab => ?_⟩
  obtain ⟨channel, hch, hfar⟩ := h.apart a b hab
  refine Box.apart_hull (samplesOf_ne_nil ha) (samplesOf_ne_nil hb) (hnarrow a ha) (hnarrow b hb)
    hch fun c hc c' hc' => ?_
  exact hfar _ (mem_samplesOf.mp hc) _ (mem_samplesOf.mp hc') rfl rfl

namespace Discovery

variable {box : α → Box} {labels seen : List α} {d : Discovery} {x : Color}

theorem Tracks.map_clusters {β : Type*} {f : Cluster → β} {g : α → β} (ht : Tracks box seen d)
    (hfg : ∀ a ∈ seen, ∀ k : Cluster, (box a).Holds k.average → k.weight.toNat = seen.count a →
      f k = g a) :
    d.clusters.map f = seen.eraseDups.map g := by
  have hsize : d.clusters.length = seen.eraseDups.length := ht.size
  refine List.ext_getElem (by simp [hsize]) fun j hj hj' => ?_
  rw [List.length_map] at hj hj'
  obtain ⟨hheld, hweight⟩ :=
    ht.held j _ _ (List.getElem?_eq_getElem hj') (List.getElem?_eq_getElem hj)
  have hmem : seen.eraseDups[j] ∈ seen := List.mem_eraseDups.mp (List.getElem_mem hj')
  rw [List.getElem_map, List.getElem_map]
  exact hfg _ hmem _ hheld hweight

theorem Tracks.index_insert (ht : Tracks box seen d) (hsep : Separated d.tolerance box labels)
    (hseen : seen ⊆ labels) (ha : a ∈ labels) (hx : (box a).Holds x) :
    (d.insert x).2 = (seen ++ [a]).eraseDups.idxOf a := by
  by_cases hmem : a ∈ seen
  · rw [insert_of_find?_eq_some (ht.find?_of_mem hsep hseen hmem hx), idxOf_eraseDups_append hmem]
  · have hnew : a ∉ seen.eraseDups := fun h => hmem (List.mem_eraseDups.mp h)
    rw [insert_of_find?_eq_none (ht.find?_of_not_mem hsep hseen ha hmem hx), ht.size,
      eraseDups_concat, if_neg hmem, List.idxOf_append_of_notMem hnew, List.idxOf_cons_self,
      Nat.add_zero]

theorem indices_of_separated (hsep : Separated t box labels) (samples : List (α × Color))
    (hlabels : ∀ s ∈ samples, s.1 ∈ labels ∧ (box s.1).Holds s.2)
    (hn : samples.length < 2 ^ 56) :
    ((empty t).insertAll (samples.map Prod.snd)).2 =
      (samples.map Prod.fst).map (samples.map Prod.fst).eraseDups.idxOf := by
  refine List.ext_getElem? fun n => ?_
  rw [List.getElem?_map, List.getElem?_map]
  cases hs : samples[n]? with
  | none =>
    have hlen : ((empty t).insertAll (samples.map Prod.snd)).2.length ≤ n := by
      rw [length_insertAll_snd, List.length_map]
      exact List.getElem?_eq_none_iff.mp hs
    rw [List.getElem?_eq_none hlen]
    rfl
  | some s =>
    have ha : (samples.map Prod.fst)[n]? = some s.1 := by rw [List.getElem?_map, hs]; rfl
    have hx : (samples.map Prod.snd)[n]? = some s.2 := by rw [List.getElem?_map, hs]; rfl
    have hbefore (p : α × Color) (hp : p ∈ samples.take n) := hlabels p (List.mem_of_mem_take hp)
    have hseen : (samples.take n).map Prod.fst ⊆ labels := by
      intro b hb
      obtain ⟨p, hp, rfl⟩ := List.mem_map.mp hb
      exact (hbefore p hp).1
    have ht := tracks_ofSamples hsep _ hbefore (by rw [List.length_take]; omega)
    obtain ⟨hlabel, hheld⟩ := hlabels s (List.mem_of_getElem? hs)
    have hindex := ht.index_insert (by rwa [tolerance_ofSamples]) hseen hlabel hheld
    rw [List.map_take, List.map_take, idxOf_eraseDups_take ha] at hindex
    rw [getElem?_indices _ hx, ← ofSamples_eq_insertAll, hindex]
    rfl

theorem received_of_wellLabelled (h : WellLabelled t samples) (hn : samples.length < 2 ^ 56)
    (a : α) :
    (empty t).received ((samples.map Prod.fst).eraseDups.idxOf a) (samples.map Prod.snd) =
      samplesOf samples a := by
  have hindices := indices_of_separated h.separated samples (holds_hull_samplesOf samples) hn
  have hrank (s : α × Color) (hs : s ∈ samples) :
      (samples.map Prod.fst).eraseDups.idxOf s.1 = (samples.map Prod.fst).eraseDups.idxOf a ↔
        s.1 = a :=
    List.idxOf_inj (List.mem_eraseDups.mpr (List.mem_map_of_mem hs))
  rw [received, hindices, List.map_map, List.zip_map', List.filter_map, List.map_map, samplesOf]
  refine congrArg (List.map Prod.snd) (List.filter_congr fun s hs => ?_)
  simp [hrank s hs]

theorem clusters_of_zero (cs : List Color) (hn : cs.length < 2 ^ 56) :
    (ofSamples 0 cs).clusters.map (fun k => (k.average, k.weight.toNat)) =
      cs.eraseDups.map fun c => (c, cs.count c) := by
  have h := wellLabelled_self cs
  have ht := tracks_ofSamples h.separated _ (holds_hull_samplesOf _) (by simpa using hn)
  simp only [List.map_map, Function.comp_def, List.map_id'] at ht
  refine ht.map_clusters fun c hc k hheld hweight => ?_
  have hbox : (Box.hull (samplesOf (cs.map fun c => (c, c)) c)).Holds c :=
    Box.holds_hull (mem_samplesOf.mpr (by simpa using hc))
  have hnear := (h.separated.narrow c (by simpa using hc)).near hheld hbox
  rw [Color.near_zero_iff.mp hnear, hweight]

theorem separated_labels_are_found (h : WellLabelled t samples) (hn : samples.length < 2 ^ 56) :
    let labels := samples.map Prod.fst
    let colors := samples.map Prod.snd
    let rank := labels.eraseDups.idxOf
    (ofSamples t colors).clusters.map (·.weight.toNat) = labels.eraseDups.map labels.count ∧
      ((empty t).insertAll colors).2 = labels.map rank ∧
      (∀ a, (empty t).received (rank a) colors = samplesOf samples a) ∧
      (∀ s ∈ samples, (ofSamples t colors).find? s.2 = some (rank s.1)) ∧
      (ofSamples 0 colors).clusters.map (fun k => (k.average, k.weight.toNat)) =
        colors.eraseDups.map fun c => (c, colors.count c) := by
  intro labels colors rank
  have hheld := holds_hull_samplesOf samples
  have ht : Tracks (fun a => Box.hull (samplesOf samples a)) labels (ofSamples t colors) :=
    tracks_ofSamples h.separated samples hheld hn
  have hsep : Separated (ofSamples t colors).tolerance
      (fun a => Box.hull (samplesOf samples a)) labels := by
    rw [tolerance_ofSamples]
    exact h.separated
  refine ⟨ht.map_clusters fun _ _ _ _ hweight => hweight,
    indices_of_separated h.separated samples hheld hn, received_of_wellLabelled h hn, ?_,
    clusters_of_zero colors (by simpa [colors] using hn)⟩
  intro s hs
  obtain ⟨hlabel, hbox⟩ := hheld s hs
  exact ht.find?_of_mem hsep (List.Subset.refl _) hlabel hbox

-- Two groups in turn, each with samples that are the whole tolerance apart.
def interleaved : List (Bool × Color) :=
  [(true, ⟨200, 10, 4⟩), (false, ⟨90, 14, 4⟩), (true, ⟨190, 20, 0⟩), (false, ⟨100, 4, 9⟩),
    (true, ⟨195, 15, 10⟩)]

theorem separated_labels_interleaved :
    WellLabelled 10 interleaved ∧ interleaved.length < 2 ^ 56 ∧
      ((empty 10).insertAll (interleaved.map Prod.snd)).2 = [0, 1, 0, 1, 0] ∧
      (ofSamples 10 (interleaved.map Prod.snd)).find? ⟨195, 15, 10⟩ = some 0 := by
  have h : WellLabelled 10 interleaved := ⟨by decide, by decide⟩
  have hn : interleaved.length < 2 ^ 56 := by decide
  obtain ⟨-, hindices, -, hfind, -⟩ := separated_labels_are_found h hn
  exact ⟨h, hn, hindices, hfind (true, ⟨195, 15, 10⟩) (by decide)⟩

end Discovery

end

end PaletteSnap
