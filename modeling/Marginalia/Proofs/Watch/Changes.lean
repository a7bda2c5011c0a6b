import Mathlib
import Marginalia.Proofs.Watch.Launch

/-!
What has become of files between two looks, taken for deeds that somebody did one after another. They can be done, they lead
to the files as they are now, and those who watch a directory are told of whatever has changed in it.
-/

namespace Marginalia

namespace Watch

open File (Tree Place Node)

variable {before after t u : Tree} {p q dir : Place} {name : Text} {d : Deed}

/-! ### Deeds in order -/

namespace Deed

/-- The files after deeds in order, if each of them can be done. -/
def performAll? (t : Tree) (ds : List Deed) : Option Tree := ds.foldlM perform? t

theorem performAll?_cons_eq_some {ds : List Deed} :
    performAll? t (d :: ds) = some u ↔ ∃ t', d.perform? t = some t' ∧ performAll? t' ds = some u := by
  rw [performAll?, List.foldlM_cons]
  exact Option.bind_eq_some_iff

theorem performAll?_append_eq_some {ds es : List Deed} :
    performAll? t (ds ++ es) = some u ↔ ∃ t', performAll? t ds = some t' ∧ performAll? t' es = some u := by
  rw [performAll?, List.foldlM_append]
  exact Option.bind_eq_some_iff

/-! ### Places that are freed -/

/-- The deed that frees a place. -/
def freeing (t : Tree) (p : Place) : Deed := if t.get? p == some .dir then rmdir p else unlink p

theorem removeEach_eq (t : Tree) (places : List Place) :
    removeEach t places = (places.mergeSort fun p q => q.length ≤ p.length).map (freeing t) := rfl

/-- A place below which there is nothing can be freed. -/
theorem perform_freeing (hp : p ≠ []) (hkind : u.get? p = t.get? p) (hthere : t.get? p ≠ none)
    (hleaf : ∀ q, p <+: q → u.get? q ≠ none → q = p) : (freeing t p).perform? u = some (u.erase p) := by
  rw [freeing]
  split
  · rename_i hdir
    rw [beq_iff_eq, ← hkind] at hdir
    have hempty : u.names p = [] := by
      refine List.eq_nil_iff_forall_not_mem.mpr fun n hn => ?_
      rw [Tree.mem_names, Option.isSome_iff_ne_none] at hn
      simpa using hleaf _ (List.prefix_append _ _) hn
    simp [perform?, hp, hdir, hempty]
  · rename_i hdir
    rw [beq_iff_eq, ← hkind] at hdir
    rw [← hkind] at hthere
    simp [perform?, hdir, hthere]

/-- Places with all that is below them can be freed if the deepest come first. -/
theorem performAll?_freeing {places : List Place} (hsorted : places.Pairwise fun p q => q.length ≤ p.length)
    (hdistinct : places.Nodup) (hplaces : ∀ p ∈ places, p ≠ [] ∧ u.get? p = t.get? p ∧ t.get? p ≠ none)
    (hclosed : ∀ p ∈ places, ∀ q, p <+: q → u.get? q ≠ none → q ∈ places) :
    ∃ v, performAll? u (places.map (freeing t)) = some v ∧ ∀ q, v.get? q = if q ∈ places then none else u.get? q := by
  induction places generalizing u with
  | nil => exact ⟨u, rfl, fun q => by simp⟩
  | cons p places ih =>
    obtain ⟨hfirst, hsorted⟩ := List.pairwise_cons.mp hsorted
    obtain ⟨hnew, hdistinct⟩ := List.nodup_cons.mp hdistinct
    obtain ⟨hp, hkind, hthere⟩ := hplaces p List.mem_cons_self
    have hleaf : ∀ q, p <+: q → u.get? q ≠ none → q = p := by
      intro q hq hnone
      rcases List.mem_cons.mp (hclosed p List.mem_cons_self q hq hnone) with rfl | hmem
      · rfl
      · exact (hq.eq_of_length_le (hfirst q hmem)).symm
    have herase : ∀ q, (u.erase p).get? q = if q = p then none else u.get? q := by
      intro q
      rw [Tree.get?_erase hp]
      by_cases hq : p <+: q
      · rw [if_pos hq]
        split
        · rfl
        · rename_i hqp
          by_contra hnone
          exact hqp (hleaf q hq (Ne.symm hnone))
      · rw [if_neg hq, if_neg (by rintro rfl; exact hq (List.prefix_refl _))]
    have hplaces' : ∀ q ∈ places, q ≠ [] ∧ (u.erase p).get? q = t.get? q ∧ t.get? q ≠ none := by
      intro q hq
      rw [herase, if_neg (by rintro rfl; exact hnew hq)]
      exact hplaces q (List.mem_cons_of_mem _ hq)
    have hclosed' : ∀ q ∈ places, ∀ r, q <+: r → (u.erase p).get? r ≠ none → r ∈ places := by
      intro q hq r hr hnone
      rw [herase] at hnone
      split at hnone
      · exact absurd rfl hnone
      · rename_i hrp
        exact (List.mem_cons.mp (hclosed q (List.mem_cons_of_mem _ hq) r hr hnone)).resolve_left hrp
    obtain ⟨v, hv, hget⟩ := ih hsorted hdistinct hplaces' hclosed'
    refine ⟨v, performAll?_cons_eq_some.mpr ⟨_, perform_freeing hp hkind hthere hleaf, hv⟩, fun q => ?_⟩
    rw [hget, herase]
    by_cases hq : q = p <;> simp [hq]

@[simp] theorem isFreed_nil (before after : Tree) : isFreed before after [] = false := by simp [isFreed]

/-- What is below a place that is freed is freed as well. -/
theorem isFreed_below (hbefore : before.Supported) (hafter : after.Supported) (hp : isFreed before after p = true)
    (hq : p <+: q) (hthere : before.get? q ≠ none) : isFreed before after q = true := by
  rcases eq_or_ne p q with rfl | hne
  · exact hp
  have hdir := hbefore.way hthere hq hne
  have hgone : after.get? q = none := by
    by_contra hnone
    simp [isFreed, hdir, hafter.way hnone hq hne] at hp
  simp [isFreed, hgone]

theorem mem_places_iff (hp : p ≠ []) : p ∈ t.entries.map (·.1) ↔ t.get? p ≠ none := by
  rw [Tree.get?_of_ne_nil hp, ← Option.isSome_iff_ne_none, List.lookup_isSome_iff, List.mem_map]
  exact exists_congr fun e => and_congr_right fun _ => by rw [beq_iff_eq, eq_comm]

theorem performAll?_removeEach (hbefore : before.Supported) (hafter : after.Supported) (hwf : before.WellFormed) :
    ∃ v, performAll? before (removeEach before ((before.entries.map (·.1)).filter (isFreed before after))) = some v ∧
      ∀ q, v.get? q = if isFreed before after q = true then none else before.get? q := by
  rw [removeEach_eq]
  have hsorted := List.pairwise_mergeSort' (fun p q : Place => q.length ≤ p.length)
    ((before.entries.map (·.1)).filter (isFreed before after))
  have hdistinct := (List.mergeSort_perm ((before.entries.map (·.1)).filter (isFreed before after))
    fun p q => q.length ≤ p.length).nodup_iff.mpr (hwf.distinct.filter _)
  have hmem : ∀ q, q ∈ (((before.entries.map (·.1)).filter (isFreed before after)).mergeSort
      fun p q => q.length ≤ p.length) ↔ before.get? q ≠ none ∧ isFreed before after q = true := by
    intro q
    rw [List.mem_mergeSort, List.mem_filter]
    rcases eq_or_ne q [] with rfl | hq
    · simp
    · rw [mem_places_iff hq]
  generalize List.mergeSort _ _ = places at *
  obtain ⟨v, hv, hget⟩ := performAll?_freeing (t := before) (u := before) hsorted hdistinct
    (fun p hp => ⟨by rintro rfl; simp [hmem] at hp, rfl, ((hmem p).mp hp).1⟩)
    (fun p hp q hq hthere => (hmem q).mpr ⟨hthere, isFreed_below hbefore hafter ((hmem p).mp hp).2 hq hthere⟩)
  refine ⟨v, hv, fun q => ?_⟩
  simp only [hget, hmem]
  by_cases hnone : before.get? q = none <;> simp [hnone]

/-! ### Places that are filled -/

/-- A place to which nothing has to come holds what it is to hold. -/
theorem get?_of_no_arrival (hd : arrival? before after p = none)
    (hp : u.get? p = if isFreed before after p = true then none else before.get? p) : u.get? p = after.get? p := by
  cases hnode : after.get? p with
  | none =>
    rw [hp, if_pos (by simp [isFreed, hnode])]
  | some node =>
    rw [arrival?, hnode, Option.bind_some] at hd
    split at hd
    · cases hd
    · rename_i hkept
      rw [Bool.not_eq_true, Bool.or_eq_false_iff] at hkept
      split at hd
      · rename_i hsame
        rw [hp, hkept.2, if_neg Bool.false_ne_true, beq_iff_eq.mp hsame]
      · cases hd

/-- What comes to a place can come to it if its directory is there. -/
theorem perform_arrival (hd : arrival? before after p = some d)
    (hp : u.get? p = if isFreed before after p = true then none else before.get? p)
    (hway : ∀ init n, p = init ++ [n] → u.get? init = some .dir) :
    p ≠ [] ∧ ∃ node, after.get? p = some node ∧ d.perform? u = some (u.put p node) := by
  obtain ⟨node, hnode, hd⟩ := Option.bind_eq_some_iff.mp hd
  split at hd
  · rename_i hmake
    obtain rfl := Option.some.inj hd
    have hne : p ≠ [] := by
      rintro rfl
      simp at hmake
    have hfree : u.get? p = none := by
      rw [hp]
      rcases (Bool.or_eq_true _ _).mp hmake with hnone | hfreed
      · rw [beq_iff_eq.mp hnone, ite_self]
      · rw [if_pos hfreed]
    obtain ⟨init, n, rfl⟩ := (List.eq_nil_or_concat p).resolve_left hne
    rw [List.concat_eq_append] at *
    exact ⟨hne, node, hnode, by simp [perform?, hfree, hway init n rfl]⟩
  · rename_i hkept
    rw [Bool.not_eq_true, Bool.or_eq_false_iff, beq_eq_false_iff_ne] at hkept
    rw [hkept.2, if_neg Bool.false_ne_true] at hp
    split at hd
    · cases hd
    · rename_i hother
      obtain rfl := Option.some.inj hd
      obtain ⟨old, hold⟩ := Option.ne_none_iff_exists'.mp hkept.1
      -- A place that is not freed is a directory in both trees or in neither, and here they differ.
      have hkinds : (old == .dir) = (node == .dir) := by simpa [isFreed, hold, hnode] using hkept.2
      have hold' : old ≠ node := by simpa [hold] using hother
      have hnodir : node ≠ .dir := by
        rintro rfl
        exact hold' (beq_iff_eq.mp hkinds)
      have holddir : old ≠ .dir := by
        rintro rfl
        exact hnodir (beq_iff_eq.mp hkinds.symm)
      refine ⟨?_, node, hnode, by simp [perform?, hp, hold, hnodir, holddir]⟩
      rintro rfl
      exact holddir (Option.some.inj hold).symm

/-- The rest can be made and written if the topmost come first. -/
theorem performAll?_arrival {places : List Place} (hafter : after.Supported)
    (hsorted : places.Pairwise fun p q => p.length ≤ q.length) (hdistinct : places.Nodup)
    (hleft : ∀ q ∈ places, u.get? q = if isFreed before after q = true then none else before.get? q)
    (hdone : ∀ q, q ∉ places → u.get? q = after.get? q) :
    ∃ v, performAll? u (places.filterMap (arrival? before after)) = some v ∧ ∀ q, v.get? q = after.get? q := by
  induction places generalizing u with
  | nil => exact ⟨u, rfl, fun q => hdone q List.not_mem_nil⟩
  | cons p places ih =>
    obtain ⟨hfirst, hsorted⟩ := List.pairwise_cons.mp hsorted
    obtain ⟨hnew, hdistinct⟩ := List.nodup_cons.mp hdistinct
    have hp := hleft p List.mem_cons_self
    have hothers : ∀ q, q ∉ places → q ≠ p → u.get? q = after.get? q := fun q hq hqp =>
      hdone q fun hmem => (List.mem_cons.mp hmem).elim hqp hq
    have hleft' : ∀ q ∈ places, u.get? q = if isFreed before after q = true then none else before.get? q :=
      fun q hq => hleft q (List.mem_cons_of_mem _ hq)
    cases hd : arrival? before after p with
    | none =>
      rw [List.filterMap_cons_none hd]
      refine ih hsorted hdistinct hleft' fun q hq => ?_
      rcases eq_or_ne q p with rfl | hqp
      · exact get?_of_no_arrival hd hp
      · exact hothers q hq hqp
    | some d =>
      -- The directory of the place is further up, so that it holds what it is to hold.
      have hway : ∀ node, after.get? p = some node → ∀ init n, p = init ++ [n] → u.get? init = some .dir := by
        rintro node hnode init n rfl
        rw [hothers init (fun hmem => by have := hfirst init hmem; simp at this) (by simp)]
        exact hafter.stands init n (by rw [hnode]; exact Option.some_ne_none _)
      obtain ⟨node, hnode, -⟩ := Option.bind_eq_some_iff.mp hd
      obtain ⟨hne, node, hnode, hperform⟩ := perform_arrival hd hp (hway node hnode)
      obtain ⟨v, hv, hget⟩ := ih (u := u.put p node) hsorted hdistinct
        (fun q hq => by
          rw [Tree.get?_put hne, if_neg (by rintro rfl; exact hnew hq)]
          exact hleft' q hq)
        (fun q hq => by
          rw [Tree.get?_put hne]
          split
          · rename_i hqp
            rw [hqp, hnode]
          · rename_i hqp
            exact hothers q hq hqp)
      rw [List.filterMap_cons_some hd]
      exact ⟨v, performAll?_cons_eq_some.mpr ⟨_, hperform, hv⟩, hget⟩

/-- What may have been done can be done, and leads to the files as they are now. -/
theorem performAll?_changes (hbefore : before.Supported) (hafter : after.Supported) (hwf : before.WellFormed)
    (hwf' : after.WellFormed) :
    ∃ v, performAll? before (changes before after) = some v ∧ ∀ q, v.get? q = after.get? q := by
  obtain ⟨u, hu, hfreed⟩ := performAll?_removeEach hbefore hafter hwf
  have hdistinct := (List.mergeSort_perm (after.entries.map (·.1)) fun p q => p.length ≤ q.length).nodup_iff.mpr
    hwf'.distinct
  have hdone : ∀ q, q ∉ (after.entries.map (·.1)).mergeSort (fun p q => p.length ≤ q.length) →
      u.get? q = after.get? q := by
    intro q hq
    rw [hfreed]
    rcases eq_or_ne q [] with rfl | hne
    · simp
    · rw [List.mem_mergeSort, mem_places_iff hne, not_not] at hq
      simp [isFreed, hq]
  have hsorted := List.pairwise_mergeSort' (fun p q : Place => p.length ≤ q.length) (after.entries.map (·.1))
  obtain ⟨v, hv, hget⟩ := performAll?_arrival hafter hsorted hdistinct (fun q _ => hfreed q) hdone
  exact ⟨v, performAll?_append_eq_some.mpr ⟨u, hu, hv⟩, hget⟩

/-- What may have been done leaves no name that leads elsewhere, and no place twice. -/
theorem performAll?_wellFormed {ds : List Deed} (hwf : after.WellFormed) (hds : ds ⊆ changes before after)
    (ht : t.WellFormed) (h : performAll? t ds = some u) : u.WellFormed := by
  induction ds generalizing t with
  | nil => exact Option.some.inj h ▸ ht
  | cons d ds ih =>
    obtain ⟨hd, hds⟩ := List.cons_subset.mp hds
    obtain ⟨t', ht', hrest⟩ := performAll?_cons_eq_some.mp h
    refine ih hds ?_ hrest
    rcases List.mem_append.mp hd with hd | hd
    · rw [removeEach_eq] at hd
      obtain ⟨p, -, rfl⟩ := List.mem_map.mp hd
      rw [freeing] at ht'
      split at ht'
      · obtain ⟨-, heq⟩ := Option.ite_none_right_eq_some.mp ht'
        exact Option.some.inj heq ▸ ht.erase p
      · obtain ⟨-, heq⟩ := Option.ite_none_left_eq_some.mp ht'
        exact Option.some.inj heq ▸ ht.erase p
    · obtain ⟨p, hp, hd⟩ := List.mem_filterMap.mp hd
      obtain ⟨e, he, rfl⟩ := List.mem_map.mp (List.mem_mergeSort.mp hp)
      obtain ⟨node, -, hd⟩ := Option.bind_eq_some_iff.mp hd
      split at hd
      · obtain rfl := Option.some.inj hd
        obtain ⟨-, heq⟩ := Option.ite_none_right_eq_some.mp ht'
        exact Option.some.inj heq ▸ ht.put (hwf.names e he) node
      · split at hd
        · cases hd
        · obtain rfl := Option.some.inj hd
          obtain ⟨-, heq⟩ := Option.ite_none_left_eq_some.mp ht'
          exact Option.some.inj heq ▸ ht.put (hwf.names e he) node

/-! ### What is told of them -/

theorem freeing_mem_changes (hthere : before.get? p ≠ none) (hfreed : isFreed before after p = true) :
    freeing before p ∈ changes before after := by
  have hne : p ≠ [] := by
    rintro rfl
    simp at hfreed
  refine List.mem_append_left _ (removeEach_eq _ _ ▸ List.mem_map_of_mem (List.mem_mergeSort.mpr ?_))
  exact List.mem_filter.mpr ⟨(mem_places_iff hne).mpr hthere, hfreed⟩

theorem arrival_mem_changes (hd : arrival? before after p = some d) (hne : p ≠ []) : d ∈ changes before after := by
  obtain ⟨node, hnode, -⟩ := Option.bind_eq_some_iff.mp hd
  refine List.mem_append_right _ (List.mem_filterMap.mpr ⟨p, List.mem_mergeSort.mpr ?_, hd⟩)
  exact (mem_places_iff hne).mpr (by rw [hnode]; exact Option.some_ne_none _)

theorem altered?_of_arrival (hd : arrival? before after p = some d) : d.altered? = some p := by
  obtain ⟨node, -, hd⟩ := Option.bind_eq_some_iff.mp hd
  split at hd
  · rw [← Option.some.inj hd, altered?]
  · split at hd
    · cases hd
    · rw [← Option.some.inj hd, altered?]

theorem told_freeing {watched : List Place} (hname : Path.IsName name) (hshown : isIgnoredName name = false)
    (hdir : dir ∈ watched) : (freeing t (dir ++ [name])).Told watched := by
  rw [freeing]
  split
  · refine ⟨⟨dir ++ [name], { removed := true }⟩, ?_, (Notice.matters_concat rfl hname).mpr hshown⟩
    rw [notices, ofItself]
    split
    · exact List.mem_singleton_self _
    · rw [ofEntry, if_pos (by simp [hdir])]
      exact List.mem_singleton_self _
  · exact (told_iff rfl hname hshown).mpr hdir

/-- Where two trees differ under a name that is not ignored, something is told to those who watch the directory. -/
theorem exists_told (hname : Path.IsName name) (hshown : isIgnoredName name = false)
    (hother : before.get? (dir ++ [name]) ≠ after.get? (dir ++ [name])) :
    ∃ d ∈ changes before after, ∀ watched, dir ∈ watched → d.Told watched := by
  cases hd : arrival? before after (dir ++ [name]) with
  | some d =>
    refine ⟨d, arrival_mem_changes hd (List.concat_ne_nil _ _), fun watched hdir => ?_⟩
    exact (told_iff (altered?_of_arrival hd) hname hshown).mpr hdir
  | none =>
    -- Nothing comes to the place, so that it is freed.
    have hfreed : isFreed before after (dir ++ [name]) = true := by
      by_contra hkept
      refine hother ?_
      exact get?_of_no_arrival hd (by rw [if_neg hkept])
    have hthere : before.get? (dir ++ [name]) ≠ none := by
      intro hnone
      refine hother ?_
      exact get?_of_no_arrival hd (by rw [hnone, ite_self])
    exact ⟨_, freeing_mem_changes hthere hfreed, fun watched hdir => told_freeing hname hshown hdir⟩

/-- A directory that stays is still watched. -/
theorem mem_stillWatched {watched : List Place} (hd : d ∈ changes before after) (hkept : isFreed before after dir = false)
    (hdir : dir ∈ watched) : dir ∈ d.stillWatched watched := by
  rcases List.mem_append.mp hd with hd | hd
  · rw [removeEach_eq] at hd
    obtain ⟨p, hp, rfl⟩ := List.mem_map.mp hd
    have hfreed := (List.mem_filter.mp (List.mem_mergeSort.mp hp)).2
    rw [freeing]
    split
    · refine List.mem_filter.mpr ⟨hdir, bne_iff_ne.mpr ?_⟩
      rintro rfl
      exact Bool.false_ne_true (hkept.symm.trans hfreed)
    · exact hdir
  · obtain ⟨p, -, hp⟩ := List.mem_filterMap.mp hd
    have haltered := altered?_of_arrival hp
    cases d with
    | rmdir _ => cases haltered
    | move _ _ => cases haltered
    | _ => exact hdir

/-- Where the files are as they were, nothing has been done. -/
theorem changes_eq_nil (hsame : ∀ q, after.get? q = before.get? q) : changes before after = [] := by
  have hfree : ∀ p ∈ before.entries.map (·.1), isFreed before after p = false := by
    intro p hp
    rcases eq_or_ne p [] with rfl | hne
    · exact isFreed_nil _ _
    · rw [isFreed, hsame, beq_eq_false_iff_ne.mpr ((mem_places_iff hne).mp hp), bne_self_eq_false]
      rfl
  have harrival : ∀ p, arrival? before after p = none := by
    intro p
    rw [arrival?, hsame]
    cases hnode : before.get? p with
    | none => rfl
    | some node => simp [isFreed, hsame, hnode]
  rw [changes, removeEach_eq, List.filter_eq_nil_iff.mpr fun p hp => by simp [hfree p hp],
    List.filterMap_eq_nil_iff.mpr fun p _ => harrival p, List.mergeSort_nil]
  rfl

end Deed

end Watch

end Marginalia
