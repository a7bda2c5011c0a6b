import Mathlib
import Marginalia.Proofs.Orders
import Marginalia.Proofs.Site.Operations

/-!
The order of a timeline and the way from slugs to posts. A scan sorts the posts it finds and refuses two of one slug,
so its timeline ascends strictly, and it puts down the place of each slug at the same time. No later change touches
slugs, dates or places. So at any time the posts stand newest first, and a slug leads to the one post that has it.
-/

namespace Marginalia

open scoped Orders

namespace Slug

/-- Lower case letters, digits, hyphens and low lines, with a letter or digit at both ends. -/
def Proper (t : Text) : Prop :=
  t ≠ [] ∧ (∀ c ∈ t, 'a' ≤ c ∧ c ≤ 'z' ∨ '0' ≤ c ∧ c ≤ '9' ∨ c = '-' ∨ c = '_') ∧
    ∀ c, t.head? = some c ∨ t.getLast? = some c → c ≠ '-' ∧ c ≠ '_'

theorem isSlugOctet_iff {c : UInt8} :
    isSlugOctet c = true ↔ 'a' ≤ c ∧ c ≤ 'z' ∨ '0' ≤ c ∧ c ≤ '9' ∨ c = '-' ∨ c = '_' := by
  simp only [isSlugOctet, Text.isLower, Text.isDigit, Bool.or_eq_true, Bool.and_eq_true, decide_eq_true_eq, beq_iff_eq,
    or_assoc]

theorem any_isEdge_eq_false_iff {o : Option UInt8} :
    o.any isEdge = false ↔ ∀ c, o = some c → c ≠ '-' ∧ c ≠ '_' := by
  cases o with
  | none => simp
  | some d => simp [isEdge]

theorem isSlug_iff {t : Text} : isSlug t = true ↔ Proper t := by
  simp only [isSlug, Bool.and_eq_true, Bool.not_eq_true', List.isEmpty_eq_false_iff, List.all_eq_true, isSlugOctet_iff,
    any_isEdge_eq_false_iff, Proper, and_assoc]
  refine and_congr_right fun _ => and_congr_right fun _ => ⟨fun h c hc => ?_, fun h => ?_⟩
  · exact hc.elim (h.1 c) (h.2 c)
  · exact ⟨fun c hc => h c (Or.inl hc), fun c hc => h c (Or.inr hc)⟩

end Slug

/-! ### Places of names -/

/-- Among distinct names a name is looked up at the place where it stands. -/
theorem lookup_zipIdx {names : List Text} (h : names.Nodup) (name : Text) (start k : Nat) :
    (names.zipIdx start).lookup name = some k ↔ ∃ j, k = start + j ∧ names[j]? = some name := by
  induction names generalizing start with
  | nil => simp
  | cons n names ih =>
    obtain ⟨hnew, hrest⟩ := List.nodup_cons.mp h
    rw [List.zipIdx_cons, List.lookup_cons]
    rcases eq_or_ne name n with rfl | hne
    · -- The name stands here, and nowhere behind.
      simp only [beq_self_eq_true, Option.some.injEq]
      constructor
      · rintro rfl
        exact ⟨0, rfl, rfl⟩
      · rintro ⟨j, rfl, hj⟩
        cases j with
        | zero => rfl
        | succ j =>
          rw [List.getElem?_cons_succ] at hj
          exact absurd (List.mem_of_getElem? hj) hnew
    · rw [beq_eq_false_iff_ne.mpr hne, ih hrest]
      constructor
      · rintro ⟨j, rfl, hj⟩
        exact ⟨j + 1, by omega, hj⟩
      · rintro ⟨j, rfl, hj⟩
        cases j with
        | zero => exact absurd (Option.some.inj hj).symm hne
        | succ j => exact ⟨j, by omega, hj⟩

theorem Post.Changes.slug_date {p q : Post} (h : p.Changes q) : q.slug = p.slug ∧ q.date = p.date := by
  cases h <;> exact ⟨rfl, rfl⟩

namespace Site

variable {s : Site} {posts posts' : List Post} {places : List (Text × Nat)} {p q : Post}

theorem slugPlacesOf_eq (posts : List Post) : slugPlacesOf posts = (posts.map (·.slug)).zipIdx := by
  rw [slugPlacesOf, List.zipIdx_map]
  rfl

/-! ### The order of posts -/

/-- What posts are ordered by: first the later date, then the slug. -/
def rank (p : Post) : (Int ×ₗ Nat)ᵒᵈ ×ₗ Text := toLex (OrderDual.toDual p.date.instant, p.slug)

theorem postOrder_compares (a b : Post) : (postOrder a b).Compares (rank a) (rank b) :=
  compares_then (x := (OrderDual.toDual a.date.instant, a.slug)) (y := (OrderDual.toDual b.date.instant, b.slug))
    (toDual_compares_toDual.mpr (Moment.order_compares b.date a.date)) (Text.order_compares a.slug b.slug)

/-- The first post comes strictly before the second: it is newer, or as old and first by slug. -/
def Before (a b : Post) : Prop :=
  b.date.order a.date = .lt ∨ b.date.order a.date = .eq ∧ Text.order a.slug b.slug = .lt

theorem before_iff {a b : Post} : Before a b ↔ postOrder a b = .lt := by
  unfold Before postOrder
  cases b.date.order a.date <;> simp [Ordering.then]

theorem before_of_le {a b : Post} (h : (postOrder a b != .gt) = true) (hslug : a.slug ≠ b.slug) : Before a b := by
  have hle := (postOrder_compares a b).ne_gt.mp (bne_iff_ne.mp h)
  refine before_iff.mpr ((postOrder_compares a b).eq_lt.mpr (lt_of_le_of_ne hle fun heq => hslug ?_))
  exact congrArg (fun r => (ofLex r).2) heq

theorem pairwise_sortPosts (posts : List Post) :
    (sortPosts posts).Pairwise fun a b => (postOrder a b != .gt) = true := by
  have hle : ∀ a b : Post, (postOrder a b != .gt) = true ↔ rank a ≤ rank b := fun a b => by
    rw [bne_iff_ne]
    exact (postOrder_compares a b).ne_gt
  refine List.pairwise_mergeSort (fun a b c hab hbc => ?_) (fun a b => ?_) posts
  · exact (hle a c).mpr (((hle a b).mp hab).trans ((hle b c).mp hbc))
  · rw [Bool.or_eq_true, hle, hle]
    exact le_total _ _

/-- The timeline that is found is the sorted list of the posts that were read. -/
theorem timelineOf_eq_ok {tree : File.Tree} {root : Text} (h : timelineOf tree root = .ok posts) :
    ∃ found, readPosts tree root = .ok found ∧ posts = sortPosts found := by
  unfold timelineOf at h
  split at h
  · cases h
  rename_i found hfound
  simp only at h
  split at h
  · cases h
  · exact ⟨found, hfound, (Except.ok.inj h).symm⟩

theorem timelineOf_ordered {tree : File.Tree} {root : Text} (h : timelineOf tree root = .ok posts) :
    posts.Pairwise Before := by
  have hslugs : posts.Pairwise fun a b => a.slug ≠ b.slug := List.pairwise_map.mp (timelineOf_fresh h).2
  obtain ⟨found, -, rfl⟩ := timelineOf_eq_ok h
  exact ((pairwise_sortPosts found).and hslugs).imp fun ⟨hle, hne⟩ => before_of_le hle hne

/-! ### At any time -/

/-- Posts in strict order, with proper slugs of which no two are the same, and with the places of these slugs. -/
structure Ordered (posts : List Post) (places : List (Text × Nat)) : Prop where
  ascends : posts.Pairwise Before
  proper : ∀ p ∈ posts, Slug.Proper p.slug
  distinct : (posts.map (·.slug)).Nodup
  placed : places = (posts.map (·.slug)).zipIdx

theorem slugs_of_changes (h : List.Forall₂ Post.Changes posts posts') :
    posts'.map (·.slug) = posts.map (·.slug) := by
  induction h with
  | nil => rfl
  | cons hchange _ ih => rw [List.map_cons, List.map_cons, ih, hchange.slug_date.1]

theorem pairwise_of_changes (h : List.Forall₂ Post.Changes posts posts') (hposts : posts.Pairwise Before) :
    posts'.Pairwise Before := by
  induction h with
  | nil => exact .nil
  | @cons p q posts posts' hchange hrest ih =>
    obtain ⟨hfirst, hlater⟩ := List.pairwise_cons.mp hposts
    refine .cons (fun b hb => ?_) (ih hlater)
    obtain ⟨a, ha, hab⟩ := exists_of_mem_right hrest hb
    obtain ⟨hslug, hdate⟩ := hchange.slug_date
    obtain ⟨hslug', hdate'⟩ := hab.slug_date
    have hbefore := hfirst a ha
    rw [Before] at hbefore ⊢
    rwa [hslug, hdate, hslug', hdate']

theorem ordered_law : TimelineLaw Ordered where
  nil := ⟨.nil, fun _ hp => (nomatch hp), List.nodup_nil, rfl⟩
  found h := by
    obtain ⟨hfresh, hdistinct⟩ := timelineOf_fresh h
    exact ⟨timelineOf_ordered h, fun p hp => Slug.isSlug_iff.mp (hfresh p hp).slug, hdistinct, slugPlacesOf_eq _⟩
  changed {posts posts' places} hposts hchanges := by
    have hslugs := slugs_of_changes hchanges
    refine ⟨pairwise_of_changes hchanges hposts.ascends, fun q hq => ?_, hslugs ▸ hposts.distinct,
      hslugs ▸ hposts.placed⟩
    obtain ⟨p, hp, hchange⟩ := exists_of_mem_right hchanges hq
    exact hchange.slug_date.1 ▸ hposts.proper p hp

namespace Ordered

theorem eq_of_slug (h : Ordered posts places) (hp : p ∈ posts) (hq : q ∈ posts) (hslug : p.slug = q.slug) : p = q :=
  List.inj_on_of_nodup_map h.distinct hp hq hslug

theorem post?_eq_some_iff (h : Ordered s.timeline s.slugPlaces) (slug : Text) :
    s.post? slug = some p ↔ p ∈ s.timeline ∧ p.slug = slug := by
  rw [post?, h.placed, Option.bind_eq_some_iff]
  simp only [lookup_zipIdx h.distinct, Nat.zero_add, exists_eq_left', List.getElem?_map, Option.map_eq_some_iff]
  constructor
  · rintro ⟨place, ⟨q, hq, hslug⟩, hp⟩
    obtain rfl := Option.some.inj (hq.symm.trans hp)
    exact ⟨List.mem_of_getElem? hp, hslug⟩
  · rintro ⟨hp, hslug⟩
    obtain ⟨place, hplace⟩ := List.mem_iff_getElem?.mp hp
    exact ⟨place, ⟨p, hplace, hslug⟩, hplace⟩

end Ordered

/-- The timeline of a site is sound: strictly sorted, newest first, under distinct proper slugs, and looking up a slug
gives the one post that has it, or nothing if none has. -/
structure TimelineSound (s : Site) : Prop where
  ascends : s.timeline.Pairwise Before
  proper : ∀ p ∈ s.timeline, Slug.Proper p.slug
  distinct : (s.timeline.map (·.slug)).Nodup
  unique : ∀ p ∈ s.timeline, ∀ q ∈ s.timeline, p.slug = q.slug → p = q
  found : ∀ slug p, s.post? slug = some p ↔ p ∈ s.timeline ∧ p.slug = slug
  missing : ∀ slug, s.post? slug = none ↔ ∀ p ∈ s.timeline, p.slug ≠ slug

theorem Ordered.sound (h : Ordered s.timeline s.slugPlaces) : TimelineSound s where
  ascends := h.ascends
  proper := h.proper
  distinct := h.distinct
  unique := fun _ hp _ hq => h.eq_of_slug hp hq
  found := fun slug _ => h.post?_eq_some_iff slug
  missing := fun slug => by
    simp only [Option.eq_none_iff_forall_ne_some, ne_eq, h.post?_eq_some_iff, not_and]

/-- Whatever is done with a site, with or without the handlers for comments, and whether it succeeds or fails: its
timeline is strictly sorted under distinct proper slugs, and slugs lead to exactly its posts. -/
theorem reached_timeline_sound (config : Config) (tree : File.Tree) (ops : List Operation) :
    TimelineSound (reached config tree ops) ∧ TimelineSound (ops.foldl perform (plain config tree)) :=
  ⟨(ordered_law.reached config tree ops).sound, (ordered_law.performs ordered_law.nil ops).sound⟩

end Site

end Marginalia
