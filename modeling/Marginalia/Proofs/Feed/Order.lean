import Mathlib
import Marginalia.Proofs.Feed.Links

/-!
The order of a feed. Its comments come newest first, those of one instant by id and those of one id by the slug of the
post. A limit only cuts the feed off, so that no comment that is left out is newer than one that is shown, and the date of
the feed is that of the newest comment of all. Where slugs differ, and ids within each post, the comparison leaves nothing
open: however the posts and their comments come, and whichever way they are sorted, the feed is the same.
-/

namespace Marginalia

open scoped Orders

namespace FeedEntry

variable {a b : FeedEntry}

/-- What entries are ordered by: first the later date, then the id, then the slug. -/
def rank (e : FeedEntry) : (Int ×ₗ Nat)ᵒᵈ ×ₗ Text ×ₗ Text :=
  toLex (OrderDual.toDual e.comment.date.instant, toLex (e.comment.id, e.post.slug))

theorem order_compares (a b : FeedEntry) : (a.order b).Compares a.rank b.rank := by
  have hdate := toDual_compares_toDual.mpr (Moment.order_compares b.comment.date a.comment.date)
  have hnames := compares_then (x := (a.comment.id, a.post.slug)) (y := (b.comment.id, b.post.slug))
    (Text.order_compares a.comment.id b.comment.id) (Text.order_compares a.post.slug b.post.slug)
  exact compares_then (x := (OrderDual.toDual a.comment.date.instant, _))
    (y := (OrderDual.toDual b.comment.date.instant, _)) hdate hnames

theorem le_iff : a.le b = true ↔ a.rank ≤ b.rank := by
  rw [le, bne_iff_ne]
  exact (order_compares a b).ne_gt

/-- The first entry may stand before the second: it is newer, or of the same instant and its id comes first, or of the
same id too and its slug does not come later. -/
def Precedes (a b : FeedEntry) : Prop :=
  b.comment.date.order a.comment.date = .lt ∨ b.comment.date.order a.comment.date = .eq ∧
    (Text.order a.comment.id b.comment.id = .lt ∨
      a.comment.id = b.comment.id ∧ Text.order a.post.slug b.post.slug ≠ .gt)

theorem le_iff_precedes : a.le b = true ↔ Precedes a b := by
  have hid : a.comment.id = b.comment.id ↔ Text.order a.comment.id b.comment.id = .eq :=
    (Text.order_compares a.comment.id b.comment.id).eq_eq.symm
  rw [le, order, Precedes, hid, bne_iff_ne]
  cases b.comment.date.order a.comment.date <;> cases Text.order a.comment.id b.comment.id <;> simp

end FeedEntry

namespace Feed

variable {config : Config} {posts posts' : List Post} {limit : Int} {es es' : List FeedEntry}

/-! ### Ways of sorting -/

/-- The comments of posts in an order that agrees with the comparison of entries. Where two of them are alike to it, it
leaves open which comes first. -/
structure Arranged (posts : List Post) (es : List FeedEntry) : Prop where
  perm : es.Perm (entries posts)
  ascends : es.Pairwise fun a b => a.le b = true

theorem arranged_mergeSort (posts : List Post) : Arranged posts ((entries posts).mergeSort FeedEntry.le) := by
  refine ⟨List.mergeSort_perm _ _, List.pairwise_mergeSort (fun a b c hab hbc => ?_) (fun a b => ?_) _⟩
  · rw [FeedEntry.le_iff] at hab hbc ⊢
    exact hab.trans hbc
  · rw [Bool.or_eq_true, FeedEntry.le_iff, FeedEntry.le_iff]
    exact le_total _ _

/-- The feed of posts, with the comments in an order of their own. -/
def rearranged (config : Config) (posts : List Post) (es : List FeedEntry) (limit : Int) : Feed :=
  let chosen := if 0 < limit then es.take limit.toNat else es
  { ofPosts config posts limit with
    created := chosen.head?.map (·.comment.date)
    items := chosen.map (item config) }

theorem ofPosts_eq_rearranged (config : Config) (posts : List Post) :
    ofPosts config posts = rearranged config posts ((entries posts).mergeSort FeedEntry.le) := rfl

/-! ### Newest first -/

/-- How feeds of posts show their comments, under any limit: in order; all of them, or the first of these if there is a
limit, and none that is left out is newer; and with the date of the newest of all, if any is shown. -/
structure NewestFirst (config : Config) (posts : List Post) (feed : Int → Feed) : Prop where
  sorted : ∀ limit, ∃ es : List FeedEntry, (∀ e ∈ es, e.post ∈ posts ∧ e.comment ∈ e.post.comments.getD []) ∧
    es.Pairwise FeedEntry.Precedes ∧ (feed limit).items = es.map (item config)
  complete : ∀ limit ≤ 0,
    (feed limit).items.Perm (posts.flatMap fun p => (p.comments.getD []).map fun c => item config ⟨p, c⟩)
  limited : ∀ limit > 0, ∀ all ≤ 0,
    (feed limit).items = (feed all).items.take (min limit.toNat (posts.map Post.commentCount).sum)
  omitted : ∀ limit > 0, ∀ all ≤ 0, ∀ i ∈ (feed limit).items,
    ∀ j ∈ (feed all).items.drop (min limit.toNat (posts.map Post.commentCount).sum), j.created.order i.created ≠ .gt
  created : ∀ limit, (feed limit).items ≠ [] → ∃ date, (feed limit).created = some date ∧
    (∃ p ∈ posts, ∃ c ∈ p.comments.getD [], c.date = date) ∧
    ∀ p ∈ posts, ∀ c ∈ p.comments.getD [], c.date.order date ≠ .gt

theorem Arranged.length_eq (h : Arranged posts es) : es.length = (posts.map Post.commentCount).sum := by
  rw [h.perm.length_eq, length_entries]

theorem Arranged.mem_iff (h : Arranged posts es) {e : FeedEntry} :
    e ∈ es ↔ e.post ∈ posts ∧ e.comment ∈ e.post.comments.getD [] := by
  rw [h.perm.mem_iff, mem_entries]

theorem Arranged.take_eq (h : Arranged posts es) (n : Nat) :
    es.take n = es.take (min n (posts.map Post.commentCount).sum) := by
  rw [← h.length_eq, List.take_eq_take_iff]
  simp

/-- What may stand later is not newer. -/
theorem date_of_le {a b : FeedEntry} (h : a.le b = true) : b.comment.date.order a.comment.date ≠ .gt := by
  rcases FeedEntry.le_iff_precedes.mp h with hdate | ⟨hdate, -⟩ <;> simp [hdate]

theorem items_of_limit (hlimit : 0 < limit) :
    (rearranged config posts es limit).items = (es.take limit.toNat).map (item config) := by
  simp [rearranged, hlimit]

theorem items_of_no_limit (hlimit : limit ≤ 0) : (rearranged config posts es limit).items = es.map (item config) := by
  simp [rearranged, Int.not_lt.mpr hlimit]

/-- The date of a feed with items is that of the first comment, whatever the limit. -/
theorem exists_head_of_items (h : (rearranged config posts es limit).items ≠ []) :
    ∃ e rest, es = e :: rest ∧ (rearranged config posts es limit).created = some e.comment.date := by
  cases es with
  | nil => simp [rearranged] at h
  | cons e rest =>
    refine ⟨e, rest, rfl, ?_⟩
    rcases lt_or_ge 0 limit with hlimit | hlimit
    · obtain ⟨n, hn⟩ : ∃ n, limit.toNat = n + 1 := ⟨limit.toNat - 1, by omega⟩
      simp [rearranged, hlimit, hn]
    · simp [rearranged, Int.not_lt.mpr hlimit]

theorem Arranged.newestFirst (h : Arranged posts es) (config : Config) :
    NewestFirst config posts (rearranged config posts es) where
  sorted limit := by
    obtain ⟨chosen, hsub, hitems⟩ : ∃ chosen : List FeedEntry, chosen.Sublist es ∧
        (rearranged config posts es limit).items = chosen.map (item config) := by
      rcases lt_or_ge 0 limit with hlimit | hlimit
      · exact ⟨_, List.take_sublist _ _, items_of_limit hlimit⟩
      · exact ⟨_, List.Sublist.refl _, items_of_no_limit hlimit⟩
    refine ⟨chosen, fun e he => h.mem_iff.mp (hsub.subset he), ?_, hitems⟩
    exact (h.ascends.sublist hsub).imp FeedEntry.le_iff_precedes.mp
  complete limit hlimit := by
    rw [items_of_no_limit hlimit]
    simpa [entries, List.map_flatMap, Function.comp_def] using h.perm.map (item config)
  limited limit hlimit all hall := by
    rw [items_of_limit hlimit, items_of_no_limit hall, h.take_eq, List.map_take]
  omitted limit hlimit all hall i hi j hj := by
    rw [items_of_limit hlimit, h.take_eq] at hi
    rw [items_of_no_limit hall, ← List.map_drop] at hj
    obtain ⟨a, ha, rfl⟩ := List.mem_map.mp hi
    obtain ⟨b, hb, rfl⟩ := List.mem_map.mp hj
    have hcut := h.ascends
    rw [← List.take_append_drop (min limit.toNat (posts.map Post.commentCount).sum) es] at hcut
    exact date_of_le ((List.pairwise_append.mp hcut).2.2 a ha b hb)
  created limit hitems := by
    obtain ⟨e, rest, rfl, hcreated⟩ := exists_head_of_items hitems
    obtain ⟨hpost, hcomment⟩ := h.mem_iff.mp List.mem_cons_self
    refine ⟨_, hcreated, ⟨e.post, hpost, e.comment, hcomment, rfl⟩, fun p hp c hc => ?_⟩
    have hmem : (⟨p, c⟩ : FeedEntry) ∈ e :: rest := h.mem_iff.mpr ⟨hp, hc⟩
    rcases List.mem_cons.mp hmem with rfl | hmem
    · simp [Moment.order]
    · exact date_of_le ((List.pairwise_cons.mp h.ascends).1 _ hmem)

/-- Under any configuration and limit, the feed of posts shows their comments newest first, and so does a feed for which
they are sorted in another way. -/
theorem feeds_newest_first (config : Config) (posts : List Post) :
    NewestFirst config posts (ofPosts config posts) ∧
    ∀ es, Arranged posts es → NewestFirst config posts (rearranged config posts es) :=
  ⟨(arranged_mergeSort posts).newestFirst config, fun _ h => h.newestFirst config⟩

/-! ### One order only -/

/-- The second post is the first with its comments in another order. -/
structure Shuffled (p q : Post) : Prop where
  same : q = { p with comments := q.comments }
  comments : (p.comments.getD []).Perm (q.comments.getD [])

/-- An entry without the other comments of its post, of which its item shows nothing. -/
def bare (e : FeedEntry) : FeedEntry := { e with post := { e.post with comments := none } }

theorem Shuffled.bare_eq {p q : Post} (h : Shuffled p q) (c : ThreadedComment) : bare ⟨q, c⟩ = bare ⟨p, c⟩ := by
  rw [h.same]
  rfl

theorem perm_bare_of_shuffled {shuffled : List Post} (h : List.Forall₂ Shuffled posts shuffled) :
    ((entries shuffled).map bare).Perm ((entries posts).map bare) := by
  induction h with
  | nil => exact .nil
  | @cons p q posts shuffled hpq _ ih =>
    have hfirst : (((q.comments.getD []).map fun c => FeedEntry.mk q c).map bare).Perm
        (((p.comments.getD []).map fun c => FeedEntry.mk p c).map bare) := by
      simp only [List.map_map, Function.comp_def, hpq.bare_eq]
      exact (hpq.comments.map _).symm
    simpa [entries] using hfirst.append ih

theorem Arranged.ascends_bare (h : Arranged posts es) : (es.map bare).Pairwise fun a b => a.le b = true :=
  List.pairwise_map.mpr (h.ascends.imp id)

/-- Entries that the comparison puts in both orders have the same slug and id. -/
theorem key_eq_of_le {a b : FeedEntry} (hab : a.le b = true) (hba : b.le a = true) : key a = key b := by
  have hrank := le_antisymm (FeedEntry.le_iff.mp hab) (FeedEntry.le_iff.mp hba)
  have hnames : (a.comment.id, a.post.slug) = (b.comment.id, b.post.slug) := congrArg (fun r => ofLex (ofLex r).2) hrank
  exact Prod.ext (congrArg Prod.snd hnames) (congrArg Prod.fst hnames)

theorem rearranged_eq_of_bare (h : es'.map bare = es.map bare) (config : Config) (limit : Int) :
    rearranged config posts' es' limit = rearranged config posts es limit := by
  have hitems : es'.map (item config) = es.map (item config) := by
    have hmap := congrArg (List.map (item config)) h
    rw [List.map_map, List.map_map] at hmap
    exact hmap
  have hdates : es'.map (·.comment.date) = es.map (·.comment.date) := by
    have hmap := congrArg (List.map (·.comment.date)) h
    rw [List.map_map, List.map_map] at hmap
    exact hmap
  simp only [rearranged, ofPosts, Feed.mk.injEq, true_and]
  split
  · simp [← List.head?_map, List.map_take, hitems, hdates]
  · simp [← List.head?_map, hitems, hdates]

/-- Neither the order of posts with different slugs, nor that of their comments with different ids, nor the way in which
they are sorted changes the feed. -/
theorem feed_order_irrelevant {shuffled : List Post} (hslugs : (posts.map (·.slug)).Nodup)
    (hids : ∀ p ∈ posts, ((p.comments.getD []).map (·.id)).Nodup) (hshuffled : List.Forall₂ Shuffled posts shuffled)
    (hperm : shuffled.Perm posts') (hes : Arranged posts' es) (config : Config) (limit : Int) :
    rearranged config posts' es limit = ofPosts config posts limit := by
  have hsorted := arranged_mergeSort posts
  have hbare : ((entries posts').map bare).Perm ((entries posts).map bare) :=
    ((hperm.symm.flatMap_right _).map bare).trans (perm_bare_of_shuffled hshuffled)
  have hkeys : (((entries posts).map bare).map key).Nodup := by
    rw [List.map_map]
    exact nodup_keys_entries hslugs hids
  rw [ofPosts_eq_rearranged]
  refine rearranged_eq_of_bare ?_ config limit
  -- The keys differ, so the comparison never leaves open which of two entries comes first.
  refine List.Perm.eq_of_pairwise ?_ hes.ascends_bare hsorted.ascends_bare
    ((hes.perm.map bare).trans (hbare.trans (hsorted.perm.map bare).symm))
  intro a b ha hb hab hba
  have ha' := ((hes.perm.map bare).trans hbare).mem_iff.mp ha
  have hb' := (hsorted.perm.map bare).mem_iff.mp hb
  exact List.inj_on_of_nodup_map hkeys ha' hb' (key_eq_of_le hab hba)

/-- Two comments of one id and one instant, told by clocks of different zones. -/
def twin (offset : Int) : ThreadedComment := { id := "x", date := ⟨0, 0, offset⟩ }

def newer : ThreadedComment := { id := "w", date := ⟨1, 0, 0⟩ }

def postOf (slug : Text) (comments : List ThreadedComment) : Post :=
  { sourcePath := slug, title := slug, slug, comments := some comments }

/-- A post with two comments, and one with the twin of the first of these. -/
def twins : List Post := [postOf "a" [twin 7200, newer], postOf "b" [twin 0]]

def swappedTwins : List Post := [postOf "b" [twin 0], postOf "a" [newer, twin 7200]]

def sortedTwins : List FeedEntry :=
  [⟨postOf "a" [newer, twin 7200], newer⟩, ⟨postOf "a" [newer, twin 7200], twin 7200⟩, ⟨postOf "b" [twin 0], twin 0⟩]

/-- The limit leaves the same of the twins out whichever stands first. -/
theorem twins_order_irrelevant :
    (twins.map (·.slug)).Nodup ∧ (∀ p ∈ twins, ((p.comments.getD []).map (·.id)).Nodup) ∧
    List.Forall₂ Shuffled twins swappedTwins.reverse ∧ swappedTwins.reverse.Perm swappedTwins ∧
    Arranged swappedTwins sortedTwins ∧ rearranged {} swappedTwins sortedTwins 2 = ofPosts {} twins 2 := by
  have hslugs : (twins.map (·.slug)).Nodup := by decide
  have hids : ∀ p ∈ twins, ((p.comments.getD []).map (·.id)).Nodup := by decide
  have hshuffled : List.Forall₂ Shuffled twins swappedTwins.reverse :=
    .cons ⟨rfl, .swap _ _ _⟩ (.cons ⟨rfl, .refl _⟩ .nil)
  have hperm : swappedTwins.reverse.Perm swappedTwins := List.reverse_perm swappedTwins
  have hes : Arranged swappedTwins sortedTwins := ⟨by decide, by decide⟩
  exact ⟨hslugs, hids, hshuffled, hperm, hes, feed_order_irrelevant hslugs hids hshuffled hperm hes {} 2⟩

end Feed

end Marginalia
