import Mathlib
import Marginalia.Feed
import Marginalia.Proofs.Preview.Agreement

/-!
The links of a feed. A link is the address of the site, the slug of a post and the id of a comment, one behind the
other, and an id may hold any octets, those that stand between the parts included. A slug has no slash, so the first
slash behind it ends it, and the parts can be read back. Slugs differ within a timeline and ids within a post, so no
two items of a feed have the same link.
-/

namespace Marginalia

namespace Feed

/-- The slug and the id that a link of the site with an address names. -/
def target? (siteUrl link : Text) : Option (Text × Text) := do
  let path ← Text.after? link siteUrl
  let rest ← Text.after? path "/posts/"
  let (slug, behind) := Text.span (· != '/') rest
  let id ← Text.after? behind "/#comment-"
  return (slug, id)

/-- The link to the comment with an id, on the page of the post with a slug. -/
def address (siteUrl slug id : Text) : Text := siteUrl ++ "/posts/" ++ slug ++ "/#comment-" ++ id

-- The id may look like the end of a link itself.
example : target? "https://x/posts/a" "https://x/posts/a/posts/b_c/#comment-/#comment-#/" =
    some (Text.ofString "b_c", Text.ofString "/#comment-#/") := by
  decide

theorem span_slug {slug : Text} (hslug : ∀ c ∈ slug, (c != '/') = true) (rest : Text) :
    Text.span (· != '/') (slug ++ ("/#comment-" ++ rest)) = (slug, "/#comment-" ++ rest) := by
  rw [Text.span, List.takeWhile_append_of_pos hslug, List.dropWhile_append_of_pos hslug]
  exact Prod.ext (List.append_nil slug) rfl

theorem target?_address {siteUrl slug id : Text} (hslug : ∀ c ∈ slug, (c != '/') = true) :
    target? siteUrl (address siteUrl slug id) = some (slug, id) := by
  simp only [target?, address, List.append_assoc, Text.after?_append, span_slug hslug, Option.bind_eq_bind,
    Option.bind_some, Option.pure_def]

theorem item_link (config : Config) (e : FeedEntry) :
    (item config e).link = address config.siteUrl e.post.slug e.comment.id := by
  simp only [item, address, Post.url, ThreadedComment.anchor, List.append_assoc]
  rfl

/-! ### The entries of a feed -/

variable {posts : List Post} {limit : Int} {e : FeedEntry}

theorem mem_entries : e ∈ entries posts ↔ e.post ∈ posts ∧ e.comment ∈ e.post.comments.getD [] := by
  simp only [entries, List.mem_flatMap, List.mem_map]
  constructor
  · rintro ⟨p, hp, c, hc, rfl⟩
    exact ⟨hp, hc⟩
  · rintro ⟨hp, hc⟩
    exact ⟨e.post, hp, e.comment, hc, rfl⟩

theorem length_entries (posts : List Post) : (entries posts).length = (posts.map Post.commentCount).sum := by
  simp only [entries, List.length_flatMap, List.length_map]
  rfl

theorem selected_sublist (posts : List Post) (limit : Int) :
    (selected posts limit).Sublist ((entries posts).mergeSort FeedEntry.le) := by
  unfold selected
  split
  · exact List.take_sublist _ _
  · exact List.Sublist.refl _

theorem mem_of_selected (h : e ∈ selected posts limit) : e.post ∈ posts ∧ e.comment ∈ e.post.comments.getD [] :=
  mem_entries.mp (List.mem_mergeSort.mp ((selected_sublist posts limit).subset h))

theorem length_selected (posts : List Post) (limit : Int) : (selected posts limit).length =
    if 0 < limit then min limit.toNat (entries posts).length else (entries posts).length := by
  unfold selected
  split <;> simp only [List.length_take, List.length_mergeSort]

/-- The slug and the id of an entry, by which it is told from all others. -/
def key (e : FeedEntry) : Text × Text := (e.post.slug, e.comment.id)

/-- Where slugs differ among posts, and ids among the comments of each, no two entries have both in common. -/
theorem nodup_keys_entries (hslugs : (posts.map (·.slug)).Nodup)
    (hids : ∀ p ∈ posts, ((p.comments.getD []).map (·.id)).Nodup) : ((entries posts).map key).Nodup := by
  have hkeys : (entries posts).map key =
      posts.flatMap fun p => (p.comments.getD []).map fun c => (p.slug, c.id) := by
    simp only [entries, List.map_flatMap, List.map_map]
    rfl
  rw [hkeys, List.nodup_flatMap]
  constructor
  · intro p hp
    have hpair := (hids p hp).map (Prod.mk_right_injective p.slug)
    rwa [List.map_map] at hpair
  · refine (List.pairwise_map.mp hslugs).imp fun {p q} hne => ?_
    rintro ⟨slug, id⟩ hp hq
    obtain ⟨_, -, hc⟩ := List.mem_map.mp hp
    obtain ⟨_, -, hd⟩ := List.mem_map.mp hq
    exact hne ((congrArg Prod.fst hc).trans (congrArg Prod.fst hd).symm)

theorem selected_keys_nodup (hslugs : (posts.map (·.slug)).Nodup)
    (hids : ∀ p ∈ posts, ((p.comments.getD []).map (·.id)).Nodup) (limit : Int) :
    ((selected posts limit).map key).Nodup := by
  have hsorted := (List.mergeSort_perm (entries posts) FeedEntry.le).map key
  exact (hsorted.nodup_iff.mpr (nodup_keys_entries hslugs hids)).sublist ((selected_sublist posts limit).map key)

/-! ### The items of a feed -/

/-- The items of a feed of posts under an address: their ids are their links, and differ. A link names a post and a
comment of it, and from the link and the address these two names can be read. Only a limit leaves comments out. -/
structure Addressed (siteUrl : Text) (posts : List Post) (limit : Int) (items : List FeedItem) : Prop where
  distinct : (items.map (·.id)).Nodup
  linked : ∀ i ∈ items, i.id = i.link ∧ ∃ p ∈ posts, ∃ c ∈ p.comments.getD [],
    i.link = siteUrl ++ "/posts/" ++ p.slug ++ "/#comment-" ++ c.id ∧ target? siteUrl i.link = some (p.slug, c.id)
  count : items.length = if 0 < limit then min limit.toNat (posts.map Post.commentCount).sum
    else (posts.map Post.commentCount).sum

theorem ofPosts_addressed (hproper : ∀ p ∈ posts, ∀ c ∈ p.slug, (c != '/') = true)
    (hslugs : (posts.map (·.slug)).Nodup) (hids : ∀ p ∈ posts, ((p.comments.getD []).map (·.id)).Nodup)
    (config : Config) (limit : Int) :
    Addressed config.siteUrl posts limit (ofPosts config posts limit).items := by
  have hread : ∀ e ∈ selected posts limit, target? config.siteUrl (item config e).link = some (key e) :=
    fun e he => item_link config e ▸ target?_address (hproper e.post (mem_of_selected he).1)
  refine ⟨?_, ?_, ?_⟩
  · -- Reading the ids gives the keys of the entries, and these differ.
    have hkeys : ((ofPosts config posts limit).items.map (·.id)).map (target? config.siteUrl) =
        ((selected posts limit).map key).map some := by
      rw [ofPosts, List.map_map, List.map_map, List.map_map]
      exact List.map_congr_left hread
    refine List.Nodup.of_map (target? config.siteUrl) ?_
    rw [hkeys]
    exact (selected_keys_nodup hslugs hids limit).map (Option.some_injective _)
  · intro i hi
    obtain ⟨e, he, rfl⟩ := List.mem_map.mp hi
    obtain ⟨hpost, hcomment⟩ := mem_of_selected he
    exact ⟨rfl, e.post, hpost, e.comment, hcomment, item_link config e, hread e he⟩
  · simp only [ofPosts, List.length_map, length_selected, length_entries]

end Feed

namespace Slug

theorem Proper.no_slash {t : Text} (h : Proper t) : ∀ c ∈ t, (c != '/') = true := by
  intro c hc
  rw [bne_iff_ne]
  rintro rfl
  exact absurd (h.2.1 _ hc) (by decide)

end Slug

namespace Site

theorem ThreadsWellFormed.ids_nodup {posts : List Post} (h : ThreadsWellFormed posts) :
    ∀ p ∈ posts, ((p.comments.getD []).map (·.id)).Nodup := by
  intro p hp
  cases hcomments : p.comments with
  | none => exact List.nodup_nil
  | some ts => exact (h p hp ts hcomments).distinct

/-- Whatever is done with a site, the items of a feed of its timeline, under any address and limit, differ in their
links, and each link leads back to one post and one comment. -/
theorem reached_feed_addressed (config : Config) (tree : File.Tree) (ops : List Operation) (shown : Config)
    (limit : Int) :
    Feed.Addressed shown.siteUrl (reached config tree ops).timeline limit
      (Feed.ofPosts shown (reached config tree ops).timeline limit).items := by
  have hordered := ordered_law.reached config tree ops
  have hthreads := threadsWellFormed_law.reached config tree ops
  exact Feed.ofPosts_addressed (fun p hp => (hordered.proper p hp).no_slash) hordered.distinct
    hthreads.ids_nodup shown limit

end Site

end Marginalia
