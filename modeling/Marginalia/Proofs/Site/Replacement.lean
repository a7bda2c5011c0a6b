import Mathlib
import Marginalia.Proofs.Site.Lifecycle
import Marginalia.Proofs.Site.Timeline

/-!
A scan replaces all posts or none. Until the last file is read and the last slug compared nothing is put down, so a failure
before that leaves the site as it was. After that the posts and the places of their slugs are those just found, and the
handlers of the signal, however far they come, do no more to them than load comments.
-/

namespace Marginalia

open File (Tree)

/-- The second post is the first but for its comments, and if it has comments they were loaded for it, from one of these
trees. -/
structure Post.ReadAs (T : Tree → Prop) (p q : Post) : Prop where
  rest : q = { p with comments := q.comments }
  loaded : ∀ cs, q.comments = some cs → ∃ tree, T tree ∧ p.loadComments tree = .ok cs

namespace Post.ReadAs

variable {T : Tree → Prop} {tree : Tree} {p q : Post} {cs : List ThreadedComment}

theorem fresh (h : p.Fresh) : ReadAs T p p where
  rest := rfl
  loaded cs hcs := by
    rw [h.comments] at hcs
    cases hcs

theorem dropped (h : ReadAs T p q) : ReadAs T p { q with comments := none } where
  rest := by rw [h.rest]
  loaded _ hcs := nomatch hcs

theorem reloaded (h : ReadAs T p q) (hT : T tree) (hload : q.loadComments tree = .ok cs) :
    ReadAs T p { q with comments := some cs } where
  rest := by rw [h.rest]
  loaded cs' hcs := by
    obtain rfl := Option.some.inj hcs
    refine ⟨tree, hT, ?_⟩
    rw [h.rest] at hload
    exact hload

theorem changes (h : ReadAs T p q) : p.Changes q := by
  rw [h.rest]
  cases hcs : q.comments with
  | none => exact .dropped
  | some cs =>
    obtain ⟨tree, -, hload⟩ := h.loaded cs hcs
    exact .loaded rfl hload

end Post.ReadAs

namespace Site

variable {s s' : Site} {tree : Tree} {root : Text} {seen posts found : List Post} {p q : Post} {T : Tree → Prop}
  {x : Except SiteError Unit}

/-! ### Shared slugs -/

theorem sharedSlug?_eq_some (h : sharedSlug? seen posts = some (p, q)) :
    List.Sublist [p, q] (seen ++ posts) ∧ p.slug = q.slug := by
  induction posts generalizing seen with
  | nil => cases h
  | cons r posts ih =>
    unfold sharedSlug? at h
    split at h
    · rename_i other hfind
      obtain ⟨rfl, rfl⟩ := Prod.mk.inj (Option.some.inj h)
      have hmem := List.singleton_sublist.mpr (List.mem_of_find?_eq_some hfind)
      have hslug := List.find?_some hfind
      exact ⟨hmem.append (List.singleton_sublist.mpr List.mem_cons_self), beq_iff_eq.mp hslug⟩
    · rw [List.append_cons]
      exact ih h

theorem sharedSlug?_eq_none_iff : sharedSlug? [] posts = none ↔ (posts.map (·.slug)).Nodup := by
  constructor
  · intro h
    exact nodup_slugs h List.nodup_nil
  · intro hnodup
    by_contra hshared
    obtain ⟨⟨p, q⟩, hshared⟩ := Option.ne_none_iff_exists'.mp hshared
    obtain ⟨hsublist, hslug⟩ := sharedSlug?_eq_some hshared
    have htwo := hnodup.sublist (hsublist.map (·.slug))
    simp [hslug] at htwo

theorem sortPosts_perm (posts : List Post) : (sortPosts posts).Perm posts := List.mergeSort_perm _ _

/-- The posts that were read make a timeline if no two have the same slug. -/
theorem timelineOf_of_readPosts (hread : readPosts tree root = .ok posts) :
    (posts.map (·.slug)).Nodup ∧ timelineOf tree root = .ok (sortPosts posts) ∨
    ¬ (posts.map (·.slug)).Nodup ∧ ∃ p q, List.Sublist [p, q] (sortPosts posts) ∧ p.slug = q.slug ∧
      timelineOf tree root = .error (.sharedSlug p.sourcePath q.sourcePath q.slug) := by
  have hnodup : ((sortPosts posts).map (·.slug)).Nodup ↔ (posts.map (·.slug)).Nodup :=
    ((sortPosts_perm posts).map _).nodup_iff
  rw [← hnodup, ← sharedSlug?_eq_none_iff]
  cases hshared : sharedSlug? [] (sortPosts posts) with
  | none => exact Or.inl ⟨rfl, by simp only [timelineOf, hread, hshared]⟩
  | some r =>
    obtain ⟨p, q⟩ := r
    obtain ⟨hsublist, hslug⟩ := sharedSlug?_eq_some hshared
    exact Or.inr ⟨nofun, p, q, hsublist, hslug, by simp only [timelineOf, hread, hshared]⟩

/-! ### What the handlers of a scan keep -/

theorem Calls.keeps {P : Site → Prop} {hs called : List Handler} {r : Except HandlerError Unit}
    (hcalls : Calls s hs called r s') (hkeeps : ∀ h ∈ hs, Build.Keeps P (Build.handle h)) (hs : P s) : P s' := by
  induction hcalls with
  | done s => exact hs
  | @failed s s' h e behind hrun =>
    have hkept := hkeeps h List.mem_cons_self s hs
    rwa [hrun] at hkept
  | @passed s t s' h more called r hrun _ ih =>
    have hkept := hkeeps h List.mem_cons_self s hs
    rw [hrun] at hkept
    exact ih (fun h hh => hkeeps h (List.mem_cons_of_mem _ hh)) hkept

/-- The site holds the posts that were found and the places of their slugs, and its comments are from one of these trees,
as is what can be loaded now. -/
structure Holds (T : Tree → Prop) (found : List Post) (s : Site) : Prop where
  tree : T s.tree
  posts : List.Forall₂ (Post.ReadAs T) found s.timeline
  places : s.slugPlaces = slugPlacesOf found

theorem holds_loadComments : Build.Keeps (Holds T found) Build.loadComments := by
  intro s hs
  obtain ⟨turns, pool, hturns, hover, hrun⟩ := s.exists_takeTurns
  have htrack : Pool.Tracks (processPost s.config s.tree) s.timeline pool := Pool.Tracks.follow hturns
  have hlength := (htrack.posts_eq hover).2
  rw [hrun]
  refine ⟨hs.tree, List.forall₂_iff_get.mpr ⟨hs.posts.length_eq.trans hlength.symm, fun k hk hk' => ?_⟩, hs.places⟩
  -- The post at a place of the pool has come from the post at that place before.
  have hk'' : k < s.timeline.length := hs.posts.length_eq ▸ hk
  have hold := hs.posts.get hk hk''
  have hend := post_ends htrack hover (List.getElem?_eq_getElem hk'') (List.getElem?_eq_getElem hk')
  simp only [List.get_eq_getElem] at hold ⊢
  rcases hend with ⟨cs, hcs, hq⟩ | ⟨-, hq⟩ | ⟨hq, -⟩
  · exact hq ▸ hold.reloaded hs.tree hcs
  · exact hq ▸ hold.dropped
  · exact hq ▸ hold

theorem holds_handle {h : Handler} (hT : h = .deploy → ∀ tree, T tree) : Build.Keeps (Holds T found) (Build.handle h) := by
  cases h with
  | loadComments => exact holds_loadComments
  | deploy =>
    exact Build.Keeps.deploy (fun _ tree hs => ⟨hT rfl tree, hs.posts, hs.places⟩)
      fun _ _ hs => ⟨hs.tree, hs.posts, hs.places⟩
  | labelled label fails =>
    intro s hs
    rw [run_labelled]
    exact ⟨hs.tree, hs.posts, hs.places⟩

/-! ### Scans -/

/-- Is this a tree from which a handler of a scan may load comments? It is the tree that was scanned, unless one of the
handlers writes files. -/
def ScannedTree (s : Site) (tree : Tree) : Prop := .deploy ∉ s.handlersOf scanned → tree = s.tree

theorem holds_of_signalled (hfresh : ∀ p ∈ found, p.Fresh) (h : (s.scannedTo found).Signalled scanned x s') :
    Holds s.ScannedTree found s' := by
  obtain ⟨log, called, r, hcalls, -⟩ := h
  have hkeeps : ∀ h ∈ (s.scannedTo found).handlersOf scanned, Build.Keeps (Holds s.ScannedTree found) (Build.handle h) := by
    intro h hh
    refine holds_handle fun hdeploy tree hnone => ?_
    exact absurd (hdeploy ▸ hh) hnone
  exact hcalls.keeps hkeeps ⟨fun _ => rfl, List.forall₂_same.mpr fun p hp => .fresh (hfresh p hp), rfl⟩

theorem ordered_of_holds (hfound : timelineOf tree root = .ok found) (h : Holds T found s) :
    Ordered s.timeline s.slugPlaces := by
  rw [h.places]
  exact ordered_law.changed (ordered_law.found hfound) (h.posts.imp fun _ _ => Post.ReadAs.changes)

/-- A scan that finds posts does not look at the posts there were. -/
theorem run_scan_of_found (hfound : timelineOf s.tree s.config.postsPath = .ok found) (timeline : List Post)
    (slugPlaces : List (Text × Nat)) : ({ s with timeline, slugPlaces } : Site).run Build.scan = s.run Build.scan := by
  rw [Build.scan, run_get_bind, run_lift_bind, run_get_bind, run_lift_bind, hfound]
  simp only [run_change_bind]

/-- How a scan ends, and what the site is then. -/
structure Scans (s : Site) (x : Except SiteError Unit) (s' : Site) : Prop where
  /-- If a post cannot be found or read, the site is as it was. -/
  unread : ∀ e, readPosts s.tree s.config.postsPath = .error e → x = .error (.scan s.config.postsPath e) ∧ s' = s
  /-- So it is if two posts have the same slug. -/
  shared : ∀ posts, readPosts s.tree s.config.postsPath = .ok posts → ¬ (posts.map (·.slug)).Nodup →
    s' = s ∧ ∃ p q, List.Sublist [p, q] (sortPosts posts) ∧ p.slug = q.slug ∧
      x = .error (.sharedSlug p.sourcePath q.sourcePath q.slug)
  /-- Otherwise only a handler can fail, and whatever the site was before, it holds the posts that were read, in order, and
  their slugs lead to them. -/
  read : ∀ posts, readPosts s.tree s.config.postsPath = .ok posts → (posts.map (·.slug)).Nodup →
    (x = .ok () ∨ ∃ e, x = .error (.handler scanned e)) ∧
    List.Forall₂ (Post.ReadAs s.ScannedTree) (sortPosts posts) s'.timeline ∧
    s'.slugPlaces = slugPlacesOf (sortPosts posts) ∧ TimelineSound s' ∧
    ∀ timeline slugPlaces, ({ s with timeline, slugPlaces } : Site).run Build.scan = (x, s')

/-- A scan is done as a whole or not at all. -/
theorem scan_whole_or_not (s : Site) : s.Scans (s.run Build.scan).1 (s.run Build.scan).2 := by
  generalize hrun : s.run Build.scan = r
  obtain ⟨x, s'⟩ := r
  have hfails : ∀ e, timelineOf s.tree s.config.postsPath = .error e → x = .error e ∧ s' = s := by
    intro e he
    obtain ⟨e', he', rfl, rfl⟩ | ⟨found, hfound, -⟩ := scan_cases hrun
    · exact ⟨congrArg _ (Except.error.inj (he'.symm.trans he)), rfl⟩
    · cases he.symm.trans hfound
  constructor
  · intro e hread
    exact hfails _ (by simp only [timelineOf, hread])
  · intro posts hread hshared
    obtain ⟨hnodup, -⟩ | ⟨-, p, q, hsublist, hslug, hfound⟩ := timelineOf_of_readPosts hread
    · exact absurd hnodup hshared
    · exact ⟨(hfails _ hfound).2, p, q, hsublist, hslug, (hfails _ hfound).1⟩
  · intro posts hread hnodup
    obtain ⟨-, hfound⟩ | ⟨hshared, -⟩ := timelineOf_of_readPosts hread
    swap
    · exact absurd hnodup hshared
    obtain ⟨e, he, -⟩ | ⟨found, hfound', hsignal⟩ := scan_cases hrun
    · cases hfound.symm.trans he
    obtain rfl := Except.ok.inj (hfound.symm.trans hfound')
    have hholds := holds_of_signalled (timelineOf_fresh hfound).1 hsignal
    refine ⟨?_, hholds.posts, hholds.places, (ordered_of_holds hfound hholds).sound, fun timeline slugPlaces => ?_⟩
    · obtain ⟨log, called, r, -, rfl, -⟩ := hsignal
      cases r with
      | ok _ => exact Or.inl rfl
      | error e => exact Or.inr ⟨e, rfl⟩
    · rw [run_scan_of_found hfound, hrun]

end Site

end Marginalia
