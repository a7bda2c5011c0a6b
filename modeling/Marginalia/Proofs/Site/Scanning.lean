import Mathlib
import Marginalia.Site.Publish
import Marginalia.Proofs.Comment.Loading

/-!
What a scan finds: posts as their files describe them, without comments and with proper slugs, no two alike.
-/

namespace Marginalia

/-- A post just read: it has a proper slug, and neither body nor comments. -/
structure Post.Fresh (p : Post) : Prop where
  slug : Slug.isSlug p.slug = true
  body : p.body = []
  comments : p.comments = none

namespace Post

theorem ofRecord_fresh {path content : Text} {r : Yaml.Record} {p : Post} (h : ofRecord path r content = .ok p) :
    p.Fresh := by
  unfold ofRecord at h
  simp only at h
  split at h
  · cases h
  rename_i hslug
  rw [Bool.not_eq_true', Bool.not_eq_false] at hslug
  split at h
  · obtain rfl := Except.ok.inj h
    exact ⟨hslug, rfl, rfl⟩
  split at h
  · obtain rfl := Except.ok.inj h
    exact ⟨hslug, rfl, rfl⟩
  · cases h

theorem parse_fresh {path source : Text} {p : Post} (h : parse path source = .ok p) : p.Fresh := by
  unfold parse at h
  simp only at h
  split at h
  · exact ofRecord_fresh h
  split at h
  · cases h
  · exact ofRecord_fresh h
  · exact ofRecord_fresh h

end Post

namespace Site

variable {tree : File.Tree} {root path : Text} {posts : List Post} {p : Post}

theorem readPost_fresh (h : readPost tree path = .ok p) : p.Fresh := by
  unfold readPost at h
  split at h
  · cases h
  split at h
  · cases h
  · rename_i hparse
    obtain rfl := Except.ok.inj h
    exact Post.parse_fresh hparse

theorem readPosts_fresh (h : readPosts tree root = .ok posts) : ∀ p ∈ posts, p.Fresh := by
  unfold readPosts at h
  split at h
  · cases h
  intro p hp
  obtain ⟨path, -, hread⟩ := exists_of_mem_right (mapM_eq_ok_iff.mp h) hp
  exact readPost_fresh hread

/-- No slug is shared if none is found to be. -/
theorem nodup_slugs {seen posts : List Post} (h : sharedSlug? seen posts = none) (hseen : (seen.map (·.slug)).Nodup) :
    ((seen ++ posts).map (·.slug)).Nodup := by
  induction posts generalizing seen with
  | nil => rwa [List.append_nil]
  | cons p posts ih =>
    unfold sharedSlug? at h
    split at h
    · cases h
    rename_i hfind
    have hnew : ∀ q ∈ seen, q.slug ≠ p.slug := fun q hq heq =>
      List.find?_eq_none.mp hfind q hq (beq_iff_eq.mpr heq)
    rw [List.append_cons]
    refine ih h ?_
    rw [List.map_append, List.nodup_append]
    refine ⟨hseen, List.nodup_singleton _, fun a ha b hb heq => ?_⟩
    obtain ⟨q, hq, rfl⟩ := List.mem_map.mp ha
    rw [List.map_singleton, List.mem_singleton] at hb
    exact hnew q hq (heq.trans hb)

/-- A timeline that is found consists of posts just read, with distinct slugs. -/
theorem timelineOf_fresh (h : timelineOf tree root = .ok posts) :
    (∀ p ∈ posts, p.Fresh) ∧ (posts.map (·.slug)).Nodup := by
  unfold timelineOf at h
  split at h
  · cases h
  rename_i found hfound
  simp only at h
  split at h
  · cases h
  rename_i hshared
  obtain rfl := Except.ok.inj h
  refine ⟨fun p hp => readPosts_fresh hfound p ((List.mergeSort_perm found _).mem_iff.mp hp), ?_⟩
  exact nodup_slugs hshared List.nodup_nil

end Site

end Marginalia
