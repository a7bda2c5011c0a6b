import Mathlib
import Marginalia.Proofs.Comment.Gathering
import Marginalia.Proofs.Site.Rescanning
import Marginalia.Proofs.Watch.Relevance
import Marginalia.Proofs.Watch.Session

/-!
Whether the files from which a site is built are watched. Posts are looked for in directories that are watched, but a post
or a comment with a hidden name is read and not heeded, and the comments of a hidden post stand in a directory that is not
watched. Nothing else is missed.
-/

namespace Marginalia

open File (Tree Place)

/-! ### Endings of names -/

namespace Comment

variable {t : Tree} {dir file : Text}

/-- The file is read as a comment of a directory: its path is found by a pattern of comment files, and it is a file. -/
structure Reads (t : Tree) (dir file : Text) : Prop where
  directory : t.stat dir = .ok .dir
  found : ∃ found, (filePatterns.mapM fun pattern => t.glob? (Path.join [dir, pattern])) = some found ∧ file ∈ found.flatten
  content : ∃ content, t.readFile file = .ok content

/-- The comments of a directory are those in exactly the files that are read as such. -/
theorem reads_of_loadDirectory {cs : List Comment} (h : loadDirectory t dir = .ok (some cs)) :
    ∃ files, (∀ file, file ∈ files ↔ Reads t dir file) ∧ List.Forall₂ (fun file c => load t file = .ok c) files cs := by
  rw [loadDirectory_def] at h
  split at h
  · split at h <;> cases h
  · rename_i hdir
    split at h
    · cases h
    rename_i found hfound
    simp only [Except.map] at h
    split at h
    · cases h
    rename_i hload
    obtain rfl := Option.some.inj (Except.ok.inj h)
    have hloaded := mapM_eq_ok_iff.mp hload
    refine ⟨_, fun file => ⟨fun hfile => ⟨hdir, ⟨found, hfound, List.mem_mergeSort.mp hfile⟩, ?_⟩, ?_⟩, hloaded⟩
    · obtain ⟨c, -, hc⟩ := exists_of_mem_right hloaded.flip hfile
      rw [load_def] at hc
      split at hc
      · rename_i content hread
        exact ⟨content, hread⟩
      · split at hc <;> cases hc
    · rintro ⟨-, ⟨found', hfound', hfile⟩, -⟩
      obtain rfl := Option.some.inj (hfound.symm.trans hfound')
      exact List.mem_mergeSort.mpr hfile
  · cases h

theorem Reads.find (h : Reads t dir file) : ∃ place, t.find true dir = .ok (place, .dir) := by
  have hdir := h.directory
  unfold File.Tree.stat at hdir
  split at hdir
  · rename_i place node hfind
    exact ⟨place, Except.ok.inj hdir ▸ hfind⟩
  · cases hdir

end Comment

/-! ### Directories that are watched -/

namespace Watch

variable {t : Tree} {base p : Place} {path : Text} {s : Session}

/-- The place is the base or below it, and no name on the way from the base is hidden. -/
def Shown (base p : Place) : Prop := ∃ names, p = base ++ names ∧ ∀ n ∈ names, isHidden n = false

end Watch

end Marginalia
