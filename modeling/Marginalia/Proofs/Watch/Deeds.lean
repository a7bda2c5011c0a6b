import Mathlib
import Marginalia.Proofs.File.Saving
import Marginalia.Proofs.Watch.Relevance

/-!
Deeds that leave the directories where they are. They make, write or remove one entry of a directory, which is told where
that directory is watched.
-/

namespace Marginalia

namespace Watch

open File (Tree Place Node)

namespace Deed

/-- No directory is removed or moved. -/
def keepsDirectories : Deed → Bool
  | rmdir _ | move _ _ => false
  | _ => true

/-- The place where something is made, written or removed. -/
def altered? : Deed → Option Place
  | make place _ | write place _ | unlink place => some place
  | _ => none

/-! ### What becomes of the files -/

variable {d : Deed} {t t' : Tree} {base dir : Place} {name : Text} {watched : List Place}

theorem exists_entry {p : Place} (hp : t.get? p ≠ some .dir) : ∃ dir name, p = dir ++ [name] := by
  rcases List.eq_nil_or_concat p with rfl | ⟨dir, name, rfl⟩
  · exact absurd rfl hp
  · exact ⟨dir, name, List.concat_eq_append⟩

/-- What becomes of the files: one entry of a directory, which is no directory itself, is another. It is a directory then
only if one was made. -/
theorem perform_cases (ht : t.Supported) (hd : d.keepsDirectories = true) (h : d.perform? t = some t') :
    (d.altered? = none ∧ t' = t) ∨
    ∃ dir name, d.altered? = some (dir ++ [name]) ∧ t.get? dir = some .dir ∧ t.get? (dir ++ [name]) ≠ some .dir ∧
      (∀ q, q ≠ dir ++ [name] → t'.get? q = t.get? q) ∧
      (t'.get? (dir ++ [name]) = some .dir → d = .make (dir ++ [name]) .dir) := by
  cases d with
  | make place node =>
    obtain ⟨hfree, heq⟩ := Option.ite_none_right_eq_some.mp h
    obtain rfl := Option.some.inj heq
    rw [Bool.and_eq_true, beq_iff_eq, beq_iff_eq] at hfree
    obtain ⟨dir, name, rfl⟩ := exists_entry (by rw [hfree.1]; exact nofun)
    rw [List.dropLast_concat] at hfree
    refine Or.inr ⟨dir, name, rfl, hfree.2, by rw [hfree.1]; exact nofun, fun q hq => ?_, fun hnew => ?_⟩
    · rw [File.Tree.get?_put (List.concat_ne_nil _ _), if_neg hq]
    · rw [File.Tree.get?_put (List.concat_ne_nil _ _), if_pos rfl] at hnew
      rw [Option.some.inj hnew]
  | write place node =>
    obtain ⟨hthere, heq⟩ := Option.ite_none_left_eq_some.mp h
    obtain rfl := Option.some.inj heq
    simp only [Bool.or_eq_true, beq_iff_eq, not_or] at hthere
    obtain ⟨⟨hthere, hfile⟩, hnode⟩ := hthere
    obtain ⟨dir, name, rfl⟩ := exists_entry hfile
    refine Or.inr ⟨dir, name, rfl, ht.stands dir name hthere, hfile, fun q hq => ?_, fun hnew => ?_⟩
    · rw [File.Tree.get?_put (List.concat_ne_nil _ _), if_neg hq]
    · rw [File.Tree.get?_put (List.concat_ne_nil _ _), if_pos rfl] at hnew
      exact absurd (Option.some.inj hnew) hnode
  | unlink place =>
    obtain ⟨hthere, heq⟩ := Option.ite_none_left_eq_some.mp h
    obtain rfl := Option.some.inj heq
    simp only [Bool.or_eq_true, beq_iff_eq, not_or] at hthere
    obtain ⟨hthere, hfile⟩ := hthere
    obtain ⟨dir, name, rfl⟩ := exists_entry hfile
    refine Or.inr ⟨dir, name, rfl, ht.stands dir name hthere, hfile, fun q hq => ?_, fun hnew => ?_⟩
    · rw [File.Tree.get?_erase (List.concat_ne_nil _ _)]
      split
      · -- Below a file there is nothing.
        rename_i hbelow
        by_contra hq'
        exact hfile (ht.way (Ne.symm hq') hbelow (Ne.symm hq))
      · rfl
    · rw [File.Tree.get?_erase (List.concat_ne_nil _ _), if_pos (List.prefix_refl _)] at hnew
      cases hnew
  | changeMode place =>
    obtain ⟨-, heq⟩ := Option.ite_none_left_eq_some.mp h
    exact Or.inl ⟨rfl, (Option.some.inj heq).symm⟩
  | rmdir place => cases hd
  | move source target => cases hd

theorem perform_dirs (ht : t.Supported) (hd : d.keepsDirectories = true) (h : d.perform? t = some t') {q : Place}
    (hq : t.get? q = some .dir) : t'.get? q = some .dir := by
  rcases perform_cases ht hd h with ⟨-, rfl⟩ | ⟨dir, name, -, -, hfile, hsame, -⟩
  · exact hq
  · rwa [hsame q fun heq => hfile (heq ▸ hq)]

theorem perform_supported (ht : t.Supported) (hd : d.keepsDirectories = true) (h : d.perform? t = some t') : t'.Supported := by
  refine ⟨fun dir' name' hthere => ?_⟩
  refine perform_dirs ht hd h ?_
  rcases perform_cases ht hd h with ⟨-, rfl⟩ | ⟨dir, name, -, hdir, -, hsame, -⟩
  · exact ht.stands dir' name' hthere
  by_cases heq : dir' ++ [name'] = dir ++ [name]
  · rwa [(List.append_inj' heq rfl).1]
  · rw [hsame _ heq] at hthere
    exact ht.stands dir' name' hthere

/-! ### What is told -/

/-- What is altered in a watched directory is told. -/
theorem notices_of_watched (h : d.altered? = some (dir ++ [name])) (hdir : dir ∈ watched) :
    ∃ c : Change, c.alters = true ∧ (∀ node, d = .make (dir ++ [name]) node → c.created = true) ∧
      ⟨dir ++ [name], c⟩ ∈ d.notices watched := by
  have htold : ∀ c : Change, (⟨dir ++ [name], c⟩ : Notice) ∈ ofEntry watched (dir ++ [name]) c := by
    intro c
    rw [ofEntry, if_pos (by simp [hdir])]
    exact List.mem_singleton_self _
  cases d with
  | make place node =>
    obtain rfl := Option.some.inj h
    exact ⟨_, rfl, fun _ _ => rfl, htold _⟩
  | write place node =>
    obtain rfl := Option.some.inj h
    exact ⟨_, rfl, nofun, htold _⟩
  | unlink place =>
    obtain rfl := Option.some.inj h
    exact ⟨_, rfl, nofun, htold _⟩
  | rmdir place => cases h
  | move source target => cases h
  | changeMode place => cases h

theorem ofEntry_inside {place : Place} {c : Change} {n : Notice} (h : ∀ dir ∈ watched, base <+: dir)
    (hn : n ∈ ofEntry watched place c) : base <+: n.place := by
  obtain ⟨hwatched, hn⟩ := List.mem_ite_nil_right.mp hn
  rw [Bool.and_eq_true, List.contains_iff_mem] at hwatched
  rw [List.mem_singleton.mp hn]
  exact (h _ hwatched.2).trans (List.dropLast_prefix place)

theorem ofItself_inside {place : Place} {c : Change} {n : Notice} (h : ∀ dir ∈ watched, base <+: dir)
    (hn : n ∈ ofItself watched place c) : base <+: n.place := by
  rw [ofItself] at hn
  split at hn
  · rename_i hwatched
    rw [List.mem_singleton.mp hn]
    exact h place (List.contains_iff_mem.mp hwatched)
  · exact ofEntry_inside h hn

/-- What is told is below what is watched. -/
theorem notices_inside (h : ∀ dir ∈ watched, base <+: dir) {n : Notice} (hn : n ∈ d.notices watched) :
    base <+: n.place := by
  cases d with
  | make place node => exact ofEntry_inside h hn
  | write place node => exact ofEntry_inside h hn
  | unlink place => exact ofEntry_inside h hn
  | rmdir place => exact ofItself_inside h hn
  | move source target => exact (List.mem_append.mp hn).elim (ofItself_inside h) (ofEntry_inside h)
  | changeMode place => exact ofItself_inside h hn

theorem stillWatched_eq (hd : d.keepsDirectories = true) (watched : List Place) : d.stillWatched watched = watched := by
  cases d with
  | rmdir place => cases hd
  | move source target => cases hd
  | _ => rfl

end Deed

end Watch

end Marginalia
