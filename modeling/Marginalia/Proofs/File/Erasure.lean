import Mathlib
import Marginalia.Proofs.File.Pattern
import Marginalia.Proofs.File.Region

/-!
Trees from which a place has been taken with all below it. Everything that is neither on the way to the place nor below
it stays as it was, and directories lose the name of the place and no other.
-/

namespace Marginalia

namespace File

namespace Tree

variable {t t' : Tree} {base p q dir : Place} {path : Text}

theorem lookup_filter_places (keep : Place → Bool) (entries : List (Place × Node)) (q : Place) :
    (entries.filter fun e => keep e.1).lookup q = if keep q = true then entries.lookup q else none := by
  induction entries with
  | nil => simp
  | cons e entries ih =>
    obtain ⟨r, n⟩ := e
    rw [List.filter_cons]
    rcases eq_or_ne q r with rfl | hne
    · split
      · rw [List.lookup_cons, List.lookup_cons, beq_self_eq_true]
      · rename_i hdrop
        rw [ih, if_neg hdrop]
    · rw [List.lookup_cons, beq_eq_false_iff_ne.mpr hne]
      split
      · rw [List.lookup_cons, beq_eq_false_iff_ne.mpr hne]
        exact ih
      · exact ih

theorem get?_erase (hp : p ≠ []) (q : Place) : (t.erase p).get? q = if p <+: q then none else t.get? q := by
  rcases eq_or_ne q [] with rfl | hq
  · rw [if_neg (List.prefix_nil.not.mpr hp)]
    rfl
  · have hlookup := lookup_filter_places (fun r => !p.isPrefixOf r) t.entries q
    rw [get?_of_ne_nil hq, get?_of_ne_nil hq, erase]
    refine hlookup.trans ?_
    by_cases h : p <+: q
    · rw [if_pos h, if_neg (by simpa using h)]
    · rw [if_neg h, if_pos (by simpa [← List.isPrefixOf_iff_prefix] using h)]

theorem LinkFree.erase (h : t.LinkFree) (hp : p ≠ []) : (t.erase p).LinkFree := by
  intro q target
  rw [get?_erase hp]
  split
  · nofun
  · exact h q target

theorem WellFormed.erase (h : t.WellFormed) (p : Place) : (t.erase p).WellFormed where
  distinct := h.distinct.sublist (List.filter_sublist.map _)
  names e he := h.names e (List.mem_of_mem_filter he)

theorem LinkFree.agreeAt_refl (h : t.LinkFree) (base : Place) : AgreeAt base t t := ⟨rfl, fun _ _ => rfl, fun q _ => h q⟩

/-! ### Names -/

open scoped Orders in
/-- The names of a directory are the only ascending list with these members. -/
theorem WellFormed.names_unique (h : t.WellFormed) {names : List Text}
    (hascend : names.Pairwise fun a b => Text.order a b = .lt) (hmem : ∀ name, name ∈ t.names dir ↔ name ∈ names) :
    t.names dir = names := by
  have hlt : ∀ {ts : List Text}, (ts.Pairwise fun a b => Text.order a b = .lt) → ts.Pairwise (· < ·) :=
    fun hts => hts.imp fun hab => (Text.order_compares _ _).eq_lt.mp hab
  exact (hlt (h.names_ascend dir)).eq_of_mem_iff (hlt hascend) hmem

/-- Directories with the same names list them alike. -/
theorem names_agree (h : t.WellFormed) (h' : t'.WellFormed)
    (hsame : ∀ name, t'.get? (dir ++ [name]) = t.get? (dir ++ [name])) : t'.names dir = t.names dir := by
  refine h'.names_unique (h.names_ascend dir) fun name => ?_
  rw [mem_names, mem_names, hsame]

theorem names_erase (h : t.WellFormed) (hp : p ≠ []) (dir : Place) :
    (t.erase p).names dir = (t.names dir).filter fun name => !p.isPrefixOf (dir ++ [name]) := by
  refine (h.erase p).names_unique ((h.names_ascend dir).filter _) fun name => ?_
  rw [List.mem_filter, mem_names, mem_names, get?_erase hp]
  by_cases hbegins : p <+: dir ++ [name]
  · simp [hbegins]
  · have hkept : p.isPrefixOf (dir ++ [name]) = false := Bool.eq_false_iff.mpr (by simpa using hbegins)
    simp [hbegins, hkept]

/-! ### Depth -/

theorem foldl_max_le_iff (entries : List (Place × Node)) (n m : Nat) :
    entries.foldl (fun n e => max n e.1.length) n ≤ m ↔ n ≤ m ∧ ∀ e ∈ entries, e.1.length ≤ m := by
  induction entries generalizing n with
  | nil => simp
  | cons e entries ih => rw [List.foldl_cons, ih, List.forall_mem_cons, Nat.max_le, and_assoc]

theorem depth_le_iff {m : Nat} : t.depth ≤ m ↔ ∀ e ∈ t.entries, e.1.length ≤ m :=
  (foldl_max_le_iff t.entries 0 m).trans (and_iff_right (Nat.zero_le m))

theorem depth_erase_le (t : Tree) (p : Place) : (t.erase p).depth ≤ t.depth :=
  depth_le_iff.mpr fun e he => depth_le_iff.mp (Nat.le_refl _) e (List.mem_of_mem_filter he)

/-- There are no names below the depth of a tree. -/
theorem names_eq_nil (h : t.depth ≤ dir.length) : t.names dir = [] := by
  refine List.eq_nil_iff_forall_not_mem.mpr fun name hname => ?_
  obtain ⟨e, he, heq⟩ := List.mem_filterMap.mp (List.mem_mergeSort.mp hname)
  have hlength := (depth_le_iff.mp h) e he
  rw [nameIn?_eq_some_iff.mp heq, List.length_append, List.length_singleton] at hlength
  omega

/-! ### Removing -/

/-- Removing takes away the place that the path leads to, unless there is no way to it. -/
theorem removeAll_cases (hl : t.LinkFree) (path : Text) :
    t.removeAll path = t.erase (t.place path) ∨ t.removeAll path = t ∧ ∃ c, t.locate false path = .error c := by
  rw [removeAll]
  cases hp : t.locate false path with
  | ok p =>
    obtain ⟨rfl, -⟩ := locate_eq_ok hl hp
    exact Or.inl rfl
  | error c => exact Or.inr ⟨rfl, c, rfl⟩

end Tree

end File

end Marginalia
