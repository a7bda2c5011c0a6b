import Marginalia.Proofs.File.Path
import Marginalia.Watch.Deed

/-!
Which notices matter. Apart from a mere change of the mode it is the last name of the place that decides: hidden names and
those of backups are ignored.
-/

namespace Marginalia

namespace Path

/-- The last component of a path is what stands behind its last separator. -/
theorem base_of_last {path n : Text} (h : path = n ∨ ∃ dir, path = dir ++ separator :: n) (hn : IsName n) :
    base path = n := by
  obtain ⟨front, c, rfl⟩ := (List.eq_nil_or_concat n).resolve_left hn.1
  rw [List.concat_eq_append] at hn h ⊢
  have hc : ¬ (c == separator) = true := fun hc =>
    hn.2.2.2 (List.mem_append_right _ (List.mem_singleton.mpr (beq_iff_eq.mp hc).symm))
  have hlast : ∃ before, path = before ++ [c] := by
    obtain rfl | ⟨dir, rfl⟩ := h
    · exact ⟨front, rfl⟩
    · exact ⟨dir ++ separator :: front, by rw [List.append_assoc, List.cons_append]⟩
  obtain ⟨before, hbefore⟩ := hlast
  have hstripped : Text.stripRight (· == separator) path = path := by
    rw [Text.stripRight, hbefore, List.reverse_append, List.reverse_singleton, List.singleton_append,
      List.dropWhile_cons, if_neg hc, List.reverse_cons, List.reverse_reverse]
  have hne : path.isEmpty = false := by rw [hbefore]; simp
  have hsplit : (Text.splitOn separator path).getLast? = some (front ++ [c]) := by
    obtain rfl | ⟨dir, rfl⟩ := h
    · rw [Text.splitOn_of_not_mem hn.2.2.2, List.getLast?_singleton]
    · rw [Text.splitOn_append, Text.splitOn_of_not_mem hn.2.2.2, List.getLast?_concat]
  rw [base, hne, if_neg Bool.false_ne_true]
  simp only [hstripped, hne, Bool.false_eq_true, if_false, hsplit, Option.getD_some]

theorem base_join_concat (init : List Text) {n : Text} (hn : IsName n) : base (Text.join "/" (init ++ [n])) = n := by
  refine base_of_last ?_ hn
  rcases eq_or_ne init [] with rfl | hinit
  · exact Or.inl (Text.join_singleton _ _)
  · refine Or.inr ⟨Text.join "/" init, ?_⟩
    rw [Text.join_append hinit (List.cons_ne_nil _ _), Text.join_singleton, List.append_assoc]
    rfl

end Path

namespace Watch

/-- The change creates, writes, removes or renames something. -/
def Change.alters (c : Change) : Bool := c.created || c.written || c.removed || c.renamed

theorem Change.not_isModeOnly {c : Change} (h : c.alters = true) : c.isModeOnly = false := by
  revert h
  obtain ⟨created, written, removed, renamed, modeChanged, other⟩ := c
  cases created <;> cases written <;> cases removed <;> cases renamed <;> simp [alters, isModeOnly]

theorem relevant_iff {path : Text} {c : Change} (h : c.alters = true) :
    relevant ⟨path, c⟩ = true ↔ isIgnoredName (Path.base path) = false := by
  rw [relevant, Change.not_isModeOnly h, Bool.not_false, Bool.true_and, Bool.not_eq_true']

/-- Something that happens to an entry of a directory matters if its name is not ignored. -/
theorem Notice.matters_concat {dir : File.Place} {n : Text} {c : Change} (h : c.alters = true) (hn : Path.IsName n) :
    Notice.matters ⟨dir ++ [n], c⟩ = true ↔ isIgnoredName n = false := by
  rw [Notice.matters, relevant_iff h, Path.base_join_concat dir hn]

end Watch

end Marginalia
