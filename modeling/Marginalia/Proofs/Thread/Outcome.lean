import Marginalia.Proofs.Thread.Walk

/-!
What becomes of the comments of a post. A repeated id, a reply to a missing comment and a chain of replies that
never reaches the post are refused, in this order; all other comments form a thread.
-/

namespace Marginalia.Thread

section
variable {cs : List Comment}

theorem cycle?_parents_eq_none_iff (hd : Distinct cs) (hr : Resolved cs) :
    cycle? (parents cs) = none ↔ ∀ c ∈ cs, Grounded cs c := by
  rw [cycle?_eq_none_iff (closed_parents hd), size_parents]
  constructor
  · intro h c hc
    obtain ⟨k, hk⟩ := List.mem_iff_getElem?.mp hc
    exact (rooted_parents_iff hd hr hk).mp (h k (List.getElem?_eq_some_iff.mp hk).1)
  · intro h k hlt
    have hk := List.getElem?_eq_getElem hlt
    exact (rooted_parents_iff hd hr hk).mpr (h _ (List.mem_of_getElem? hk))

/-- The four ways in which the comments of a post come out. -/
theorem thread_cases (cs : List Comment) :
    (¬Distinct cs ∧ ∃ id, duplicate? [] cs = some id ∧ thread cs = .error (.duplicate id)) ∨
    (Distinct cs ∧ ¬Resolved cs ∧ ∃ c, dangling? cs = some c ∧
      thread cs = .error (.dangling c.id c.replyingTo)) ∨
    (Distinct cs ∧ Resolved cs ∧ (∃ c ∈ cs, ¬Grounded cs c) ∧ ∃ cycle, cycle? (parents cs) = some cycle ∧
      thread cs = .error (.cyclic (fromLeast (cycle.map fun k => (commentAt cs k).id)))) ∨
    (Forest cs ∧ thread cs = .ok (ordered cs (parents cs))) := by
  cases hdup : duplicate? [] cs with
  | some id =>
    refine Or.inl ⟨fun hd => ?_, id, rfl, by simp only [thread, hdup]⟩
    rw [duplicate?_eq_none_iff.mpr ⟨hd, by simp⟩] at hdup
    cases hdup
  | none =>
    have hd := (duplicate?_eq_none_iff.mp hdup).1
    refine Or.inr ?_
    cases hdang : dangling? cs with
    | some c =>
      refine Or.inl ⟨hd, fun hr => ?_, c, rfl, by simp only [thread, hdup, hdang]⟩
      rw [dangling?_eq_none_iff.mpr hr] at hdang
      cases hdang
    | none =>
      have hr := dangling?_eq_none_iff.mp hdang
      refine Or.inr ?_
      cases hcyc : cycle? (parents cs) with
      | some cycle =>
        refine Or.inl ⟨hd, hr, ?_, cycle, rfl, by simp only [thread, hdup, hdang, hcyc, commentAt]⟩
        by_contra hall
        push Not at hall
        rw [(cycle?_parents_eq_none_iff hd hr).mpr hall] at hcyc
        cases hcyc
      | none =>
        exact Or.inr ⟨⟨hd, (cycle?_parents_eq_none_iff hd hr).mp hcyc⟩, by simp only [thread, hdup, hdang, hcyc]⟩

/-! ### Each outcome -/

theorem thread_duplicate_iff : (∃ id, thread cs = .error (.duplicate id)) ↔ ¬Distinct cs := by
  rcases thread_cases cs with ⟨hd, id, -, h⟩ | ⟨hd, -, _, -, h⟩ | ⟨hd, -, -, _, -, h⟩ | ⟨hf, h⟩
  · exact iff_of_true ⟨id, h⟩ hd
  · exact iff_of_false (by simp [h]) (not_not_intro hd)
  · exact iff_of_false (by simp [h]) (not_not_intro hd)
  · exact iff_of_false (by simp [h]) (not_not_intro hf.distinct)

theorem thread_dangling_iff :
    (∃ id target, thread cs = .error (.dangling id target)) ↔ Distinct cs ∧ ¬Resolved cs := by
  rcases thread_cases cs with ⟨hd, _, -, h⟩ | ⟨hd, hr, c, -, h⟩ | ⟨-, hr, -, _, -, h⟩ | ⟨hf, h⟩
  · exact iff_of_false (by simp [h]) fun hall => hd hall.1
  · exact iff_of_true ⟨c.id, c.replyingTo, h⟩ ⟨hd, hr⟩
  · exact iff_of_false (by simp [h]) fun hall => hall.2 hr
  · exact iff_of_false (by simp [h]) fun hall => hall.2 hf.resolved

theorem thread_cyclic_iff :
    (∃ ids, thread cs = .error (.cyclic ids)) ↔ Distinct cs ∧ Resolved cs ∧ ∃ c ∈ cs, ¬Grounded cs c := by
  rcases thread_cases cs with ⟨hd, _, -, h⟩ | ⟨-, hr, _, -, h⟩ | ⟨hd, hr, hg, cycle, -, h⟩ | ⟨hf, h⟩
  · exact iff_of_false (by simp [h]) fun hall => hd hall.1
  · exact iff_of_false (by simp [h]) fun hall => hr hall.2.1
  · exact iff_of_true ⟨_, h⟩ ⟨hd, hr, hg⟩
  · refine iff_of_false (by simp [h]) ?_
    rintro ⟨-, -, c, hc, hg⟩
    exact hg (hf.grounded c hc)

theorem thread_ok_iff {ts : List ThreadedComment} :
    thread cs = .ok ts ↔ Forest cs ∧ ts = ordered cs (parents cs) := by
  rcases thread_cases cs with ⟨hd, _, -, h⟩ | ⟨-, hr, _, -, h⟩ | ⟨-, -, ⟨c, hc, hg⟩, _, -, h⟩ | ⟨hf, h⟩
  · exact iff_of_false (by simp [h]) fun hall => hd hall.1.distinct
  · exact iff_of_false (by simp [h]) fun hall => hr hall.1.resolved
  · exact iff_of_false (by simp [h]) fun hall => hg (hall.1.grounded c hc)
  · rw [h, Except.ok.injEq]
    exact ⟨fun heq => ⟨hf, heq.symm⟩, fun hall => hall.2.symm⟩

theorem duplicate_of_thread {id : Text} (h : thread cs = .error (.duplicate id)) : duplicate? [] cs = some id := by
  rcases thread_cases cs with ⟨-, id', hdup, h'⟩ | ⟨-, -, _, -, h'⟩ | ⟨-, -, -, _, -, h'⟩ | ⟨-, h'⟩ <;>
    rw [h] at h' <;> cases h'
  exact hdup

theorem dangling_of_thread {id target : Text} (h : thread cs = .error (.dangling id target)) :
    ∃ c, dangling? cs = some c ∧ c.id = id ∧ c.replyingTo = target := by
  rcases thread_cases cs with ⟨-, _, -, h'⟩ | ⟨-, -, c, hdang, h'⟩ | ⟨-, -, -, _, -, h'⟩ | ⟨-, h'⟩ <;>
    rw [h] at h' <;> cases h'
  exact ⟨c, hdang, rfl, rfl⟩

theorem Forest.length_ordered (hf : Forest cs) : (ordered cs (parents cs)).length = cs.length := by
  have hlen := hf.emitted_perm.length_eq
  rw [List.length_map, List.length_range] at hlen
  rw [ordered, List.length_map]
  exact hlen

end

/-- How the comments of a post come out is decided by their ids and replies. An id that stands twice is refused,
and it is the one at the first place whose id stands earlier; otherwise a reply to a missing comment is, and it is
the first one; otherwise a cycle is, if some chain of replies never reaches the post; and otherwise each comment
gets its place. -/
theorem thread_outcome (cs : List Comment) :
    ((∃ id, thread cs = .error (.duplicate id)) ↔ ¬Distinct cs) ∧
    (∀ id, thread cs = .error (.duplicate id) →
      ∃ (i : Nat) (c : Comment), cs[i]? = some c ∧ c.id = id ∧ RepeatedAt cs i ∧ ∀ j < i, ¬RepeatedAt cs j) ∧
    ((∃ id target, thread cs = .error (.dangling id target)) ↔ Distinct cs ∧ ∃ c ∈ cs, Dangles cs c) ∧
    (∀ id target, thread cs = .error (.dangling id target) →
      ∃ (i : Nat) (c : Comment), cs[i]? = some c ∧ c.id = id ∧ c.replyingTo = target ∧ Dangles cs c ∧
        ∀ j < i, ∀ d, cs[j]? = some d → ¬Dangles cs d) ∧
    ((∃ ids, thread cs = .error (.cyclic ids)) ↔
      Distinct cs ∧ (∀ c ∈ cs, ¬Dangles cs c) ∧ ∃ c ∈ cs, ¬Grounded cs c) ∧
    ((∃ ts, thread cs = .ok ts ∧ ts.length = cs.length) ↔
      Distinct cs ∧ (∀ c ∈ cs, ¬Dangles cs c) ∧ ∀ c ∈ cs, Grounded cs c) := by
  refine ⟨thread_duplicate_iff, fun id h => duplicate?_eq_some (duplicate_of_thread h), ?_, fun id target h => ?_,
    thread_cyclic_iff, ?_⟩
  · rw [thread_dangling_iff, Resolved]
    push Not
    rfl
  · obtain ⟨c, hdang, hid, htarget⟩ := dangling_of_thread h
    obtain ⟨i, hi, hc, hfirst⟩ := dangling?_eq_some hdang
    exact ⟨i, c, hi, hid, htarget, hc, hfirst⟩
  · constructor
    · rintro ⟨ts, h, -⟩
      have hf := (thread_ok_iff.mp h).1
      exact ⟨hf.distinct, hf.resolved, hf.grounded⟩
    · rintro ⟨hd, -, hg⟩
      exact ⟨_, thread_ok_iff.mpr ⟨⟨hd, hg⟩, rfl⟩, Forest.length_ordered ⟨hd, hg⟩⟩

end Marginalia.Thread
