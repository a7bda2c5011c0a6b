import Mathlib
import Marginalia.Proofs.Thread.References

/-!
The walk along the chains of replies, step by step. Two loops are nested in it: one over all records, and in it the climb
from each of them, which follows the parents wherever they lead. What is done when a climb begins is what the records
before lead to, and from there every way goes to the top, so a climb may stop at what is done. No record is put on a chain
twice, so the walk ends, whether there are cycles or not.
-/

namespace Marginalia.Thread

/-- Where the walk along the chains is. -/
inductive Ascent where
  /-- The chains of the records before `i` have been walked. -/
  | before (i : Nat) (marks : Array Mark)
  /-- The climb from `i` has come to `cur` and left its chain behind, latest first. -/
  | climbing (i : Nat) (marks : Array Mark) (chain : List Nat) (cur : Option Nat)
  | ended (cycle : Option (List Nat))

namespace Ascent

variable {parents : Array (Option Nat)} {s : Ascent} {marks base : Array Mark} {chain : List Nat} {cur : Option Nat}
  {i k p : Nat}

/-- One step of the walk. -/
def next (parents : Array (Option Nat)) : Ascent → Ascent
  | before i marks => if i < parents.size then climbing i marks [] (some i) else ended none
  | climbing i marks chain none => before (i + 1) (settle marks chain)
  | climbing i marks chain (some k) =>
    match (marks[k]?).getD .done with
    | .done => before (i + 1) (settle marks chain)
    | .onChain => ended (some (since chain k))
    | .unvisited => climbing i (marks.setIfInBounds k .onChain) (k :: chain) ((parents[k]?).getD none)
  | ended cycle => ended cycle

/-- The walk after so many steps. -/
def after (parents : Array (Option Nat)) (n : Nat) : Ascent :=
  (next parents)^[n] (before 0 (Array.replicate parents.size .unvisited))

/-- The record that the next step puts on the chain. -/
def put? : Ascent → Option Nat
  | climbing _ marks _ (some k) => if marks[k]? = some .unvisited then some k else none
  | _ => none

theorem after_succ (n : Nat) : after parents (n + 1) = next parents (after parents n) :=
  Function.iterate_succ_apply' _ _ _

/-- How a climb goes on: it comes to its end, closes a cycle, or puts a record on its chain. -/
theorem next_climbing (hsize : marks.size = parents.size) (hk : ∀ k ∈ cur, k < parents.size) :
    (∀ k ∈ cur, marks[k]? = some .done) ∧ next parents (climbing i marks chain cur) = before (i + 1) (settle marks chain) ∨
    (∃ k, cur = some k ∧ marks[k]? = some .onChain ∧
      next parents (climbing i marks chain cur) = ended (some (since chain k))) ∨
    (∃ k, cur = some k ∧ marks[k]? = some .unvisited ∧ next parents (climbing i marks chain cur) =
      climbing i (marks.setIfInBounds k .onChain) (k :: chain) ((parents[k]?).getD none)) := by
  cases cur with
  | none => exact Or.inl ⟨nofun, rfl⟩
  | some k =>
    have hlt : k < marks.size := hsize ▸ hk k rfl
    have hmark : marks[k]? = some marks[k] := Array.getElem?_eq_getElem hlt
    rw [next, hmark, Option.getD_some]
    cases hm : marks[k] with
    | done => exact Or.inl ⟨fun j hj => by rw [← Option.some.inj hj, hmark, hm], rfl⟩
    | onChain => exact Or.inr (Or.inl ⟨k, rfl, by rw [hmark, hm], rfl⟩)
    | unvisited => exact Or.inr (Or.inr ⟨k, rfl, by rw [hmark, hm], rfl⟩)

/-! ### What is done -/

/-- What the marks say when the chains of the records before `i` have been walked: no record is on a chain, and what is
done are these records with all that they lead to, from where every way goes to the top. -/
structure Passed (parents : Array (Option Nat)) (i : Nat) (marks : Array Mark) : Prop where
  size : marks.size = parents.size
  known : ∀ k < parents.size, marks[k]? = some .unvisited ∨ marks[k]? = some .done
  done_iff : ∀ k, marks[k]? = some .done ↔ ∃ j < i, Relation.ReflTransGen (Leads parents) j k
  closed : ∀ k p, marks[k]? = some .done → Leads parents k p → marks[p]? = some .done
  rooted : ∀ k, marks[k]? = some .done → Rooted parents k

theorem Passed.settled (h : Passed parents i marks) : Settled parents marks where
  size := h.size
  idle := by
    intro k hk
    obtain ⟨hlt, -⟩ := Array.getElem?_eq_some_iff.mp hk
    rcases h.known k (h.size ▸ hlt) with hmark | hmark <;> rw [hmark] at hk <;> cases hk
  rooted := h.rooted

theorem passed_replicate : Passed parents 0 (Array.replicate parents.size .unvisited) where
  size := Array.size_replicate
  known := fun k hk => Or.inl (by rw [Array.getElem?_replicate, if_pos hk])
  done_iff := by simp [Array.getElem?_replicate]
  closed := by simp [Array.getElem?_replicate]
  rooted := by simp [Array.getElem?_replicate]

/-- The parent of a record of the chain is the record put on it next, or where the climb has come to. -/
theorem mem_of_linked : ∀ {chain : List Nat} {cur : Option Nat}, chain.IsChain (fun a b => Leads parents b a) →
    (∀ k ∈ chain.head?, parents[k]? = some cur) → ∀ k ∈ chain, Leads parents k p → p ∈ chain ∨ cur = some p
  | [], _, _, _ => by simp
  | a :: chain, cur, hlinked, hhead => by
    intro k hk hp
    rcases List.mem_cons.mp hk with rfl | hk
    · exact Or.inr (Option.some.inj ((hhead k rfl).symm.trans hp))
    · rw [List.isChain_cons] at hlinked
      have hhead' : ∀ b ∈ chain.head?, parents[b]? = some (some a) := fun b hb => hlinked.1 b hb
      rcases mem_of_linked hlinked.2 hhead' k hk hp with hp | hp
      · exact Or.inl (List.mem_cons_of_mem a hp)
      · exact Or.inl (Option.some.inj hp ▸ List.mem_cons_self)

/-- After a climb to the top its first record and all that it leads to are done as well. -/
theorem Passed.climbed (h : Passed parents i base) (hc : Climbing parents base i marks chain cur)
    (halong : ∀ k ∈ chain, Relation.ReflTransGen (Leads parents) i k) (hend : ∀ k ∈ cur, marks[k]? = some .done) :
    Passed parents (i + 1) (settle marks chain) := by
  obtain ⟨hsettled, -⟩ := hc.settled h.settled hend
  have hold : ∀ k, marks[k]? = some .done ↔ k ∉ chain ∧ base[k]? = some .done := by
    intro k
    rw [hc.marked]
    split <;> simp_all
  have hdone : ∀ k, (settle marks chain)[k]? = some .done ↔ k ∈ chain ∨ base[k]? = some .done := by
    intro k
    rw [getElem?_settle]
    by_cases hk : k ∈ chain
    · have hmark : marks[k]? = some .onChain := by rw [hc.marked, if_pos hk]
      obtain ⟨hlt, -⟩ := Array.getElem?_eq_some_iff.mp hmark
      rw [if_pos ⟨hk, hlt⟩]
      exact iff_of_true rfl (Or.inl hk)
    · rw [if_neg fun hmem => hk hmem.1, hold]
      simp [hk]
  have hcome : ∀ k ∈ cur, (settle marks chain)[k]? = some .done := fun k hk =>
    (hdone k).mpr (Or.inr ((hold k).mp (hend k hk)).2)
  have hclosed : ∀ k p, (settle marks chain)[k]? = some .done → Leads parents k p →
      (settle marks chain)[p]? = some .done := by
    intro k p hk hp
    rcases (hdone k).mp hk with hk | hk
    · rcases mem_of_linked hc.linked hc.here k hk hp with hmem | hcur
      · exact (hdone p).mpr (Or.inl hmem)
      · exact hcome p hcur
    · exact (hdone p).mpr (Or.inr (h.closed k p hk hp))
  refine ⟨hsettled.size, fun k hk => ?_, fun k => ⟨fun hk => ?_, ?_⟩, hclosed, hsettled.rooted⟩
  · have hlt : k < (settle marks chain).size := hsettled.size ▸ hk
    have hmark := Array.getElem?_eq_getElem hlt
    cases hm : (settle marks chain)[k] with
    | unvisited => exact Or.inl (hm ▸ hmark)
    | onChain => exact absurd (hm ▸ hmark) (hsettled.idle k)
    | done => exact Or.inr (hm ▸ hmark)
  · rcases (hdone k).mp hk with hk | hk
    · exact ⟨i, Nat.lt_succ_self i, halong k hk⟩
    · obtain ⟨j, hj, hreach⟩ := (h.done_iff k).mp hk
      exact ⟨j, Nat.lt_succ_of_lt hj, hreach⟩
  · rintro ⟨j, hj, hreach⟩
    have hstart : (settle marks chain)[j]? = some .done := by
      rcases Nat.lt_succ_iff_lt_or_eq.mp hj with hj | rfl
      · exact (hdone j).mpr (Or.inr ((h.done_iff j).mpr ⟨j, hj, .refl⟩))
      · rcases hc.started with hcur | hmem
        · exact hcome j hcur
        · exact (hdone j).mpr (Or.inl hmem)
    induction hreach with
    | refl => exact hstart
    | tail _ hp ih => exact hclosed _ _ ih hp

/-- The part of the chain since a record on it, written oldest first, begins where that record is found. -/
theorem since_eq_drop (hn : chain.Nodup) (hk : k ∈ chain) :
    since chain k = chain.reverse.drop (chain.reverse.idxOf k) := by
  obtain ⟨newer, older, rfl, hmiss⟩ := List.eq_append_cons_of_mem hk
  have holder : k ∉ older.reverse := by
    rw [List.mem_reverse]
    exact (List.nodup_cons.mp hn.of_append_right).1
  rw [Climbing.since_eq hmiss, List.reverse_append, List.reverse_cons, List.append_assoc, List.singleton_append,
    List.idxOf_append_of_notMem holder, List.idxOf_cons_self, Nat.add_zero, List.drop_left]

/-! ### What the walk keeps -/

/-- What holds wherever the walk is. -/
def Sound (parents : Array (Option Nat)) : Ascent → Prop
  | before i marks => i ≤ parents.size ∧ Passed parents i marks
  | climbing i marks chain cur => i < parents.size ∧ ∃ base, Passed parents i base ∧
      Climbing parents base i marks chain cur ∧ ∀ k ∈ chain, Relation.ReflTransGen (Leads parents) i k
  | ended _ => True

theorem Sound.next (hclosed : Closed parents) (h : Sound parents s) : Sound parents (s.next parents) := by
  cases s with
  | before i marks =>
    obtain ⟨-, hpassed⟩ := h
    rw [Ascent.next]
    split
    · rename_i hlt
      exact ⟨hlt, marks, hpassed, .init hpassed.settled hlt, nofun⟩
    · trivial
  | climbing i marks chain cur =>
    obtain ⟨hlt, base, hpassed, hclimbing, halong⟩ := h
    rcases next_climbing hclimbing.size hclimbing.inside with ⟨hend, heq⟩ | ⟨k, -, -, heq⟩ | ⟨k, rfl, hmark, heq⟩ <;>
      rw [heq]
    · exact ⟨hlt, hpassed.climbed hclimbing halong hend⟩
    · trivial
    · exact ⟨hlt, base, hpassed, hclimbing.step hclosed hmark, List.forall_mem_cons.mpr ⟨hclimbing.reach k rfl, halong⟩⟩
  | ended cycle => trivial

theorem sound_after (hclosed : Closed parents) (n : Nat) : Sound parents (after parents n) := by
  induction n with
  | zero => exact ⟨Nat.zero_le _, passed_replicate⟩
  | succ n ih =>
    rw [after_succ]
    exact ih.next hclosed

/-! ### No record twice -/

/-- The record has been reached. -/
def Seen (k : Nat) : Ascent → Prop
  | before _ marks => marks[k]? ≠ some .unvisited
  | climbing _ marks _ _ => marks[k]? ≠ some .unvisited
  | ended _ => True

theorem settle_seen (h : marks[k]? ≠ some .unvisited) : (settle marks chain)[k]? ≠ some .unvisited := by
  rw [getElem?_settle]
  split
  · simp
  · exact h

theorem Seen.next (h : s.Seen k) : (s.next parents).Seen k := by
  fun_cases Ascent.next parents s with
  | case1 i marks hlt => exact h
  | case2 i marks hlt => trivial
  | case3 i marks chain => exact settle_seen h
  | case4 i marks chain j hmark => exact settle_seen h
  | case5 i marks chain j hmark => trivial
  | case6 i marks chain j hmark =>
    rw [Seen, Array.getElem?_setIfInBounds]
    split
    · split <;> simp
    · exact h
  | case7 cycle => trivial

theorem put?_eq_some (h : s.put? = some k) : ¬ s.Seen k ∧ (s.next parents).Seen k := by
  cases s with
  | before i marks => cases h
  | climbing i marks chain cur =>
    cases cur with
    | none => cases h
    | some j =>
      obtain ⟨hmark, heq⟩ := Option.ite_none_right_eq_some.mp h
      obtain rfl := Option.some.inj heq
      refine ⟨fun hseen => hseen hmark, ?_⟩
      rw [Ascent.next, hmark, Option.getD_some, Seen, Array.getElem?_setIfInBounds, if_pos rfl]
      split <;> simp
  | ended cycle => cases h

theorem seen_after {m n : Nat} (hle : m ≤ n) (h : (after parents m).Seen k) : (after parents n).Seen k := by
  induction hle with
  | refl => exact h
  | step _ ih =>
    rw [after_succ]
    exact ih.next

/-- No record is put on a chain twice. -/
theorem put_once {m n : Nat} (hm : (after parents m).put? = some k) (hn : (after parents n).put? = some k) : m = n := by
  have hlater : ∀ {m n : Nat}, (after parents m).put? = some k → (after parents n).put? = some k → ¬ m < n := by
    intro m n hm hn hlt
    have hput : ¬ (after parents n).Seen k ∧ ((after parents n).next parents).Seen k := put?_eq_some hn
    have hseen : (after parents (m + 1)).Seen k := by
      rw [after_succ]
      exact (put?_eq_some hm).2
    exact hput.1 (seen_after hlt hseen)
  exact Nat.le_antisymm (Nat.not_lt.mp (hlater hn hm)) (Nat.not_lt.mp (hlater hm hn))

/-! ### The end of the walk -/

/-- How many steps there can still be. -/
def turnsLeft (parents : Array (Option Nat)) : Ascent → Nat
  | before i marks => 2 * (parents.size - i) + marks.count .unvisited + 1
  | climbing i marks _ _ => 2 * (parents.size - i) + marks.count .unvisited
  | ended _ => 0

theorem count_mark_le {m : Mark} (hm : m ≠ .unvisited) :
    (marks.setIfInBounds k m).count .unvisited ≤ marks.count .unvisited := by
  rw [Array.setIfInBounds_def]
  split
  · rw [Array.count_set, beq_eq_false_iff_ne.mpr hm, if_neg Bool.false_ne_true]
    exact Nat.sub_le _ _
  · exact Nat.le_refl _

theorem count_mark_lt {m : Mark} (hm : m ≠ .unvisited) (h : marks[k]? = some .unvisited) :
    (marks.setIfInBounds k m).count .unvisited < marks.count .unvisited := by
  obtain ⟨hlt, hmark⟩ := Array.getElem?_eq_some_iff.mp h
  have hpos : 0 < marks.count .unvisited := Array.count_pos_iff.mpr (hmark ▸ Array.getElem_mem hlt)
  rw [Array.setIfInBounds_def, dif_pos hlt, Array.count_set, hmark, beq_self_eq_true, if_pos rfl,
    beq_eq_false_iff_ne.mpr hm, if_neg Bool.false_ne_true]
  omega

theorem count_settle_le (marks : Array Mark) (chain : List Nat) :
    (settle marks chain).count .unvisited ≤ marks.count .unvisited := by
  unfold settle
  induction chain generalizing marks with
  | nil => exact Nat.le_refl _
  | cons a chain ih => exact (ih _).trans (count_mark_le (by decide))

theorem turnsLeft_next (h : Sound parents s) : (s.next parents).turnsLeft parents ≤ s.turnsLeft parents - 1 := by
  cases s with
  | before i marks =>
    rw [Ascent.next]
    split <;> simp [turnsLeft]
  | climbing i marks chain cur =>
    obtain ⟨hlt, base, -, hclimbing, -⟩ := h
    rcases next_climbing hclimbing.size hclimbing.inside with ⟨-, heq⟩ | ⟨k, -, -, heq⟩ | ⟨k, -, hmark, heq⟩ <;> rw [heq]
    · have := count_settle_le marks chain
      simp only [turnsLeft]
      omega
    · exact Nat.zero_le _
    · have := count_mark_lt (m := .onChain) (by decide) hmark
      simp only [turnsLeft]
      omega
  | ended cycle => exact Nat.zero_le _

theorem turnsLeft_after (hclosed : Closed parents) (n : Nat) :
    (after parents n).turnsLeft parents ≤ 3 * parents.size + 1 - n := by
  induction n with
  | zero =>
    have hall : (Array.replicate parents.size Mark.unvisited).count .unvisited = parents.size := by
      rw [Array.count_replicate, if_pos (by decide)]
    simp only [after, Function.iterate_zero_apply, turnsLeft, hall]
    omega
  | succ n ih =>
    have := turnsLeft_next (sound_after hclosed n)
    rw [after_succ]
    omega

/-- The cycle that the walk will find. -/
def answer (parents : Array (Option Nat)) : Ascent → Option (List Nat)
  | before i marks => cycleFrom parents (List.range' i (parents.size - i)) marks
  | climbing i marks chain cur =>
    match climb parents (parents.size + 1 - chain.length) marks chain cur with
    | .closed cycle => some cycle
    | .top marks chain => cycleFrom parents (List.range' (i + 1) (parents.size - (i + 1))) (settle marks chain)
  | ended cycle => cycle

theorem answer_next (h : Sound parents s) : (s.next parents).answer parents = s.answer parents := by
  cases s with
  | before i marks =>
    rw [Ascent.next]
    split
    · rename_i hlt
      have hrest : parents.size - i = parents.size - (i + 1) + 1 := by omega
      rw [answer, answer, hrest, List.range'_succ, cycleFrom]
      rfl
    · rename_i hge
      have hrest : parents.size - i = 0 := by omega
      rw [answer, answer, hrest]
      rfl
  | climbing i marks chain cur =>
    obtain ⟨hlt, base, -, hclimbing, -⟩ := h
    -- A chain without repetition leaves enough for one step more.
    obtain ⟨fuel, hfuel⟩ : ∃ fuel, parents.size + 1 - chain.length = fuel + 1 :=
      ⟨parents.size - chain.length, by have := hclimbing.length_le; omega⟩
    rcases next_climbing hclimbing.size hclimbing.inside with ⟨hend, heq⟩ | ⟨k, rfl, hmark, heq⟩ | ⟨k, rfl, hmark, heq⟩ <;>
      rw [heq, answer, answer, hfuel]
    · cases cur with
      | none => rfl
      | some k => rw [climb, hend k rfl]; rfl
    · rw [climb, hmark]; rfl
    · have hless : parents.size + 1 - (k :: chain).length = fuel := by rw [List.length_cons]; omega
      rw [climb, hmark, hless]
      rfl
  | ended cycle => rfl

theorem answer_after (hclosed : Closed parents) (n : Nat) : (after parents n).answer parents = cycle? parents := by
  induction n with
  | zero => rw [cycle?, List.range_eq_range']; rfl
  | succ n ih => rw [after_succ, answer_next (sound_after hclosed n), ih]

/-- Where no step is left, the walk has ended. -/
theorem ended_of_turnsLeft (h : Sound parents s) (hzero : s.turnsLeft parents = 0) : s = ended (s.answer parents) := by
  cases s with
  | before i marks => simp [turnsLeft] at hzero
  | climbing i marks chain cur =>
    have := h.1
    simp only [turnsLeft] at hzero
    omega
  | ended cycle => rfl

/-- What can be relied on in a walk: what is done when a climb begins, that no record is put on a chain twice, that a
record of the chain that is met again is found there, and that the walk ends, with the first cycle if there is one. -/
structure Walked (parents : Array (Option Nat)) : Prop where
  passed : ∀ n i marks, after parents n = before i marks → Passed parents i marks
  once : ∀ m n k, (after parents m).put? = some k → (after parents n).put? = some k → m = n
  found : ∀ n i marks chain k, after parents n = climbing i marks chain (some k) → marks[k]? = some .onChain →
    k ∈ chain ∧ since chain k = chain.reverse.drop (chain.reverse.idxOf k)
  ends : ∃ n ≤ 3 * parents.size + 1, after parents n = ended (cycle? parents)

/-- Whatever the parents, with or without cycles, as long as each of them is a record, the walk can be relied on. -/
theorem walked_of_closed (hclosed : Closed parents) : Walked parents where
  passed := by
    intro n i marks heq
    have hsound := sound_after hclosed n
    rw [heq] at hsound
    exact hsound.2
  once := fun m n k => put_once
  found := by
    intro n i marks chain k heq hmark
    have hsound := sound_after hclosed n
    rw [heq] at hsound
    obtain ⟨-, base, hpassed, hclimbing, -⟩ := hsound
    have hmem := hclimbing.mem_chain hpassed.settled hmark
    exact ⟨hmem, since_eq_drop hclimbing.nodup hmem⟩
  ends := by
    refine ⟨3 * parents.size + 1, Nat.le_refl _, ?_⟩
    have hzero := turnsLeft_after hclosed (3 * parents.size + 1)
    rw [Nat.sub_self, Nat.le_zero] at hzero
    rw [ended_of_turnsLeft (sound_after hclosed _) hzero, answer_after hclosed]

/-- A reply to a reply, and two comments that answer each other. -/
def lineAndCycle : List Comment :=
  [{ id := [116] }, { id := [114], replyingTo := [116] }, { id := [115], replyingTo := [114] },
    { id := [97], replyingTo := [98] }, { id := [98], replyingTo := [97] }]

theorem lineAndCycle_walked : Closed (Thread.parents lineAndCycle) ∧ Walked (Thread.parents lineAndCycle) ∧
    cycle? (Thread.parents lineAndCycle) = some [3, 4] := by
  have hclosed : Closed (Thread.parents lineAndCycle) := closed_parents (show (lineAndCycle.map (·.id)).Nodup by decide)
  exact ⟨hclosed, walked_of_closed hclosed, by decide +kernel⟩

end Ascent

end Marginalia.Thread
