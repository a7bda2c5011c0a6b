import Mathlib.Data.List.Chain
import Mathlib.Data.List.Nodup
import Mathlib.Data.List.Perm.Subperm
import Mathlib.Logic.Relation
import Marginalia.Comment.Thread

/-!
The walk along the chains of replies. Each climb starts at marks that hold only settled records, puts every
record it passes on its chain, and ends at a record that leads to the top or at one of its own chain. So the walk
finds no cycle exactly when every record leads to the top, and what it finds is a cycle.
-/

namespace Marginalia.Thread

/-! ### Cycles -/

/-- Each member of the list is related to the next, and the last to the first. -/
structure IsCycle {α : Type} (r : α → α → Prop) (l : List α) : Prop where
  ne_nil : l ≠ []
  nodup : l.Nodup
  chain : (l ++ l.take 1).IsChain r

theorem IsCycle.next {α : Type} {r : α → α → Prop} {l : List α} (h : IsCycle r l) {a : α} (ha : a ∈ l) :
    ∃ b ∈ l, r a b := by
  obtain ⟨s, t, rfl⟩ := List.append_of_mem ha
  have hchain := h.chain
  cases t with
  | cons b t =>
    rw [List.append_assoc, List.cons_append, List.cons_append, List.isChain_append_cons_cons] at hchain
    exact ⟨b, by simp, hchain.2.1⟩
  | nil =>
    cases s with
    | nil => exact ⟨a, by simp, List.isChain_pair.mp hchain⟩
    | cons b s =>
      refine ⟨b, by simp, ?_⟩
      have hshape : (b :: s ++ [a]) ++ (b :: s ++ [a]).take 1 = (b :: s) ++ a :: b :: [] := by simp
      rw [hshape, List.isChain_append_cons_cons] at hchain
      exact hchain.2.1

/-- What stands before the first `a`. -/
theorem takeWhile_ne {α : Type} [BEq α] [LawfulBEq α] {a : α} {before after : List α} (hmiss : a ∉ before) :
    (before ++ a :: after).takeWhile (· != a) = before := by
  have hall : ∀ b ∈ before, (b != a) = true := fun b hb => by
    rw [bne_iff_ne]
    rintro rfl
    exact hmiss hb
  rw [List.takeWhile_append_of_pos hall, List.takeWhile_cons_of_neg (by simp), List.append_nil]

/-! ### Records and their parents -/

section
variable {parents : Array (Option Nat)}

/-- The record at `k` answers the record at `p`. -/
def Leads (parents : Array (Option Nat)) (k p : Nat) : Prop := parents[k]? = some (some p)

/-- Every parent is a record. -/
def Closed (parents : Array (Option Nat)) : Prop := ∀ k p, Leads parents k p → p < parents.size

/-- Following the parents from a record leads to a record without one. -/
inductive Rooted (parents : Array (Option Nat)) : Nat → Prop where
  | top {k : Nat} : parents[k]? = some none → Rooted parents k
  | step {k p : Nat} : Leads parents k p → Rooted parents p → Rooted parents k

theorem Rooted.parent {k p : Nat} (h : Rooted parents k) (hp : Leads parents k p) : Rooted parents p := by
  cases h with
  | top ht =>
    rw [Leads, ht] at hp
    cases hp
  | step hp' hrooted =>
    rw [Leads, hp', Option.some.injEq, Option.some.injEq] at hp
    exact hp ▸ hrooted

theorem Rooted.of_reach {k p : Nat} (h : Rooted parents k) (hreach : Relation.ReflTransGen (Leads parents) k p) :
    Rooted parents p := by
  induction hreach with
  | refl => exact h
  | tail _ hp ih => exact ih.parent hp

theorem Rooted.not_mem_cycle {k : Nat} (h : Rooted parents k) {cycle : List Nat}
    (hc : IsCycle (Leads parents) cycle) : k ∉ cycle := by
  induction h with
  | top ht =>
    intro hmem
    obtain ⟨b, -, hb⟩ := hc.next hmem
    rw [Leads, ht] at hb
    cases hb
  | step hp _ ih =>
    intro hmem
    obtain ⟨b, hbmem, hb⟩ := hc.next hmem
    rw [Leads, hp, Option.some.injEq, Option.some.injEq] at hb
    exact ih (hb ▸ hbmem)

/-- A chain, latest first, leads to the top if its latest record does. -/
theorem rooted_of_linked : ∀ {chain : List Nat}, chain.IsChain (fun a b => Leads parents b a) →
    (∀ k ∈ chain.head?, Rooted parents k) → ∀ k ∈ chain, Rooted parents k
  | [], _, _ => by simp
  | a :: chain, hlinked, hhead => by
    have ha : Rooted parents a := hhead a rfl
    rw [List.isChain_cons] at hlinked
    intro k hk
    rcases List.mem_cons.mp hk with rfl | hk
    · exact ha
    · exact rooted_of_linked hlinked.2 (fun b hb => .step (hlinked.1 b hb) ha) k hk

/-! ### One climb -/

/-- Between two climbs no record is on a chain, and the records that are done lead to the top. -/
structure Settled (parents : Array (Option Nat)) (marks : Array Mark) : Prop where
  size : marks.size = parents.size
  idle : ∀ k : Nat, marks[k]? ≠ some .onChain
  rooted : ∀ k : Nat, marks[k]? = some .done → Rooted parents k

/-- A climb from `start` has come to `cur`: its chain, latest first, leads from `start` to `cur`, and the marks
are those at its beginning but for the chain. -/
structure Climbing (parents : Array (Option Nat)) (base : Array Mark) (start : Nat) (marks : Array Mark)
    (chain : List Nat) (cur : Option Nat) : Prop where
  size : marks.size = parents.size
  marked : ∀ k : Nat, marks[k]? = if k ∈ chain then some .onChain else base[k]?
  nodup : chain.Nodup
  linked : chain.IsChain (fun a b => Leads parents b a)
  here : ∀ k ∈ chain.head?, parents[k]? = some cur
  reach : ∀ k ∈ cur, Relation.ReflTransGen (Leads parents) start k
  inside : ∀ k ∈ cur, k < parents.size
  started : cur = some start ∨ start ∈ chain

namespace Climbing
variable {base marks : Array Mark} {start k : Nat} {chain : List Nat} {cur : Option Nat}

theorem init (hs : Settled parents base) (hstart : start < parents.size) :
    Climbing parents base start base [] (some start) where
  size := hs.size
  marked := by simp
  nodup := List.nodup_nil
  linked := List.isChain_nil
  here := by simp
  reach := by
    rintro k ⟨⟩
    exact .refl
  inside := by
    rintro k ⟨⟩
    exact hstart
  started := Or.inl rfl

theorem length_le (h : Climbing parents base start marks chain cur) : chain.length ≤ parents.size := by
  have hsub : chain ⊆ List.range parents.size := fun k hk => by
    have hmark : marks[k]? = some .onChain := by rw [h.marked, if_pos hk]
    obtain ⟨hlt, -⟩ := Array.getElem?_eq_some_iff.mp hmark
    exact List.mem_range.mpr (h.size ▸ hlt)
  simpa using (List.subperm_of_subset h.nodup hsub).length_le

/-- Passing a record not reached before. -/
theorem step (hclosed : Closed parents) (h : Climbing parents base start marks chain (some k))
    (hmark : marks[k]? = some .unvisited) :
    Climbing parents base start (marks.setIfInBounds k .onChain) (k :: chain) ((parents[k]?).getD none) := by
  have hk : k < parents.size := h.inside k rfl
  have hmiss : k ∉ chain := fun hmem => by
    rw [h.marked, if_pos hmem] at hmark
    cases hmark
  have hparent : parents[k]? = some ((parents[k]?).getD none) := by
    rw [Array.getElem?_eq_getElem hk, Option.getD_some]
  have hup : ∀ p ∈ (parents[k]?).getD none, Leads parents k p := fun p hp => by
    rw [Leads, hparent, hp]
  refine ⟨?_, fun j => ?_, List.nodup_cons.mpr ⟨hmiss, h.nodup⟩, ?_, ?_, ?_, ?_, ?_⟩
  · rw [Array.size_setIfInBounds, h.size]
  · rw [Array.getElem?_setIfInBounds, h.marked]
    by_cases hj : k = j
    · subst hj
      simp [h.size, hk]
    · simp [hj, Ne.symm hj]
  · rw [List.isChain_cons]
    exact ⟨fun b hb => h.here b hb, h.linked⟩
  · rintro j ⟨⟩
    exact hparent
  · exact fun p hp => (h.reach k rfl).tail (hup p hp)
  · exact fun p hp => hclosed k p (hup p hp)
  · rcases h.started with hst | hst
    · exact Or.inr (Option.some.inj hst ▸ List.mem_cons_self)
    · exact Or.inr (List.mem_cons_of_mem _ hst)

theorem since_eq {newer older : List Nat} (hmiss : k ∉ newer) :
    since (newer ++ k :: older) k = k :: newer.reverse := by
  rw [since, takeWhile_ne hmiss]

/-- A record that is marked as on the chain is found there. -/
theorem mem_chain (hs : Settled parents base) (h : Climbing parents base start marks chain cur)
    (hmark : marks[k]? = some .onChain) : k ∈ chain := by
  by_contra hmiss
  rw [h.marked, if_neg hmiss] at hmark
  exact hs.idle k hmark

/-- Meeting a record of the chain again closes a cycle. -/
theorem isCycle (hs : Settled parents base) (h : Climbing parents base start marks chain (some k))
    (hmark : marks[k]? = some .onChain) : IsCycle (Leads parents) (since chain k) := by
  obtain ⟨newer, older, rfl, hmiss⟩ := List.eq_append_cons_of_mem (h.mem_chain hs hmark)
  have hhead : ∀ a ∈ (newer ++ [k]).head?, Leads parents a k := fun a ha =>
    h.here a (by cases newer <;> simpa using ha)
  have hlinked : (newer ++ [k]).IsChain (fun a b => Leads parents b a) := by
    have := h.linked
    rw [← List.singleton_append, ← List.append_assoc] at this
    exact this.left_of_append
  rw [since_eq hmiss]
  refine ⟨List.cons_ne_nil _ _, ?_, ?_⟩
  · have hnodup := h.nodup.sublist (List.sublist_append_left newer _)
    exact List.nodup_cons.mpr ⟨by simpa using hmiss, List.nodup_reverse.mpr hnodup⟩
  · -- Written latest first, the cycle with its first member repeated is the chain down to `k` behind `k`.
    have hshape : (k :: newer.reverse) ++ (k :: newer.reverse).take 1 = (k :: (newer ++ [k])).reverse := by simp
    rw [hshape, List.isChain_reverse, List.isChain_cons]
    exact ⟨hhead, hlinked⟩

end Climbing

/-! ### All climbs -/

theorem getElem?_settle {marks : Array Mark} {chain : List Nat} (k : Nat) : (settle marks chain)[k]? =
    if k ∈ chain ∧ k < marks.size then some .done else marks[k]? := by
  unfold settle
  induction chain generalizing marks with
  | nil => simp
  | cons a chain ih =>
    rw [List.foldl_cons, ih, Array.size_setIfInBounds, Array.getElem?_setIfInBounds]
    by_cases hk : a = k
    · subst hk
      by_cases hlt : a < marks.size <;> simp [hlt]
    · simp [hk, Ne.symm hk]

theorem size_settle {marks : Array Mark} {chain : List Nat} : (settle marks chain).size = marks.size := by
  unfold settle
  induction chain generalizing marks with
  | nil => rfl
  | cons a chain ih => rw [List.foldl_cons, ih, Array.size_setIfInBounds]

/-- What a climb that began at `start` ends with: a chain that goes on to a record that is done or to nothing,
or a cycle that `start` leads to. -/
def Climb.Ends (parents : Array (Option Nat)) (base : Array Mark) (start : Nat) : Climb → Prop
  | .top marks chain => ∃ cur, Climbing parents base start marks chain cur ∧ ∀ k ∈ cur, marks[k]? = some .done
  | .closed cycle => IsCycle (Leads parents) cycle ∧ ∃ k ∈ cycle, Relation.ReflTransGen (Leads parents) start k

theorem climb_ends (hclosed : Closed parents) {base : Array Mark} (hs : Settled parents base) {start : Nat} :
    ∀ {fuel : Nat} {marks : Array Mark} {chain : List Nat} {cur : Option Nat},
      Climbing parents base start marks chain cur → fuel + chain.length = parents.size + 1 →
      (climb parents fuel marks chain cur).Ends parents base start := by
  intro fuel
  induction fuel with
  | zero =>
    -- A chain without repetition is too short to use up what a climb may pass.
    intro marks chain cur h hfuel
    have := h.length_le
    omega
  | succ fuel ih =>
    intro marks chain cur h hfuel
    cases cur with
    | none => exact ⟨none, h, by simp⟩
    | some k =>
      have hlt : k < marks.size := h.size ▸ h.inside k rfl
      have hmark : marks[k]? = some marks[k] := Array.getElem?_eq_getElem hlt
      rw [climb, hmark, Option.getD_some]
      cases hm : marks[k] with
      | done =>
        refine ⟨some k, h, ?_⟩
        rintro j ⟨⟩
        rw [hmark, hm]
      | onChain =>
        rw [hm] at hmark
        exact ⟨h.isCycle hs hmark, k, List.mem_cons_self, h.reach k rfl⟩
      | unvisited =>
        rw [hm] at hmark
        exact ih (h.step hclosed hmark) (by rw [List.length_cons]; omega)

/-- After a climb to the top all its records are settled, the first among them. -/
theorem Climbing.settled {base marks : Array Mark} {start : Nat} {chain : List Nat} {cur : Option Nat}
    (hs : Settled parents base) (h : Climbing parents base start marks chain cur)
    (hdone : ∀ k ∈ cur, marks[k]? = some .done) :
    Settled parents (settle marks chain) ∧ Rooted parents start := by
  have hold : ∀ k, marks[k]? = some .done → Rooted parents k := fun k hk => by
    rw [h.marked] at hk
    split at hk
    · cases hk
    · exact hs.rooted k hk
  have hchain : ∀ k ∈ chain, Rooted parents k := by
    refine rooted_of_linked h.linked fun k hk => ?_
    have hparent := h.here k hk
    cases cur with
    | none => exact .top hparent
    | some p => exact .step hparent (hold p (hdone p rfl))
  refine ⟨⟨by rw [size_settle, h.size], fun k => ?_, fun k hk => ?_⟩, ?_⟩
  · rw [getElem?_settle]
    split
    · simp
    · next hmiss =>
      rw [h.marked]
      split
      · next hmem =>
        have hmark : marks[k]? = some .onChain := by rw [h.marked, if_pos hmem]
        exact absurd ⟨hmem, (Array.getElem?_eq_some_iff.mp hmark).1⟩ hmiss
      · exact hs.idle k
  · rw [getElem?_settle] at hk
    split at hk
    · next hmem => exact hchain k hmem.1
    · exact hold k hk
  · rcases h.started with hst | hst
    · exact hold start (hdone start hst)
    · exact hchain start hst

theorem climb_start_ends (hclosed : Closed parents) {marks : Array Mark} (hs : Settled parents marks) {start : Nat}
    (hlt : start < parents.size) :
    (climb parents (parents.size + 1) marks [] (some start)).Ends parents marks start :=
  climb_ends hclosed hs (.init hs hlt) rfl

theorem cycleFrom_eq_none (hclosed : Closed parents) : ∀ {places : List Nat} {marks : Array Mark},
    Settled parents marks → (∀ i ∈ places, i < parents.size) → cycleFrom parents places marks = none →
    ∀ i ∈ places, Rooted parents i
  | [], _, _, _, _ => by simp
  | start :: rest, marks, hs, hlt, h => by
    have hends := climb_start_ends hclosed hs (hlt start List.mem_cons_self)
    rw [cycleFrom] at h
    cases hclimb : climb parents (parents.size + 1) marks [] (some start) with
    | closed found =>
      rw [hclimb] at h
      cases h
    | top marks' chain =>
      rw [hclimb] at h hends
      obtain ⟨cur, hclimb, hdone⟩ := hends
      obtain ⟨hs', hstart⟩ := hclimb.settled hs hdone
      intro i hi
      rcases List.mem_cons.mp hi with rfl | hi
      · exact hstart
      · exact cycleFrom_eq_none hclosed hs' (fun j hj => hlt j (List.mem_cons_of_mem _ hj)) h i hi

/-- The cycle found is one that the first record not leading to the top leads to. -/
theorem cycleFrom_eq_some (hclosed : Closed parents) {cycle : List Nat} : ∀ {places : List Nat} {marks : Array Mark},
    Settled parents marks → (∀ i ∈ places, i < parents.size) → cycleFrom parents places marks = some cycle →
    IsCycle (Leads parents) cycle ∧ ∃ before i after, places = before ++ i :: after ∧
      (∀ j ∈ before, Rooted parents j) ∧ ∃ k ∈ cycle, Relation.ReflTransGen (Leads parents) i k
  | [], _, _, _, h => nomatch h
  | start :: rest, marks, hs, hlt, h => by
    have hends := climb_start_ends hclosed hs (hlt start List.mem_cons_self)
    rw [cycleFrom] at h
    cases hclimb : climb parents (parents.size + 1) marks [] (some start) with
    | closed found =>
      rw [hclimb] at h hends
      obtain rfl : found = cycle := Option.some.inj h
      exact ⟨hends.1, [], start, rest, rfl, by simp, hends.2⟩
    | top marks' chain =>
      rw [hclimb] at h hends
      obtain ⟨cur, hclimb, hdone⟩ := hends
      obtain ⟨hs', hstart⟩ := hclimb.settled hs hdone
      obtain ⟨hcycle, before, i, after, hsplit, hbefore, hreach⟩ :=
        cycleFrom_eq_some hclosed hs' (fun j hj => hlt j (List.mem_cons_of_mem _ hj)) h
      refine ⟨hcycle, start :: before, i, after, by rw [hsplit, List.cons_append], ?_, hreach⟩
      intro j hj
      rcases List.mem_cons.mp hj with rfl | hj
      · exact hstart
      · exact hbefore j hj

/-- Nothing is marked at first. -/
theorem settled_replicate : Settled parents (Array.replicate parents.size .unvisited) where
  size := Array.size_replicate
  idle k h := by
    rw [Array.getElem?_replicate] at h
    split at h <;> cases h
  rooted k h := by
    rw [Array.getElem?_replicate] at h
    split at h <;> cases h

theorem cycle?_eq_none_iff (hclosed : Closed parents) :
    cycle? parents = none ↔ ∀ k < parents.size, Rooted parents k := by
  constructor
  · intro h k hk
    exact cycleFrom_eq_none hclosed settled_replicate (fun _ => List.mem_range.mp) h k (List.mem_range.mpr hk)
  · intro h
    cases hfound : cycle? parents with
    | none => rfl
    | some cycle =>
      obtain ⟨hcycle, before, i, after, hsplit, -, k, hk, hreach⟩ :=
        cycleFrom_eq_some hclosed settled_replicate (fun _ => List.mem_range.mp) hfound
      have hi : i < parents.size := List.mem_range.mp (hsplit ▸ List.mem_append_right _ List.mem_cons_self)
      exact absurd hk (((h i hi).of_reach hreach).not_mem_cycle hcycle)

theorem cycle?_isCycle (hclosed : Closed parents) {cycle : List Nat} (h : cycle? parents = some cycle) :
    IsCycle (Leads parents) cycle :=
  (cycleFrom_eq_some hclosed settled_replicate (fun _ => List.mem_range.mp) h).1

end

end Marginalia.Thread
