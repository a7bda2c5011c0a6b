import Mathlib
import Marginalia.Proofs.Thread.Cycles

/-!
Which cycle a refusal names. Each comment answers at most one other, so following the replies from any comment
leads into at most one cycle. The refusal names the one that is reached from the first comment whose replies never come
to the post, and of that way only what lies on the cycle itself.
-/

namespace Marginalia.Thread
open scoped Orders
open Relation (ReflTransGen TransGen)

/-! ### Ways into a cycle -/

section
variable {α : Type} {r : α → α → Prop} {l : List α} {a b c : α}

/-- Around a cycle every member leads to every other one and back to itself. -/
theorem IsCycle.transGen (h : IsCycle r l) (ha : a ∈ l) (hb : b ∈ l) : TransGen r a b := by
  obtain ⟨first, rest, rfl⟩ := List.exists_cons_of_ne_nil h.ne_nil
  have hpairs : (first :: (rest ++ [first])).Pairwise (TransGen r) :=
    List.isChain_iff_pairwise.mp (h.chain.imp fun _ _ => TransGen.single)
  have hto : ∀ x ∈ first :: rest, TransGen r x first := fun x hx =>
    (List.pairwise_append.mp (List.cons_append ▸ hpairs)).2.2 x hx first (List.mem_singleton_self first)
  have hof : ∀ x ∈ first :: rest, TransGen r first x := fun x hx =>
    (List.pairwise_cons.mp hpairs).1 x (by simpa [or_comm] using hx)
  exact (hto a ha).trans (hof b hb)

/-- Where each member has one successor, no way leads out of a cycle. -/
theorem IsCycle.mem_of_reach (hu : Relator.RightUnique r) (h : IsCycle r l) (ha : a ∈ l) (hab : ReflTransGen r a b) :
    b ∈ l := by
  induction hab with
  | refl => exact ha
  | tail _ hstep ih =>
    obtain ⟨next, hnext, hleads⟩ := h.next ih
    exact hu hleads hstep ▸ hnext

/-- A way from a member of some cycle leads back to it. -/
theorem reach_back (hu : Relator.RightUnique r) (ha : TransGen r a a) (hab : ReflTransGen r a b) :
    ReflTransGen r b a := by
  induction hab with
  | refl => exact .refl
  | tail _ hstep ih =>
    obtain ⟨next, hnext, hback⟩ := TransGen.head'_iff.mp (ha.trans_right ih)
    exact hu hnext hstep ▸ hback

/-- The members of the cycle that a way leads into are what the way comes to again. -/
theorem IsCycle.mem_iff_reach (hu : Relator.RightUnique r) (h : IsCycle r l) (hb : b ∈ l) (hab : ReflTransGen r a b) :
    c ∈ l ↔ ReflTransGen r a c ∧ TransGen r c c := by
  constructor
  · intro hc
    exact ⟨hab.trans (h.transGen hb hc).to_reflTransGen, h.transGen hc hc⟩
  · rintro ⟨hac, hcycle⟩
    rcases ReflTransGen.total_of_right_unique hu hab hac with hbc | hcb
    · exact h.mem_of_reach hu hb hbc
    · exact h.mem_of_reach hu hb (reach_back hu hcycle hcb)

/-- Around a cycle the successor of a member is the next one, and of the last the first. -/
theorem IsCycle.rel_next (h : IsCycle r l) {k : Nat} (hk : l[k]? = some a) :
    ∃ b, l[(k + 1) % l.length]? = some b ∧ r a b := by
  obtain ⟨hlt, rfl⟩ := List.getElem?_eq_some_iff.mp hk
  have hmod : (k + 1) % l.length < l.length := Nat.mod_lt _ (Nat.zero_lt_of_lt hlt)
  refine ⟨l[(k + 1) % l.length], List.getElem?_eq_getElem hmod, ?_⟩
  have hlen : (l ++ l.take 1).length = l.length + 1 := by
    rw [List.length_append, List.length_take, Nat.min_eq_left (by omega)]
  have hstep := List.isChain_iff_getElem.mp h.chain k (by omega)
  rw [List.getElem_append_left hlt] at hstep
  rcases Nat.lt_or_eq_of_le (Nat.succ_le_of_lt hlt) with hinside | hlast
  · simpa [List.getElem_append_left hinside, Nat.mod_eq_of_lt hinside] using hstep
  · have hfirst : (l ++ l.take 1)[k + 1] = l[0] := by
      rw [List.getElem_append_right hlast.ge, List.getElem_take]
      simp only [hlast, Nat.sub_self]
    have hzero : (k + 1) % l.length = 0 := by rw [← Nat.succ_eq_add_one, hlast, Nat.mod_self]
    simpa only [hfirst, hzero] using hstep

/-- A cycle may be entered anywhere. -/
theorem IsCycle.rotate (h : IsCycle r l) (n : Nat) : IsCycle r (l.rotate n) := by
  induction n generalizing l with
  | zero => rwa [List.rotate_zero]
  | succ n ih =>
    obtain ⟨first, rest, rfl⟩ := List.exists_cons_of_ne_nil h.ne_nil
    rw [List.rotate_cons_succ]
    refine ih ⟨List.concat_ne_nil _ _, (List.perm_append_singleton first rest).nodup_iff.mpr h.nodup, ?_⟩
    cases rest with
    | nil => exact h.chain
    | cons second rest =>
      have hchain : (first :: second :: (rest ++ [first])).IsChain r := h.chain
      obtain ⟨hfirst, hrest⟩ := List.isChain_cons_cons.mp hchain
      rw [← List.cons_append] at hrest
      refine hrest.append (.singleton second) fun x hx y hy => ?_
      rw [List.getLast?_concat] at hx
      rwa [← Option.some.inj hx, ← Option.some.inj hy]

end

/-! ### The cycle of a refusal -/

section
variable {cs : List Comment} {ids : List Text} {a b : Text}

theorem isCycle_fromLeast {r : Text → Text → Prop} (h : IsCycle r ids) : IsCycle r (fromLeast ids) := by
  obtain ⟨_, _, -, -, hrot⟩ := fromLeast_spec h.ne_nil
  obtain ⟨n, hn⟩ := hrot.symm
  exact hn ▸ h.rotate n

theorem fromLeast_ascends (h : ids.Nodup) (hne : ids ≠ []) :
    ∃ least rest, fromLeast ids = least :: rest ∧ ∀ id ∈ rest, least < id := by
  obtain ⟨least, rest, heq, hle, hrot⟩ := fromLeast_spec hne
  have hnodup : (least :: rest).Nodup := heq ▸ hrot.nodup_iff.mpr h
  refine ⟨least, rest, heq, fun id hid => lt_of_le_of_ne (hle id ?_) fun hsame => ?_⟩
  · exact hrot.mem_iff.mp (heq ▸ List.mem_cons_of_mem _ hid)
  · exact (List.nodup_cons.mp hnodup).1 (hsame ▸ hid)

theorem rightUnique_repliesTo (hd : Distinct cs) : Relator.RightUnique (RepliesTo cs) := by
  rintro a b b' ⟨c, hc, rfl, -, rfl⟩ ⟨c', hc', hid, -, rfl⟩
  rw [hd.eq_of_id hc' hc hid]

theorem reach_of_leads (hd : Distinct cs) {i k : Nat} (h : ReflTransGen (Leads (parents cs)) i k) :
    ReflTransGen (RepliesTo cs) (commentAt cs i).id (commentAt cs k).id :=
  h.lift (fun k => (commentAt cs k).id) fun _ _ => repliesTo_of_leads hd

/-- The walk finds its cycle from the first comment whose replies never come to the post. -/
theorem cycle?_reached (hd : Distinct cs) (hr : Resolved cs) {cycle : List Nat} (h : cycle? (parents cs) = some cycle) :
    ∃ (i : Nat) (c : Comment), cs[i]? = some c ∧ ¬Grounded cs c ∧
      (∀ (j : Nat) (d : Comment), j < i → cs[j]? = some d → Grounded cs d) ∧
      ∃ k ∈ cycle, ReflTransGen (Leads (parents cs)) i k := by
  obtain ⟨hcycle, before, i, after, hsplit, hbefore, k, hk, hreach⟩ :=
    cycleFrom_eq_some (closed_parents hd) settled_replicate (fun _ => List.mem_range.mp) h
  have hi : i < cs.length := by
    rw [← size_parents]
    exact List.mem_range.mp (hsplit ▸ List.mem_append_right _ List.mem_cons_self)
  have hc := List.getElem?_eq_getElem hi
  refine ⟨i, cs[i], hc, fun hg => ?_, fun j d hji hj => ?_, k, hk, hreach⟩
  · have hrooted := (rooted_parents_iff hd hr hc).mpr hg
    exact (hrooted.of_reach hreach).not_mem_cycle hcycle hk
  · -- The places are taken in order, so those before `i` come before it.
    have hsorted := List.pairwise_lt_range (n := (parents cs).size)
    rw [hsplit, List.pairwise_append] at hsorted
    have hmem : j ∈ before ++ i :: after := by
      rw [← hsplit, List.mem_range, size_parents]
      exact (List.getElem?_eq_some_iff.mp hj).1
    rcases List.mem_append.mp hmem with hmem | hmem
    · exact (rooted_parents_iff hd hr hj).mp (hbefore j hmem)
    · rcases List.mem_cons.mp hmem with rfl | hmem
      · exact absurd hji (lt_irrefl j)
      · exact absurd hji ((List.pairwise_cons.mp hsorted.2.1).1 j hmem).asymm

end

/-- What a refused cycle says. Its ids are those of comments, none twice; each answers the next and the last the
first; the first is the least. It is the cycle into which the replies lead from the first comment whose replies never
come to the post: an id is named if that way comes to it and from it again to itself. -/
theorem thread_cyclic_reached {cs : List Comment} {ids : List Text} (h : thread cs = .error (.cyclic ids)) :
    ids ≠ [] ∧ ids.Nodup ∧
    (∀ (k : Nat) (id : Text), ids[k]? = some id → (∃ c ∈ cs, c.id = id) ∧
      ∀ c ∈ cs, c.id = id → ids[(k + 1) % ids.length]? = some c.replyingTo) ∧
    (∃ least rest, ids = least :: rest ∧ ∀ id ∈ rest, least < id) ∧
    ∃ (i : Nat) (start : Comment), cs[i]? = some start ∧ ¬Grounded cs start ∧
      (∀ (j : Nat) (d : Comment), j < i → cs[j]? = some d → Grounded cs d) ∧
      ∀ id, id ∈ ids ↔ ReflTransGen (RepliesTo cs) start.id id ∧ TransGen (RepliesTo cs) id id := by
  rcases thread_cases cs with ⟨-, _, -, h'⟩ | ⟨-, -, _, -, h'⟩ | ⟨hd, hr, -, cycle, hcycle, h'⟩ | ⟨-, h'⟩ <;>
    rw [h] at h' <;> cases h'
  have hfound := isCycle_ids hd (cycle?_isCycle (closed_parents hd) hcycle)
  have hnamed := isCycle_fromLeast hfound
  obtain ⟨i, start, hi, hfirst, hearlier, k, hk, hreach⟩ := cycle?_reached hd hr hcycle
  have hway := reach_of_leads hd hreach
  rw [commentAt_eq hi] at hway
  have hentered : (commentAt cs k).id ∈ fromLeast (cycle.map fun k => (commentAt cs k).id) := by
    obtain ⟨_, _, -, -, hrot⟩ := fromLeast_spec hfound.ne_nil
    exact hrot.mem_iff.mpr (List.mem_map.mpr ⟨k, hk, rfl⟩)
  refine ⟨hnamed.ne_nil, hnamed.nodup, fun j id hj => ?_, fromLeast_ascends hfound.nodup hfound.ne_nil,
    i, start, hi, hfirst, hearlier, fun id => hnamed.mem_iff_reach (rightUnique_repliesTo hd) hentered hway⟩
  obtain ⟨next, hnext, c, hc, hid, -, rfl⟩ := hnamed.rel_next hj
  refine ⟨⟨c, hc, hid⟩, fun c' hc' hid' => ?_⟩
  rwa [hd.eq_of_id hc' hc (hid'.trans hid.symm)]

/-- A comment on the post, a comment that leads into a cycle of two others, and a comment that answers itself. -/
def tailIntoCycle : List Comment :=
  [{ id := [116] }, { id := [114], replyingTo := [98] }, { id := [98], replyingTo := [97] },
    { id := [97], replyingTo := [98] }, { id := [120], replyingTo := [120] }]

theorem tailIntoCycle_reached : thread tailIntoCycle = .error (.cyclic [[97], [98]]) ∧
    ∃ (i : Nat) (start : Comment), tailIntoCycle[i]? = some start ∧ ¬Grounded tailIntoCycle start ∧
      (∀ (j : Nat) (d : Comment), j < i → tailIntoCycle[j]? = some d → Grounded tailIntoCycle d) ∧
      ∀ id, id ∈ [[97], [98]] ↔
        ReflTransGen (RepliesTo tailIntoCycle) start.id id ∧ TransGen (RepliesTo tailIntoCycle) id id := by
  have h : thread tailIntoCycle = .error (.cyclic [[97], [98]]) := by cbv
  exact ⟨h, (thread_cyclic_reached h).2.2.2.2⟩

end Marginalia.Thread
