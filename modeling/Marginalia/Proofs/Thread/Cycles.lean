import Mathlib.Data.List.Rotate
import Marginalia.Proofs.Thread.Outcome

/-!
The cycle that a refusal names. Its ids answer each other in turn, and it is written from its least id, so that
the same cycle is always written the same way, wherever it was entered.
-/

namespace Marginalia.Thread
open scoped Orders

/-- A comment with the id `a` answers the id `b`. -/
def RepliesTo (cs : List Comment) (a b : Text) : Prop :=
  ∃ c ∈ cs, c.id = a ∧ c.replyingTo ≠ [] ∧ c.replyingTo = b

/-- There is exactly one cycle of replies, whichever of its ids is named first. -/
def OneCycle (cs : List Comment) : Prop :=
  ∃ ids, IsCycle (RepliesTo cs) ids ∧ ∀ ids', IsCycle (RepliesTo cs) ids' → ids'.IsRotated ids

/-! ### Writing a cycle from its least id -/

/-- The fold of `fromLeast` finds the least id. -/
theorem foldl_least (first : Text) (rest : List Text) :
    rest.foldl (fun a b => if Text.order b a == .lt then b else a) first ∈ first :: rest ∧
    ∀ x ∈ first :: rest, rest.foldl (fun a b => if Text.order b a == .lt then b else a) first ≤ x := by
  induction rest generalizing first with
  | nil => simp
  | cons second rest ih =>
    rw [List.foldl_cons]
    by_cases hlt : second < first
    · rw [if_pos (beq_iff_eq.mpr ((Text.order_compares second first).eq_lt.mpr hlt))]
      obtain ⟨hmem, hle⟩ := ih second
      refine ⟨List.mem_cons_of_mem _ hmem, fun x hx => ?_⟩
      rcases List.mem_cons.mp hx with rfl | hx
      · exact (hle second List.mem_cons_self).trans hlt.le
      · exact hle x hx
    · rw [if_neg fun h => hlt ((Text.order_compares second first).eq_lt.mp (beq_iff_eq.mp h))]
      obtain ⟨hmem, hle⟩ := ih first
      refine ⟨?_, fun x hx => ?_⟩
      · rcases List.mem_cons.mp hmem with h | h
        · rw [h]
          exact List.mem_cons_self
        · exact List.mem_cons_of_mem _ (List.mem_cons_of_mem _ h)
      · rcases List.mem_cons.mp hx with rfl | hx
        · exact hle x List.mem_cons_self
        · rcases List.mem_cons.mp hx with rfl | hx
          · exact (hle first List.mem_cons_self).trans (not_lt.mp hlt)
          · exact hle x (List.mem_cons_of_mem _ hx)

/-- Written from its least id, a cycle is the same cycle beginning there. -/
theorem fromLeast_spec {ids : List Text} (hne : ids ≠ []) :
    ∃ least rest, fromLeast ids = least :: rest ∧ (∀ x ∈ ids, least ≤ x) ∧ (fromLeast ids).IsRotated ids := by
  obtain ⟨first, rest, rfl⟩ := List.exists_cons_of_ne_nil hne
  obtain ⟨hmem, hle⟩ := foldl_least first rest
  rw [fromLeast]
  generalize rest.foldl (fun a b => if Text.order b a == .lt then b else a) first = least at hmem hle
  obtain ⟨before, after, hsplit, hmiss⟩ := List.eq_append_cons_of_mem hmem
  have htake : (first :: rest).takeWhile (· != least) = before := by rw [hsplit, takeWhile_ne hmiss]
  have hdrop : (first :: rest).dropWhile (· != least) = least :: after := by
    have hboth := List.takeWhile_append_dropWhile (p := (· != least)) (l := first :: rest)
    rw [htake, hsplit] at hboth
    rw [hsplit]
    exact List.append_cancel_left hboth
  rw [hdrop, htake]
  refine ⟨least, after ++ before, rfl, hle, ?_⟩
  rw [hsplit]
  exact List.isRotated_append

/-- A list without repetition has one rotation with a given first member. -/
theorem eq_of_isRotated {α : Type} {a : α} {l l' : List α} (hn : (a :: l).Nodup)
    (h : (a :: l).IsRotated (a :: l')) : a :: l = a :: l' := by
  obtain ⟨n, hrot⟩ := h
  rw [← List.rotate_mod] at hrot
  have hlt : n % (a :: l).length < (a :: l).length := Nat.mod_lt _ (by simp)
  have hhead := List.head?_rotate hlt
  rw [hrot, List.head?_cons] at hhead
  have hzero : 0 = n % (a :: l).length :=
    (List.getElem?_inj (by simp) hn).mp (hhead ▸ List.getElem?_cons_zero)
  rw [← hzero, List.rotate_zero] at hrot
  exact hrot

/-- A cycle is written the same way wherever it is entered. -/
theorem fromLeast_eq_of_isRotated {ids ids' : List Text} (hn : ids.Nodup) (hne : ids ≠ [])
    (h : ids.IsRotated ids') : fromLeast ids = fromLeast ids' := by
  have hne' : ids' ≠ [] := fun h' => hne (List.isRotated_nil_iff.mp (h' ▸ h))
  obtain ⟨least, rest, heq, hle, hrot⟩ := fromLeast_spec hne
  obtain ⟨least', rest', heq', hle', hrot'⟩ := fromLeast_spec hne'
  have hmem : least ∈ ids := hrot.mem_iff.mp (heq ▸ List.mem_cons_self)
  have hmem' : least' ∈ ids' := hrot'.mem_iff.mp (heq' ▸ List.mem_cons_self)
  obtain rfl : least = least' := le_antisymm (hle _ (h.mem_iff.mpr hmem')) (hle' _ (h.mem_iff.mp hmem))
  have hsame : (fromLeast ids).IsRotated (fromLeast ids') := (hrot.trans h).trans hrot'.symm
  rw [heq, heq'] at hsame ⊢
  exact eq_of_isRotated (heq ▸ hrot.nodup_iff.mpr hn) hsame

/-! ### The cycle of a refusal -/

theorem IsCycle.map {α β : Type} {r : α → α → Prop} {s : β → β → Prop} {l : List α} (h : IsCycle r l) (f : α → β)
    (hstep : ∀ a b, r a b → s (f a) (f b)) (hinj : ∀ a ∈ l, ∀ b ∈ l, f a = f b → a = b) :
    IsCycle s (l.map f) where
  ne_nil := by simpa using h.ne_nil
  nodup := h.nodup.map_on hinj
  chain := by
    rw [← List.map_take, ← List.map_append]
    exact List.isChain_map_of_isChain f hstep h.chain

theorem repliesTo_of_leads {cs : List Comment} (hd : Distinct cs) {k i : Nat} (h : Leads (parents cs) k i) :
    RepliesTo cs (commentAt cs k).id (commentAt cs i).id := by
  obtain ⟨c, p, hc, hp, hne, hid⟩ := (leads_parents_iff hd).mp h
  rw [commentAt_eq hc, commentAt_eq hp]
  exact ⟨c, List.mem_of_getElem? hc, rfl, hne, hid.symm⟩

theorem isCycle_ids {cs : List Comment} (hd : Distinct cs) {cycle : List Nat}
    (h : IsCycle (Leads (parents cs)) cycle) :
    IsCycle (RepliesTo cs) (cycle.map fun k => (commentAt cs k).id) := by
  refine h.map _ (fun _ _ => repliesTo_of_leads hd) fun a ha b hb hid => ?_
  obtain ⟨_, -, ha⟩ := h.next ha
  obtain ⟨_, -, hb⟩ := h.next hb
  exact hd.eq_place (getElem?_of_parents ha) (getElem?_of_parents hb) hid

/-- The ids that are refused are a cycle of replies, written from its least id. -/
theorem isCycle_of_thread {cs : List Comment} {ids : List Text} (h : thread cs = .error (.cyclic ids)) :
    ∃ found, IsCycle (RepliesTo cs) found ∧ ids = fromLeast found := by
  rcases thread_cases cs with ⟨-, _, -, h'⟩ | ⟨-, -, _, -, h'⟩ | ⟨hd, -, -, cycle, hcycle, h'⟩ | ⟨-, h'⟩ <;>
    rw [h] at h' <;> cases h'
  exact ⟨_, isCycle_ids hd (cycle?_isCycle (closed_parents hd) hcycle), rfl⟩

end Marginalia.Thread
