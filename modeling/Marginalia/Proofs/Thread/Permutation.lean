import Marginalia.Proofs.Thread.Cycles
import Marginalia.Proofs.Thread.Placement

/-!
The order in which comments are given does not count. Ids, replies and lines depend only on which comments there
are; so do the thread, the kind of a refusal and, where there is only one cycle, the ids it names.
-/

namespace Marginalia

/-- The kinds of refusal. -/
inductive ThreadError.Kind where
  | duplicate
  | dangling
  | cyclic
deriving DecidableEq, Repr

def ThreadError.kind : ThreadError → ThreadError.Kind
  | .duplicate _ => .duplicate
  | .dangling _ _ => .dangling
  | .cyclic _ => .cyclic

namespace Thread

section
variable {cs cs' : List Comment}

theorem Dangles.perm {c : Comment} (h : Dangles cs c) (hp : cs.Perm cs') : Dangles cs' c :=
  ⟨h.1, fun p hmem => h.2 p (hp.mem_iff.mpr hmem)⟩

theorem Resolved.perm (h : Resolved cs) (hp : cs.Perm cs') : Resolved cs' :=
  fun c hc hdangles => h c (hp.mem_iff.mpr hc) (hdangles.perm hp.symm)

theorem Grounded.perm {c : Comment} (h : Grounded cs c) (hp : cs.Perm cs') : Grounded cs' c := by
  obtain ⟨line, hline⟩ := h
  exact ⟨line, hline.mono hp.subset⟩

theorem repliesTo_perm (hp : cs.Perm cs') {a b : Text} (h : RepliesTo cs a b) : RepliesTo cs' a b := by
  obtain ⟨c, hc, hrest⟩ := h
  exact ⟨c, hp.mem_iff.mp hc, hrest⟩

theorem IsCycle.imp {α : Type} {r s : α → α → Prop} {l : List α} (h : IsCycle r l) (hrs : ∀ a b, r a b → s a b) :
    IsCycle s l where
  ne_nil := h.ne_nil
  nodup := h.nodup
  chain := h.chain.imp hrs

/-- The refusals of the only cycle name the same ids. -/
theorem cyclic_perm (hp : cs.Perm cs') (hone : OneCycle cs) {ids ids' : List Text}
    (h : thread cs = .error (.cyclic ids)) (h' : thread cs' = .error (.cyclic ids')) : ids = ids' := by
  obtain ⟨found, hfound, rfl⟩ := isCycle_of_thread h
  obtain ⟨found', hfound', rfl⟩ := isCycle_of_thread h'
  obtain ⟨cycle, -, honly⟩ := hone
  have hrot := honly found hfound
  have hrot' := honly found' (hfound'.imp fun _ _ => repliesTo_perm hp.symm)
  exact fromLeast_eq_of_isRotated hfound.nodup hfound.ne_nil (hrot.trans hrot'.symm)

/-- The same comments in another order are refused for the same kind of reason. -/
theorem kind_perm (hp : cs.Perm cs') {e : ThreadError} (h : thread cs = .error e) :
    ∃ e', thread cs' = .error e' ∧ e.kind = e'.kind := by
  cases e with
  | duplicate id =>
    have hd := thread_duplicate_iff.mp ⟨id, h⟩
    obtain ⟨id', h'⟩ := thread_duplicate_iff.mpr fun hd' => hd (Distinct.perm hd' hp.symm)
    exact ⟨_, h', rfl⟩
  | dangling id target =>
    obtain ⟨hd, hr⟩ := thread_dangling_iff.mp ⟨id, target, h⟩
    obtain ⟨id', target', h'⟩ := thread_dangling_iff.mpr ⟨hd.perm hp, fun hr' => hr (hr'.perm hp.symm)⟩
    exact ⟨_, h', rfl⟩
  | cyclic ids =>
    obtain ⟨hd, hr, c, hc, hg⟩ := thread_cyclic_iff.mp ⟨ids, h⟩
    obtain ⟨ids', h'⟩ := thread_cyclic_iff.mpr
      ⟨hd.perm hp, hr.perm hp, c, hp.mem_iff.mp hc, fun hg' => hg (hg'.perm hp.symm)⟩
    exact ⟨_, h', rfl⟩

theorem ok_perm (hp : cs.Perm cs') {ts : List ThreadedComment} (h : thread cs = .ok ts) : thread cs' = .ok ts := by
  obtain ⟨hf, hthread⟩ := isThread_of_thread h
  have hf' := hf.perm hp
  exact thread_ok_iff.mpr ⟨hf', (hthread.perm_of_perm hf hp).unique hf' hf'.isThread⟩

end

/-- The order in which comments are given does not count: they get the same thread, or are refused for the same
kind of reason, and the refusals of the only cycle name the same ids. -/
theorem thread_order_irrelevant {cs cs' : List Comment} (hp : cs.Perm cs') :
    (∃ ts, thread cs = .ok ts ∧ thread cs' = .ok ts) ∨
    ∃ e e', thread cs = .error e ∧ thread cs' = .error e' ∧ e.kind = e'.kind ∧
      ∀ ids ids', e = .cyclic ids → e' = .cyclic ids' → OneCycle cs → ids = ids' := by
  cases h : thread cs with
  | ok ts => exact Or.inl ⟨ts, rfl, ok_perm hp h⟩
  | error e =>
    obtain ⟨e', h', hkind⟩ := kind_perm hp h
    refine Or.inr ⟨e, e', rfl, h', hkind, ?_⟩
    rintro ids ids' rfl rfl hone
    exact cyclic_perm hp hone h h'

/-- Two comments that answer each other. -/
def mutualReplies : List Comment := [{ id := [98], replyingTo := [97] }, { id := [97], replyingTo := [98] }]

theorem repliesTo_mutualReplies {a b : Text} (h : RepliesTo mutualReplies a b) :
    a = [98] ∧ b = [97] ∨ a = [97] ∧ b = [98] := by
  obtain ⟨c, hc, rfl, -, rfl⟩ := h
  simp only [mutualReplies, List.mem_cons, List.not_mem_nil, or_false] at hc
  rcases hc with rfl | rfl <;> simp

theorem isCycle_mutualReplies : IsCycle (RepliesTo mutualReplies) [[97], [98]] where
  ne_nil := List.cons_ne_nil _ _
  nodup := by decide
  chain := by
    have h : RepliesTo mutualReplies [97] [98] :=
      ⟨{ id := [97], replyingTo := [98] }, by simp [mutualReplies], rfl, List.cons_ne_nil _ _, rfl⟩
    have h' : RepliesTo mutualReplies [98] [97] :=
      ⟨{ id := [98], replyingTo := [97] }, by simp [mutualReplies], rfl, List.cons_ne_nil _ _, rfl⟩
    exact .cons_cons h (.cons_cons h' (.singleton _))

theorem oneCycle_mutualReplies : OneCycle mutualReplies := by
  refine ⟨_, isCycle_mutualReplies, ?_⟩
  rintro (_ | ⟨x, _ | ⟨y, _ | ⟨z, rest⟩⟩⟩) ⟨hne, hnodup, hchain⟩
  · exact absurd rfl hne
  · rcases repliesTo_mutualReplies (List.isChain_pair.mp hchain) with ⟨rfl, h⟩ | ⟨rfl, h⟩ <;> cases h
  · rcases repliesTo_mutualReplies (List.isChain_cons_cons.mp hchain).1 with ⟨rfl, rfl⟩ | ⟨rfl, rfl⟩
    · exact (List.isRotated_concat [98] [[97]]).symm
    · exact List.IsRotated.refl _
  · -- A third id would be the first one again.
    obtain ⟨hxy, hrest⟩ := List.isChain_cons_cons.mp hchain
    obtain ⟨hyz, -⟩ := List.isChain_cons_cons.mp hrest
    have hzx : z = x := by
      rcases repliesTo_mutualReplies hxy with ⟨rfl, rfl⟩ | ⟨rfl, rfl⟩
      · rcases repliesTo_mutualReplies hyz with ⟨h, -⟩ | ⟨-, rfl⟩
        · cases h
        · rfl
      · rcases repliesTo_mutualReplies hyz with ⟨-, rfl⟩ | ⟨h, -⟩
        · rfl
        · cases h
    simp [hzx] at hnodup

theorem mutualReplies_order_irrelevant : mutualReplies.Perm mutualReplies.reverse ∧ OneCycle mutualReplies ∧
    ∃ ids, thread mutualReplies = .error (.cyclic ids) ∧ thread mutualReplies.reverse = .error (.cyclic ids) := by
  have hp : mutualReplies.Perm mutualReplies.reverse := (List.reverse_perm _).symm
  have h : thread mutualReplies = .error (.cyclic [[97], [98]]) := by cbv
  refine ⟨hp, oneCycle_mutualReplies, [[97], [98]], h, ?_⟩
  rcases thread_order_irrelevant hp with ⟨ts, hok, -⟩ | ⟨e, e', he, he', hkind, hsame⟩
  · rw [h] at hok
    cases hok
  · rw [h] at he
    cases he
    cases e' with
    | duplicate => cases hkind
    | dangling => cases hkind
    | cyclic ids => rw [he', hsame _ ids rfl rfl oneCycle_mutualReplies]

end Thread

end Marginalia
