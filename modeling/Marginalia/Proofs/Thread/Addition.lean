import Marginalia.Proofs.Thread.Permutation

/-!
A comment that is added to a thread. It answers the post or a comment that is there, and nothing answers it yet. So
all lines that there were, and with them all keys, stay as they are, and the thread of before is that of afterwards
without the new entry.
-/

namespace Marginalia.Thread
open scoped Orders

/-- The comment can be added: its id is new, and it answers the post or one of the comments. -/
structure Joins (cs : List Comment) (c : Comment) : Prop where
  fresh : ∀ d ∈ cs, d.id ≠ c.id
  target : c.replyingTo = [] ∨ ∃ p ∈ cs, p.id = c.replyingTo

/-- An entry once the one at place `k` is taken out: what stood behind that has moved up. -/
def movedUp (k : Nat) (t : ThreadedComment) : ThreadedComment :=
  { t with parent := t.parent.map fun i => if k < i then i - 1 else i }

section
variable {cs : List Comment} {c d : Comment} {ts : List ThreadedComment} {t u : ThreadedComment} {k : Nat}

/-! ### Lines and keys -/

theorem Joins.forest (hj : Joins cs c) (hf : Forest cs) : Forest (c :: cs) where
  distinct := by
    rw [Distinct, List.map_cons, List.nodup_cons, List.mem_map]
    refine ⟨?_, hf.distinct⟩
    rintro ⟨d, hd, hid⟩
    exact hj.fresh d hd hid
  grounded d hd := by
    have hold : ∀ p ∈ cs, Lineage (c :: cs) p (lineage cs p) := fun p hp =>
      (hf.lineage hp).mono (List.subset_cons_self c cs)
    rcases List.mem_cons.mp hd with rfl | hd
    · rcases hj.target with htop | ⟨p, hp, hid⟩
      · exact ⟨_, .top List.mem_cons_self htop⟩
      · by_cases hne : d.replyingTo = []
        · exact ⟨_, .top List.mem_cons_self hne⟩
        · exact ⟨_, .reply List.mem_cons_self hne hid (hold p hp)⟩
    · exact ⟨_, hold d hd⟩

theorem Joins.key_eq (hj : Joins cs c) (hf : Forest cs) (hd : d ∈ cs) : key (c :: cs) d = key cs d := by
  have hline := (hf.lineage hd).mono (List.subset_cons_self c cs)
  rw [key, key, lineage_eq (hj.forest hf).distinct hline]

/-- Nothing answers the comment that is added. -/
theorem Joins.not_answered (hj : Joins cs c) (hf : Forest cs) (hd : d ∈ c :: cs) (hne : d.replyingTo ≠ []) :
    c.id ≠ d.replyingTo := by
  have htarget : ∃ p ∈ cs, p.id = d.replyingTo := by
    rcases List.mem_cons.mp hd with rfl | hd
    · exact hj.target.resolve_left hne
    · by_contra hmiss
      push Not at hmiss
      exact hf.resolved d hd ⟨hne, hmiss⟩
  obtain ⟨p, hp, hid⟩ := htarget
  rw [← hid]
  exact (hj.fresh p hp).symm

/-! ### Taking the new entry out -/

/-- No entry names the place of the new one. -/
theorem Joins.parent_ne (hj : Joins cs c) (hf : Forest cs) (hts : IsThread (c :: cs) ts) (hk : ts[k]? = some t)
    (ht : t.toComment = c) (hu : u ∈ ts) : u.parent ≠ some k := by
  intro hparent
  rcases hts.linked u hu with ⟨-, -, hnone⟩ | ⟨hne, i, p, hi, hid, -, hsome⟩
  · rw [hparent] at hnone
    cases hnone
  · rw [hparent, Option.some.injEq] at hsome
    rw [← hsome, hk, Option.some.injEq] at hi
    refine hj.not_answered hf (hts.mem_comments hu) hne ?_
    rw [← ht, hi, hid]

theorem IsThread.comments_eraseIdx (hts : IsThread (c :: cs) ts) (hk : ts[k]? = some t) (ht : t.toComment = c) :
    ((ts.eraseIdx k).map (·.toComment)).Perm cs := by
  obtain ⟨hlt, rfl⟩ := List.getElem?_eq_some_iff.mp hk
  have hperm := ((List.getElem_cons_eraseIdx_perm hlt).map (·.toComment)).trans hts.perm
  rw [List.map_cons, ht] at hperm
  exact hperm.cons_inv

/-- Without the new entry the thread is one of the comments there were. -/
theorem Joins.isThread (hj : Joins cs c) (hf : Forest cs) (hts : IsThread (c :: cs) ts) (hk : ts[k]? = some t)
    (ht : t.toComment = c) : IsThread cs ((ts.eraseIdx k).map (movedUp k)) := by
  have hperm := hts.comments_eraseIdx hk ht
  have hmem : ∀ u ∈ ts.eraseIdx k, u.toComment ∈ cs := fun u hu =>
    hperm.mem_iff.mp (List.mem_map.mpr ⟨u, hu, rfl⟩)
  refine ⟨?_, ?_, ?_⟩
  · rw [List.map_map]
    exact hperm
  · refine List.pairwise_map.mpr ((hts.sorted.sublist (List.eraseIdx_sublist ts k)).imp_of_mem fun {a b} ha hb hlt => ?_)
    show key cs a.toComment < key cs b.toComment
    rwa [← hj.key_eq hf (hmem a ha), ← hj.key_eq hf (hmem b hb)]
  · intro v hv
    obtain ⟨u, hu, rfl⟩ := List.mem_map.mp hv
    have hold := List.mem_of_mem_eraseIdx hu
    rcases hts.linked u hold with ⟨htop, hdepth, hnone⟩ | ⟨hne, i, p, hi, hid, hdepth, hsome⟩
    · exact Or.inl ⟨htop, hdepth, by rw [movedUp, hnone, Option.map_none]⟩
    · have hik : i ≠ k := fun heq => hj.parent_ne hf hts hk ht hold (heq ▸ hsome)
      refine Or.inr ⟨hne, if k < i then i - 1 else i, movedUp k p, ?_, hid, hdepth, by rw [movedUp, hsome, Option.map_some]⟩
      -- The parent stands before the new entry and keeps its place, or behind it and moves up.
      rw [List.getElem?_map, List.getElem?_eraseIdx]
      split
      · rw [if_neg (by omega), Nat.sub_add_cancel (by omega), hi, Option.map_some]
      · rw [if_pos (by omega), hi, Option.map_some]

end

/-- Adding a comment does not reshuffle a thread. Wherever it is put among the comments, the thread of all of them is
the one before with a new entry, to which nothing answers. -/
theorem thread_insert {cs : List Comment} {c : Comment} {ts : List ThreadedComment} (h : thread cs = .ok ts)
    (hj : Joins cs c) {n : Nat} (hn : n ≤ cs.length) :
    ∃ (ts' : List ThreadedComment) (k : Nat) (t : ThreadedComment), thread (cs.insertIdx n c) = .ok ts' ∧
      ts'[k]? = some t ∧ t.toComment = c ∧ (ts'.eraseIdx k).map (movedUp k) = ts ∧ ∀ u ∈ ts', u.parent ≠ some k := by
  obtain ⟨hf, hold⟩ := isThread_of_thread h
  have hf' := hj.forest hf
  have hnew := hf'.isThread
  obtain ⟨t, hmem, ht⟩ := List.mem_map.mp (hnew.perm.mem_iff.mpr List.mem_cons_self)
  obtain ⟨k, hk⟩ := List.mem_iff_getElem?.mp hmem
  refine ⟨_, k, t, ok_perm (List.perm_insertIdx c cs hn).symm (thread_ok_iff.mpr ⟨hf', rfl⟩), hk, ht, ?_, ?_⟩
  · exact (hj.isThread hf hnew hk ht).unique hf hold
  · exact fun u hu => hj.parent_ne hf hnew hk ht hu

/-- A comment dated before all others moves them down, and with them the place that the answer names. -/
theorem earlyReply_insert : thread earlyReply = .ok earlyReplyThread ∧
    ∃ (ts : List ThreadedComment) (k : Nat) (t : ThreadedComment),
      thread (earlyReply.insertIdx 1 { id := [100] }) = .ok ts ∧ ts[k]? = some t ∧ t.id = [100] ∧
      (ts.eraseIdx k).map (movedUp k) = earlyReplyThread ∧ ∀ u ∈ ts, u.parent ≠ some k := by
  have h : thread earlyReply = .ok earlyReplyThread := by cbv
  have hj : Joins earlyReply { id := [100] } := ⟨by simp [earlyReply], Or.inl rfl⟩
  obtain ⟨ts, k, t, hts, hk, ht, hsame, hfree⟩ := thread_insert h hj (n := 1) (by decide)
  exact ⟨h, ts, k, t, hts, hk, congrArg Comment.id ht, hsame, hfree⟩

end Marginalia.Thread
