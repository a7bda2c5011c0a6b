import Mathlib
import Marginalia.Proofs.Thread.Outcome

/-!
A thread as the page shows it. It holds every comment once, in ascending order of the keys, and each reply names
the place of the comment it answers and is one deeper. This says all about a thread: no other list is like it.
Between a comment and one of its replies stand only comments at least as deep as the reply, so order and
depths alone show who answers whom.
-/

namespace Marginalia.Thread
open scoped Orders

/-- The comments in ascending order of their keys, each with its depth and the place of its parent. -/
structure IsThread (cs : List Comment) (ts : List ThreadedComment) : Prop where
  perm : (ts.map (·.toComment)).Perm cs
  sorted : ts.Pairwise fun a b => key cs a.toComment < key cs b.toComment
  linked : ∀ t ∈ ts, (t.replyingTo = [] ∧ t.depth = 0 ∧ t.parent = none) ∨
    (t.replyingTo ≠ [] ∧ ∃ (i : Nat) (p : ThreadedComment), ts[i]? = some p ∧ p.id = t.replyingTo ∧
      t.depth = p.depth + 1 ∧ t.parent = some i)

section
variable {cs cs' : List Comment} {ts ts' : List ThreadedComment}

/-! ### The walk gives a thread -/

/-- A comment with the depth and the parent it was put out with. -/
def placed (cs : List Comment) (p : Pending) : ThreadedComment :=
  { commentAt cs p.place with depth := p.depth, parent := p.parent }

theorem ordered_eq : ordered cs (parents cs) = (emitted cs).map (placed cs) := by
  simp only [ordered, emitted, List.getElem?_toArray]
  rfl

theorem map_commentAt_range : (List.range cs.length).map (commentAt cs) = cs := by
  refine List.ext_getElem (by simp) fun k hk hk' => ?_
  rw [List.getElem_map, List.getElem_range, commentAt_eq (List.getElem?_eq_getElem hk')]

theorem Forest.isThread (hf : Forest cs) : IsThread cs (ordered cs (parents cs)) := by
  rw [ordered_eq]
  refine ⟨?_, List.pairwise_map.mpr hf.emitted_sorted, fun t ht => ?_⟩
  · have hperm := hf.emitted_perm.map (commentAt cs)
    rw [map_commentAt_range, List.map_map] at hperm
    rw [List.map_map]
    exact hperm
  · obtain ⟨p, hp, rfl⟩ := List.mem_map.mp ht
    rcases emitted_linked p hp with ⟨htop, hdepth, hparent⟩ | ⟨i, q, hi, hup, hdepth, hparent⟩
    · exact Or.inl ⟨(parents_eq_none_iff hf.resolved (getElem?_of_parents htop)).mp htop, hdepth, hparent⟩
    · obtain ⟨c, d, hc, hd, hne, hid⟩ := (leads_parents_iff hf.distinct).mp hup
      refine Or.inr ⟨?_, i, placed cs q, ?_, ?_, hdepth, hparent⟩
      · show (commentAt cs p.place).replyingTo ≠ []
        rwa [commentAt_eq hc]
      · rw [List.getElem?_map, hi, Option.map_some]
      · show (commentAt cs q.place).id = (commentAt cs p.place).replyingTo
        rwa [commentAt_eq hc, commentAt_eq hd]

theorem isThread_of_thread (h : thread cs = .ok ts) : Forest cs ∧ IsThread cs ts := by
  obtain ⟨hf, rfl⟩ := thread_ok_iff.mp h
  exact ⟨hf, hf.isThread⟩

/-! ### What a thread is -/

namespace IsThread

theorem mem_comments (h : IsThread cs ts) {t : ThreadedComment} (ht : t ∈ ts) : t.toComment ∈ cs :=
  h.perm.mem_iff.mp (List.mem_map.mpr ⟨t, ht, rfl⟩)

/-- The depth counts the replies on the line. -/
theorem length_line (hf : Forest cs) (h : IsThread cs ts) {c : Comment} {line : List Comment}
    (hline : Lineage cs c line) : ∀ t ∈ ts, t.toComment = c → line.length = t.depth + 1 := by
  induction hline with
  | top _ htop =>
    rintro t ht rfl
    rcases h.linked t ht with ⟨-, hdepth, -⟩ | ⟨hne, -⟩
    · rw [hdepth, List.length_singleton]
    · exact absurd htop hne
  | @reply c p line hc hne hid hline ih =>
    rintro t ht rfl
    rcases h.linked t ht with ⟨htop, -⟩ | ⟨-, i, q, hi, hqid, hdepth, -⟩
    · exact absurd htop hne
    · have hq := List.mem_of_getElem? hi
      have hsame : q.toComment = p :=
        hf.distinct.eq_of_id (h.mem_comments hq) hline.mem (hqid.trans hid.symm)
      rw [List.length_append, List.length_singleton, ih q hq hsame, hdepth]

theorem length_key (hf : Forest cs) (h : IsThread cs ts) {t : ThreadedComment} (ht : t ∈ ts) :
    (key cs t.toComment).length = t.depth + 1 := by
  rw [key, List.length_map]
  exact h.length_line hf (hf.lineage (h.mem_comments ht)) t ht rfl

/-- The comments of a thread are in the only order that ascends by the keys. -/
theorem comments_eq (hf : Forest cs) (h : IsThread cs ts) {ds : List Comment} (hp : ds.Perm cs)
    (hs : ds.Pairwise fun a b => key cs a ≤ key cs b) : ts.map (·.toComment) = ds := by
  have hanti : ∀ a b, a ∈ ts.map (·.toComment) → b ∈ ds → key cs a ≤ key cs b → key cs b ≤ key cs a → a = b :=
    fun a b ha hb hab hba => hf.eq_of_key (h.perm.mem_iff.mp ha) (hp.mem_iff.mp hb) (le_antisymm hab hba)
  have hsorted : (ts.map (·.toComment)).Pairwise fun a b => key cs a ≤ key cs b :=
    List.pairwise_map.mpr (h.sorted.imp le_of_lt)
  exact List.Perm.eq_of_pairwise hanti hsorted hs (h.perm.trans hp.symm)

/-- A smaller key stands earlier. -/
theorem lt_of_key_lt (h : IsThread cs ts) {i j : Nat} {t u : ThreadedComment} (hi : ts[i]? = some t)
    (hj : ts[j]? = some u) (hlt : key cs t.toComment < key cs u.toComment) : i < j := by
  obtain ⟨hil, rfl⟩ := List.getElem?_eq_some_iff.mp hi
  obtain ⟨hjl, rfl⟩ := List.getElem?_eq_some_iff.mp hj
  rcases Nat.lt_trichotomy i j with hij | rfl | hji
  · exact hij
  · exact absurd hlt (lt_irrefl _)
  · exact absurd hlt (List.pairwise_iff_getElem.mp h.sorted j i hjl hil hji).asymm

theorem key_lt_of_lt (h : IsThread cs ts) {i j : Nat} {t u : ThreadedComment} (hi : ts[i]? = some t)
    (hj : ts[j]? = some u) (hij : i < j) : key cs t.toComment < key cs u.toComment := by
  obtain ⟨hil, rfl⟩ := List.getElem?_eq_some_iff.mp hi
  obtain ⟨hjl, rfl⟩ := List.getElem?_eq_some_iff.mp hj
  exact List.pairwise_iff_getElem.mp h.sorted i j hil hjl hij

/-- A reply stands after its parent. -/
theorem key_reply (hf : Forest cs) (h : IsThread cs ts) {t p : ThreadedComment} (ht : t ∈ ts) (hp : p ∈ ts)
    (hne : t.replyingTo ≠ []) (hid : p.id = t.replyingTo) :
    key cs t.toComment = key cs p.toComment ++ [stamp t.toComment] :=
  hf.key_reply (h.mem_comments ht) (h.mem_comments hp) hne hid

/-- Between a comment and a reply to it stand only comments below it. -/
theorem depth_le_between (hf : Forest cs) (h : IsThread cs ts) {i j k : Nat} {t p u : ThreadedComment}
    (hi : ts[i]? = some t) (hk : ts[k]? = some p) (hj : ts[j]? = some u) (hne : t.replyingTo ≠ [])
    (hid : p.id = t.replyingTo) (hkj : k < j) (hji : j < i) : t.depth ≤ u.depth := by
  have ht := List.mem_of_getElem? hi
  have hp := List.mem_of_getElem? hk
  have hu := List.mem_of_getElem? hj
  have hkey := h.key_reply hf ht hp hne hid
  have hpu := h.key_lt_of_lt hk hj hkj
  have hut := h.key_lt_of_lt hj hi hji
  rw [hkey] at hut
  have hpre := prefix_of_between hpu hut
  have hlen : (key cs p.toComment).length < (key cs u.toComment).length := by
    refine Nat.lt_of_le_of_ne hpre.length_le fun heq => ?_
    rw [hpre.eq_of_length heq] at hpu
    exact lt_irrefl _ hpu
  have hlt := congrArg List.length hkey
  rw [List.length_append, List.length_singleton, h.length_key hf ht] at hlt
  rw [h.length_key hf hu] at hlen
  omega

/-- The same comments in another order have the same threads. -/
theorem perm_of_perm (hf : Forest cs) (h : IsThread cs ts) (hp : cs.Perm cs') : IsThread cs' ts where
  perm := h.perm.trans hp
  sorted := by
    refine h.sorted.imp_of_mem fun {a b} ha hb hlt => ?_
    rwa [hf.key_perm hp (h.mem_comments ha), hf.key_perm hp (h.mem_comments hb)]
  linked := h.linked

/-! ### Only one thread

Two threads of the same comments have the same comment at each place, so each id at the same place, and so the
same depths and parents. -/

theorem comments_unique (hf : Forest cs) (h : IsThread cs ts) (h' : IsThread cs ts') :
    ts.map (·.toComment) = ts'.map (·.toComment) :=
  h.comments_eq hf h'.perm (List.pairwise_map.mpr (h'.sorted.imp le_of_lt))

theorem comment_unique (hf : Forest cs) (h : IsThread cs ts) (h' : IsThread cs ts') {i : Nat}
    {t t' : ThreadedComment} (ht : ts[i]? = some t) (ht' : ts'[i]? = some t') : t.toComment = t'.toComment := by
  have hi := congrArg (·[i]?) (h.comments_unique hf h')
  simpa [ht, ht'] using hi

theorem place_unique (hf : Forest cs) (h : IsThread cs ts) (h' : IsThread cs ts') {i j : Nat}
    {p p' : ThreadedComment} (hp : ts[i]? = some p) (hp' : ts'[j]? = some p') (hid : p.id = p'.id) : i = j := by
  have hd : Distinct (ts.map (·.toComment)) := hf.distinct.perm h.perm.symm
  refine hd.eq_place (p := p.toComment) (q := p'.toComment) ?_ ?_ hid
  · rw [List.getElem?_map, hp, Option.map_some]
  · rw [h.comments_unique hf h', List.getElem?_map, hp', Option.map_some]

theorem depth_unique (hf : Forest cs) (h : IsThread cs ts) (h' : IsThread cs ts') {t t' : ThreadedComment}
    (ht : t ∈ ts) (ht' : t' ∈ ts') (hsame : t.toComment = t'.toComment) : t.depth = t'.depth := by
  have hlen := h.length_key hf ht
  rw [hsame, h'.length_key hf ht'] at hlen
  exact (Nat.succ.inj hlen).symm

theorem parent_unique (hf : Forest cs) (h : IsThread cs ts) (h' : IsThread cs ts') {t t' : ThreadedComment}
    (ht : t ∈ ts) (ht' : t' ∈ ts') (hsame : t.toComment = t'.toComment) : t.parent = t'.parent := by
  have hreply : t.replyingTo = t'.replyingTo := congrArg Comment.replyingTo hsame
  rcases h.linked t ht with ⟨htop, -, hp⟩ | ⟨hne, k, p, hk, hid, -, hp⟩ <;>
    rcases h'.linked t' ht' with ⟨htop', -, hp'⟩ | ⟨hne', k', p', hk', hid', -, hp'⟩
  · rw [hp, hp']
  · exact absurd (hreply ▸ htop) hne'
  · exact absurd (hreply ▸ htop') hne
  · rw [hp, hp', h.place_unique hf h' hk hk' (by rw [hid, hid', hreply])]

/-- Comments have only one thread. -/
theorem unique (hf : Forest cs) (h : IsThread cs ts) (h' : IsThread cs ts') : ts = ts' := by
  have hlen : ts.length = ts'.length := by
    simpa using congrArg List.length (h.comments_unique hf h')
  refine List.ext_getElem hlen fun i hi hi' => ?_
  have ht := List.getElem?_eq_getElem hi
  have ht' := List.getElem?_eq_getElem hi'
  generalize ts[i] = t at ht ⊢
  generalize ts'[i] = t' at ht' ⊢
  have hsame := h.comment_unique hf h' ht ht'
  have hdepth := h.depth_unique hf h' (List.mem_of_getElem? ht) (List.mem_of_getElem? ht') hsame
  have hparent := h.parent_unique hf h' (List.mem_of_getElem? ht) (List.mem_of_getElem? ht') hsame
  cases t
  cases t'
  rw [ThreadedComment.mk.injEq]
  exact ⟨hsame, hdepth, hparent⟩

end IsThread

end

/-! ### Order and depths -/

/-- The nearest place before `i` whose depth is less than `depth`. -/
def shallowerBefore? (depths : List Nat) (depth : Nat) : (i : Nat) → Option Nat
  | 0 => none
  | i + 1 => if (depths[i]?).getD 0 < depth then some i else shallowerBefore? depths depth i

theorem shallowerBefore?_zero (depths : List Nat) : ∀ i, shallowerBefore? depths 0 i = none
  | 0 => rfl
  | i + 1 => by simp [shallowerBefore?, shallowerBefore?_zero depths i]

theorem shallowerBefore?_eq {depths : List Nat} {depth p : Nat} (hp : (depths[p]?).getD 0 < depth) :
    ∀ {i : Nat}, p < i → (∀ j, p < j → j < i → depth ≤ (depths[j]?).getD 0) →
      shallowerBefore? depths depth i = some p
  | 0, hlt, _ => absurd hlt (Nat.not_lt_zero p)
  | i + 1, hlt, hbetween => by
    rcases Nat.lt_or_eq_of_le (Nat.le_of_lt_succ hlt) with hpi | rfl
    · rw [shallowerBefore?, if_neg (Nat.not_lt.mpr (hbetween i hpi (Nat.lt_succ_self i)))]
      exact shallowerBefore?_eq hp hpi fun j hj hji => hbetween j hj (Nat.lt_succ_of_lt hji)
    · rw [shallowerBefore?, if_pos hp]

/-! ### The page -/

/-- Comments are shown in the order of their keys: every comment once and as it was given, with strictly ascending
keys, which is the order that sorting by the keys gives. -/
theorem thread_sorted_by_key {cs : List Comment} {ts : List ThreadedComment} (h : thread cs = .ok ts) :
    (∀ c ∈ cs, Lineage cs c (lineage cs c)) ∧
    (ts.map (·.toComment)).Perm cs ∧
    (ts.map fun t => key cs t.toComment).Pairwise (· < ·) ∧
    ts.map (·.toComment) = cs.mergeSort fun a b => key cs a ≤ key cs b := by
  obtain ⟨hf, hthread⟩ := isThread_of_thread h
  refine ⟨fun c hc => hf.lineage hc, hthread.perm, List.pairwise_map.mpr hthread.sorted, ?_⟩
  refine hthread.comments_eq hf (List.mergeSort_perm _ _) ?_
  refine (List.pairwise_mergeSort ?_ ?_ cs).imp fun hab => of_decide_eq_true hab
  · intro a b c hab hbc
    exact decide_eq_true ((of_decide_eq_true hab).trans (of_decide_eq_true hbc))
  · intro a b
    rw [Bool.or_eq_true, decide_eq_true_iff, decide_eq_true_iff]
    exact le_total _ _

/-- A comment, a reply to it that is dated before it, and a comment between the two dates. -/
def earlyReply : List Comment :=
  [{ id := [98], date := ⟨1, 0, 0⟩, replyingTo := [97] }, { id := [97], date := ⟨5, 0, 0⟩ },
    { id := [99], date := ⟨3, 0, 0⟩ }]

/-- The thread of `earlyReply`: the reply still follows the comment it answers. -/
def earlyReplyThread : List ThreadedComment :=
  [{ id := [99], date := ⟨3, 0, 0⟩ }, { id := [97], date := ⟨5, 0, 0⟩ },
    { id := [98], date := ⟨1, 0, 0⟩, replyingTo := [97], depth := 1, parent := some 1 }]

theorem earlyReply_sorted_by_key : thread earlyReply = .ok earlyReplyThread ∧
    (earlyReplyThread.map (·.toComment)).Perm earlyReply ∧
    (earlyReplyThread.map fun t => key earlyReply t.toComment).Pairwise (· < ·) := by
  have h : thread earlyReply = .ok earlyReplyThread := by cbv
  exact ⟨h, (thread_sorted_by_key h).2.1, (thread_sorted_by_key h).2.2.1⟩

/-- Order and depths show the replies. The depth of a comment counts the replies between it and the post; a reply
names the place of the comment it answers, which stands earlier, one less deep, with nothing less deep than
the reply between the two. So the parent is the nearest earlier comment of a lesser depth. -/
theorem thread_shows_replies {cs : List Comment} {ts : List ThreadedComment} (h : thread cs = .ok ts) {i : Nat}
    {t : ThreadedComment} (hi : ts[i]? = some t) :
    (∃ line, Lineage cs t.toComment line ∧ line.length = t.depth + 1) ∧
    (t.parent = none ↔ t.replyingTo = []) ∧
    (t.replyingTo ≠ [] → ∃ (k : Nat) (p : ThreadedComment), t.parent = some k ∧ k < i ∧ ts[k]? = some p ∧
      p.id = t.replyingTo ∧ t.depth = p.depth + 1 ∧
      ∀ j u, k < j → j < i → ts[j]? = some u → t.depth ≤ u.depth) ∧
    t.parent = shallowerBefore? (ts.map (·.depth)) t.depth i := by
  obtain ⟨hf, hthread⟩ := isThread_of_thread h
  have ht := List.mem_of_getElem? hi
  have hline := hf.lineage (hthread.mem_comments ht)
  refine ⟨⟨_, hline, hthread.length_line hf hline t ht rfl⟩, ?_⟩
  rcases hthread.linked t ht with ⟨htop, hdepth, hparent⟩ | ⟨hne, k, p, hk, hid, hdepth, hparent⟩
  · refine ⟨iff_of_true hparent htop, fun hne => absurd htop hne, ?_⟩
    rw [hparent, hdepth, shallowerBefore?_zero]
  · have hki : k < i := by
      refine hthread.lt_of_key_lt hk hi ?_
      rw [hthread.key_reply hf ht (List.mem_of_getElem? hk) hne hid]
      exact lt_append_of_ne_nil _ (List.cons_ne_nil _ _)
    have hbetween : ∀ j u, k < j → j < i → ts[j]? = some u → t.depth ≤ u.depth := fun j u hkj hji hj =>
      hthread.depth_le_between hf hi hk hj hne hid hkj hji
    refine ⟨iff_of_false (by simp [hparent]) hne, fun _ => ⟨k, p, hparent, hki, hk, hid, hdepth, hbetween⟩, ?_⟩
    rw [hparent, shallowerBefore?_eq ?_ hki fun j hkj hji => ?_]
    · rw [List.getElem?_map, hk, Option.map_some, Option.getD_some]
      omega
    · have hlt : j < ts.length := hji.trans (List.getElem?_eq_some_iff.mp hi).1
      have hj := List.getElem?_eq_getElem hlt
      rw [List.getElem?_map, hj, Option.map_some, Option.getD_some]
      exact hbetween j _ hkj hji hj

theorem earlyReply_shows_replies : thread earlyReply = .ok earlyReplyThread ∧
    some 1 = shallowerBefore? (earlyReplyThread.map (·.depth)) 1 2 := by
  have h : thread earlyReply = .ok earlyReplyThread := by cbv
  have hi : earlyReplyThread[2]? =
      some { id := [98], date := ⟨1, 0, 0⟩, replyingTo := [97], depth := 1, parent := some 1 } := rfl
  exact ⟨h, (thread_shows_replies h hi).2.2.2⟩

end Marginalia.Thread
