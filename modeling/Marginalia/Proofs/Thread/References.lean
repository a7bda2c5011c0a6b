import Marginalia.Proofs.Thread.Chains
import Marginalia.Proofs.Thread.Lineage

/-!
Ids and references by place. The checks made before any chain is walked find the first id that stands earlier
too and the first reply to a comment that is not there; where both find nothing, each place knows the place
of the comment it answers.
-/

namespace Marginalia

theorem Comment.isReply_iff {c : Comment} : c.isReply = true ↔ c.replyingTo ≠ [] := by
  simp [Comment.isReply]

namespace Thread

/-- Every reply answers a comment that is there. -/
def Resolved (cs : List Comment) : Prop := ∀ c ∈ cs, ¬Dangles cs c

/-- The comment at a place. -/
def commentAt (cs : List Comment) (k : Nat) : Comment := cs[k]?.getD {}

/-- The id at a place is one of `seen` or stands at an earlier place. -/
def RepeatedAfter (seen : List Text) (cs : List Comment) (i : Nat) : Prop :=
  ∃ c, cs[i]? = some c ∧ c.id ∈ seen ++ (cs.take i).map (·.id)

/-- The id at a place stands at an earlier place too. -/
def RepeatedAt (cs : List Comment) (i : Nat) : Prop :=
  ∃ c, cs[i]? = some c ∧ c.id ∈ (cs.take i).map (·.id)

section
variable {cs : List Comment} {c : Comment}

theorem commentAt_eq {k : Nat} {c : Comment} (hk : cs[k]? = some c) : commentAt cs k = c := by
  rw [commentAt, hk, Option.getD_some]

/-! ### Repeated ids -/

theorem repeatedAfter_cons_zero {seen : List Text} : RepeatedAfter seen (c :: cs) 0 ↔ c.id ∈ seen := by
  simp [RepeatedAfter]

theorem repeatedAfter_cons_succ {seen : List Text} {i : Nat} :
    RepeatedAfter seen (c :: cs) (i + 1) ↔ RepeatedAfter (c.id :: seen) cs i := by
  simp only [RepeatedAfter, List.getElem?_cons_succ, List.take_succ_cons, List.map_cons, List.mem_append,
    List.mem_cons]
  constructor <;> rintro ⟨d, hd, h⟩ <;> exact ⟨d, hd, by tauto⟩

theorem duplicate?_eq_none_iff {seen : List Text} :
    duplicate? seen cs = none ↔ Distinct cs ∧ ∀ c ∈ cs, c.id ∉ seen := by
  induction cs generalizing seen with
  | nil => simp [duplicate?, Distinct]
  | cons c cs ih =>
    by_cases hc : c.id ∈ seen
    · simp [duplicate?, hc]
    · simp only [duplicate?, List.contains_eq_mem, hc, decide_false, Bool.false_eq_true, if_false, ih, Distinct,
        List.map_cons, List.nodup_cons, List.mem_map, List.mem_cons, not_or, forall_eq_or_imp, not_false_eq_true,
        true_and, not_exists, not_and]
      constructor
      · rintro ⟨hd, hall⟩
        exact ⟨⟨fun d hmem => (hall d hmem).1, hd⟩, fun d hmem => (hall d hmem).2⟩
      · rintro ⟨⟨hne, hd⟩, hall⟩
        exact ⟨hd, fun d hmem => ⟨hne d hmem, hall d hmem⟩⟩

theorem duplicate?_eq_some {seen : List Text} {id : Text} (h : duplicate? seen cs = some id) :
    ∃ i c, cs[i]? = some c ∧ c.id = id ∧ RepeatedAfter seen cs i ∧ ∀ j < i, ¬RepeatedAfter seen cs j := by
  induction cs generalizing seen with
  | nil => cases h
  | cons c cs ih =>
    by_cases hc : c.id ∈ seen
    · simp only [duplicate?, List.contains_eq_mem, hc, decide_true, if_true, Option.some.injEq] at h
      exact ⟨0, c, rfl, h, repeatedAfter_cons_zero.mpr hc, fun j hj => absurd hj (Nat.not_lt_zero j)⟩
    · simp only [duplicate?, List.contains_eq_mem, hc, decide_false, Bool.false_eq_true, if_false] at h
      obtain ⟨i, d, hi, hid, hrep, hfirst⟩ := ih h
      refine ⟨i + 1, d, hi, hid, repeatedAfter_cons_succ.mpr hrep, ?_⟩
      rintro (_ | j) hj
      · rwa [repeatedAfter_cons_zero]
      · rw [repeatedAfter_cons_succ]
        exact hfirst j (Nat.lt_of_succ_lt_succ hj)

/-! ### References -/

theorem place?_eq_none_iff {id : Text} : place? cs id = none ↔ ∀ p ∈ cs, p.id ≠ id := by
  simp [place?, List.findIdx?_eq_none_iff]

theorem Distinct.eq_place (hd : Distinct cs) {i j : Nat} {p q : Comment} (hi : cs[i]? = some p) (hj : cs[j]? = some q)
    (hid : p.id = q.id) : i = j := by
  obtain ⟨hlt, -⟩ := List.getElem?_eq_some_iff.mp hi
  refine (List.getElem?_inj (by rwa [List.length_map]) hd).mp ?_
  rw [List.getElem?_map, List.getElem?_map, hi, hj, Option.map_some, Option.map_some, hid]

theorem place?_eq_some_iff (hd : Distinct cs) {id : Text} {i : Nat} :
    place? cs id = some i ↔ ∃ p, cs[i]? = some p ∧ p.id = id := by
  constructor
  · intro h
    obtain ⟨hlt, hid, -⟩ := List.findIdx?_eq_some_iff_getElem.mp h
    exact ⟨cs[i], List.getElem?_eq_getElem hlt, by simpa using hid⟩
  · rintro ⟨p, hi, hid⟩
    cases h : place? cs id with
    | none => exact absurd hid (place?_eq_none_iff.mp h p (List.mem_of_getElem? hi))
    | some j =>
      obtain ⟨hlt, hj, -⟩ := List.findIdx?_eq_some_iff_getElem.mp h
      rw [hd.eq_place hi (List.getElem?_eq_getElem hlt) (hid.trans (beq_iff_eq.mp hj).symm)]

theorem dangles_iff : (c.isReply && (place? cs c.replyingTo).isNone) = true ↔ Dangles cs c := by
  rw [Bool.and_eq_true, Comment.isReply_iff, Option.isNone_iff_eq_none, place?_eq_none_iff, Dangles]

theorem dangling?_eq_none_iff : dangling? cs = none ↔ Resolved cs := by
  simp only [dangling?, List.find?_eq_none, dangles_iff, Resolved]

theorem dangling?_eq_some (h : dangling? cs = some c) :
    ∃ i : Nat, cs[i]? = some c ∧ Dangles cs c ∧ ∀ j < i, ∀ d, cs[j]? = some d → ¬Dangles cs d := by
  obtain ⟨hc, i, hlt, hi, hfirst⟩ := List.find?_eq_some_iff_getElem.mp h
  refine ⟨i, List.getElem?_eq_some_iff.mpr ⟨hlt, hi⟩, dangles_iff.mp hc, ?_⟩
  intro j hj d hd hdangles
  obtain ⟨hlt', rfl⟩ := List.getElem?_eq_some_iff.mp hd
  have hnot := hfirst j hj
  rw [dangles_iff.mpr hdangles] at hnot
  cases hnot

/-! ### Parents -/

theorem size_parents : (parents cs).size = cs.length := by
  simp [parents]

theorem getElem?_parents (k : Nat) : (parents cs)[k]? =
    cs[k]?.map fun c => if c.isReply then place? cs c.replyingTo else none := by
  simp [parents]

theorem getElem?_of_parents {k : Nat} {p : Option Nat} (h : (parents cs)[k]? = some p) :
    cs[k]? = some (commentAt cs k) := by
  have hlt := (Array.getElem?_eq_some_iff.mp h).1
  rw [size_parents] at hlt
  rw [commentAt, List.getElem?_eq_getElem hlt, Option.getD_some]

theorem parents_eq_none_iff (hr : Resolved cs) {k : Nat} (hk : cs[k]? = some c) :
    (parents cs)[k]? = some none ↔ c.replyingTo = [] := by
  rw [getElem?_parents, hk, Option.map_some, Option.some.injEq]
  by_cases hc : c.replyingTo = []
  · simp [Comment.isReply, hc]
  · have hfound : place? cs c.replyingTo ≠ none := fun h =>
      hr c (List.mem_of_getElem? hk) ⟨hc, place?_eq_none_iff.mp h⟩
    rw [if_pos (Comment.isReply_iff.mpr hc)]
    exact ⟨fun h => absurd h hfound, fun h => absurd h hc⟩

theorem leads_parents_iff (hd : Distinct cs) {k i : Nat} : Leads (parents cs) k i ↔
    ∃ c p, cs[k]? = some c ∧ cs[i]? = some p ∧ c.replyingTo ≠ [] ∧ p.id = c.replyingTo := by
  rw [Leads, getElem?_parents, Option.map_eq_some_iff]
  constructor
  · rintro ⟨c, hk, h⟩
    split at h
    · next hc =>
      obtain ⟨p, hi, hid⟩ := (place?_eq_some_iff hd).mp h
      exact ⟨c, p, hk, hi, Comment.isReply_iff.mp hc, hid⟩
    · cases h
  · rintro ⟨c, p, hk, hi, hc, hid⟩
    refine ⟨c, hk, ?_⟩
    rw [if_pos (Comment.isReply_iff.mpr hc)]
    exact (place?_eq_some_iff hd).mpr ⟨p, hi, hid⟩

theorem closed_parents (hd : Distinct cs) : Closed (parents cs) := by
  intro k i h
  obtain ⟨c, p, -, hi, -, -⟩ := (leads_parents_iff hd).mp h
  rw [size_parents]
  exact (List.getElem?_eq_some_iff.mp hi).1

/-- Following places and following comments comes to the same. -/
theorem rooted_parents_iff (hd : Distinct cs) (hr : Resolved cs) {k : Nat} (hk : cs[k]? = some c) :
    Rooted (parents cs) k ↔ Grounded cs c := by
  constructor
  · intro h
    induction h generalizing c with
    | top ht => exact ⟨[c], .top (List.mem_of_getElem? hk) ((parents_eq_none_iff hr hk).mp ht)⟩
    | step hp _ ih =>
      obtain ⟨c', p, hk', hi, hne, hid⟩ := (leads_parents_iff hd).mp hp
      obtain rfl : c' = c := Option.some.inj (hk'.symm.trans hk)
      obtain ⟨line, hline⟩ := ih hi
      exact ⟨_, .reply (List.mem_of_getElem? hk) hne hid hline⟩
  · rintro ⟨line, hline⟩
    induction hline generalizing k with
    | top _ ht => exact .top ((parents_eq_none_iff hr hk).mpr ht)
    | @reply c p line _ hne hid hline ih =>
      obtain ⟨i, hi⟩ := List.mem_iff_getElem?.mp hline.mem
      exact .step ((leads_parents_iff hd).mpr ⟨c, p, hk, hi, hne, hid⟩) (ih hi)

theorem Forest.resolved (hf : Forest cs) : Resolved cs := by
  rintro c hc ⟨hne, hmiss⟩
  obtain ⟨line, hline⟩ := hf.grounded c hc
  cases hline with
  | top _ ht => exact hne ht
  | reply _ _ hid hp => exact hmiss _ hp.mem hid

end

end Thread

end Marginalia
