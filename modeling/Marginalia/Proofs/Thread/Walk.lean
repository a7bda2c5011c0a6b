import Marginalia.Proofs.Thread.References

/-!
The walk that puts out a forest of comments. Records wait on a stack, the next one on top, and each is followed by
its replies. Keys of waiting records part from each other in the order of the stack, so whatever is put out
later has the greater key; and a record waits with its depth and with the place where its parent was put.
-/

namespace Marginalia.Thread
open scoped Orders

/-! ### Any walk -/

section
variable {σ : Type} [LinearOrder σ] {children : Nat → List Nat} {rank : Nat → List σ} {fuel next : Nat}
  {stack : List Pending}

/-- The replies of a record put out at `next`, as they are put on the stack. -/
def replies (children : Nat → List Nat) (p : Pending) (next : Nat) : List Pending :=
  (children p.place).map fun k => ⟨k, p.depth + 1, some next⟩

theorem walk_cons {p : Pending} : walk children (fuel + 1) (p :: stack) next =
    p :: walk children fuel (replies children p next ++ stack) (next + 1) :=
  rfl

theorem mem_replies {p q : Pending} : q ∈ replies children p next ↔
    q.place ∈ children p.place ∧ q.depth = p.depth + 1 ∧ q.parent = some next := by
  simp only [replies, List.mem_map]
  constructor
  · rintro ⟨k, hk, rfl⟩
    exact ⟨hk, rfl, rfl⟩
  · rintro ⟨hk, hd, hp⟩
    exact ⟨q.place, hk, by rw [← hd, ← hp]⟩

/-- The rank of a reply extends that of the record it answers, and the replies to one record are in ascending
order. -/
structure Ranked (children : Nat → List Nat) (rank : Nat → List σ) : Prop where
  extend : ∀ k, ∀ j ∈ children k, ∃ a, rank j = rank k ++ [a]
  apart : ∀ k, (children k).Pairwise fun i j => Parts (rank i) (rank j)

/-- The records on a stack part from each other in their order. -/
def Apart (rank : Nat → List σ) (stack : List Pending) : Prop :=
  stack.Pairwise fun p q => Parts (rank p.place) (rank q.place)

theorem Ranked.prefix_reply (hr : Ranked children rank) {p q : Pending} (hq : q ∈ replies children p next) :
    rank p.place <+: rank q.place := by
  obtain ⟨a, ha⟩ := hr.extend p.place q.place (mem_replies.mp hq).1
  rw [ha]
  exact List.prefix_append _ _

/-- The replies of the record on top take its place. -/
theorem Apart.step (hr : Ranked children rank) {p : Pending} (h : Apart rank (p :: stack)) :
    Apart rank (replies children p next ++ stack) := by
  obtain ⟨hp, hstack⟩ := List.pairwise_cons.mp h
  refine List.pairwise_append.mpr ⟨List.pairwise_map.mpr (hr.apart p.place), hstack, ?_⟩
  intro q hq s hs
  exact (hp s hs).mono (hr.prefix_reply hq) List.prefix_rfl

/-- What is put out descends from the stack. -/
theorem walk_descends (hr : Ranked children rank) {q : Pending} (hq : q ∈ walk children fuel stack next) :
    ∃ p ∈ stack, rank p.place <+: rank q.place := by
  induction fuel generalizing stack next with
  | zero => cases hq
  | succ fuel ih =>
    cases stack with
    | nil => cases hq
    | cons p stack =>
      rw [walk_cons] at hq
      rcases List.mem_cons.mp hq with rfl | hq
      · exact ⟨q, List.mem_cons_self, List.prefix_rfl⟩
      · obtain ⟨s, hs, hpre⟩ := ih hq
        rcases List.mem_append.mp hs with hs | hs
        · exact ⟨p, List.mem_cons_self, (hr.prefix_reply hs).trans hpre⟩
        · exact ⟨s, List.mem_cons_of_mem _ hs, hpre⟩

theorem walk_sorted (hr : Ranked children rank) (h : Apart rank stack) :
    (walk children fuel stack next).Pairwise fun p q => rank p.place < rank q.place := by
  induction fuel generalizing stack next with
  | zero => exact List.Pairwise.nil
  | succ fuel ih =>
    cases stack with
    | nil => exact List.Pairwise.nil
    | cons p stack =>
      rw [walk_cons]
      refine List.pairwise_cons.mpr ⟨fun q hq => ?_, ih (h.step hr)⟩
      -- What follows descends from a reply of `p`, or from a record that waited below `p`.
      obtain ⟨s, hs, hpre⟩ := walk_descends hr hq
      rcases List.mem_append.mp hs with hs | hs
      · obtain ⟨a, ha⟩ := hr.extend p.place s.place (mem_replies.mp hs).1
        obtain ⟨x, hx⟩ := hpre
        rw [← hx, ha, List.append_assoc]
        exact lt_append_of_ne_nil _ (by simp)
      · exact (((List.pairwise_cons.mp h).1 s hs).mono List.prefix_rfl hpre).lt

/-- A walk that ends before its bound has put out the stack and all replies. -/
theorem walk_exhausts (children : Nat → List Nat) (fuel : Nat) (stack : List Pending) (next : Nat) :
    (walk children fuel stack next).length = fuel ∨
    (∀ p ∈ stack, p ∈ walk children fuel stack next) ∧
      ∀ q ∈ walk children fuel stack next, ∀ k ∈ children q.place,
        ∃ r ∈ walk children fuel stack next, r.place = k := by
  induction fuel generalizing stack next with
  | zero => exact Or.inl rfl
  | succ fuel ih =>
    cases stack with
    | nil => exact Or.inr ⟨by simp, fun q hq => by cases hq⟩
    | cons p stack =>
      rw [walk_cons]
      rcases ih (replies children p next ++ stack) (next + 1) with hlen | ⟨hstack, hkids⟩
      · exact Or.inl (by rw [List.length_cons, hlen])
      · refine Or.inr ⟨fun s hs => ?_, fun q hq k hk => ?_⟩
        · rcases List.mem_cons.mp hs with rfl | hs
          · exact List.mem_cons_self
          · exact List.mem_cons_of_mem _ (hstack s (List.mem_append_right _ hs))
        · rcases List.mem_cons.mp hq with rfl | hq
          · have hr : (⟨k, q.depth + 1, some next⟩ : Pending) ∈ replies children q next :=
              mem_replies.mpr ⟨hk, rfl, rfl⟩
            exact ⟨_, List.mem_cons_of_mem _ (hstack _ (List.mem_append_left _ hr)), rfl⟩
          · obtain ⟨r, hr, hplace⟩ := hkids q hq k hk
            exact ⟨r, List.mem_cons_of_mem _ hr, hplace⟩

/-- A record without a parent has depth 0, and any other record is one deeper than its parent, which stands in
`all` at the place it names. -/
def Linked (parents : Array (Option Nat)) (all : List Pending) (p : Pending) : Prop :=
  (parents[p.place]? = some none ∧ p.depth = 0 ∧ p.parent = none) ∨
  ∃ i q, all[i]? = some q ∧ Leads parents p.place q.place ∧ p.depth = q.depth + 1 ∧ p.parent = some i

theorem Linked.append {parents : Array (Option Nat)} {all : List Pending} {p : Pending} (h : Linked parents all p)
    (more : List Pending) : Linked parents (all ++ more) p := by
  rcases h with h | ⟨i, q, hi, hrest⟩
  · exact Or.inl h
  · refine Or.inr ⟨i, q, ?_, hrest⟩
    rw [List.getElem?_append_left (List.getElem?_eq_some_iff.mp hi).1, hi]

theorem walk_linked {parents : Array (Option Nat)} (hup : ∀ k, ∀ j ∈ children k, Leads parents j k) :
    ∀ {fuel : Nat} {out stack : List Pending}, (∀ p ∈ stack, Linked parents out p) →
      ∀ q ∈ walk children fuel stack out.length, Linked parents (out ++ walk children fuel stack out.length) q := by
  intro fuel
  induction fuel with
  | zero =>
    intro out stack _ q hq
    cases hq
  | succ fuel ih =>
    intro out stack hstack q hq
    cases stack with
    | nil => cases hq
    | cons p stack =>
      have hlen : out.length + 1 = (out ++ [p]).length := by simp
      rw [walk_cons, hlen] at hq ⊢
      rcases List.mem_cons.mp hq with rfl | hq
      · exact (hstack q List.mem_cons_self).append _
      · rw [← List.singleton_append, ← List.append_assoc]
        refine ih (fun s hs => ?_) q hq
        rcases List.mem_append.mp hs with hs | hs
        · obtain ⟨hplace, hdepth, hparent⟩ := mem_replies.mp hs
          exact Or.inr ⟨out.length, p, by simp, hup _ _ hplace, hdepth, hparent⟩
        · exact (hstack s (List.mem_cons_of_mem _ hs)).append _

end

/-! ### The walk of a forest -/

section
variable {cs : List Comment}

theorem mem_children {records : Array Comment} {parents : Array (Option Nat)} {p : Option Nat} {k : Nat} :
    k ∈ children records parents p ↔ parents[k]? = some p := by
  simp only [children, sortPlaces, List.mem_mergeSort, List.mem_filter, List.mem_range, beq_iff_eq]
  constructor
  · exact And.right
  · intro h
    exact ⟨(Array.getElem?_eq_some_iff.mp h).1, h⟩

theorem nodup_children {records : Array Comment} {parents : Array (Option Nat)} {p : Option Nat} :
    (children records parents p).Nodup :=
  (List.mergeSort_perm _ _).nodup_iff.mpr (List.nodup_range.filter _)

/-- Siblings are sorted by their stamps, and no two have the same one. -/
theorem children_ascend (hd : Distinct cs) (p : Option Nat) : (children cs.toArray (parents cs) p).Pairwise
    fun i j => stamp (commentAt cs i) < stamp (commentAt cs j) := by
  have hle : ∀ i j : Nat, (siblingOrder (cs.toArray[i]?.getD {}) (cs.toArray[j]?.getD {})).isLE = true ↔
      stamp (commentAt cs i) ≤ stamp (commentAt cs j) := fun i j => by
    rw [List.getElem?_toArray, List.getElem?_toArray]
    exact isLE_iff_of_compares (siblingOrder_compares _ _)
  have hsorted : (children cs.toArray (parents cs) p).Pairwise
      fun i j => stamp (commentAt cs i) ≤ stamp (commentAt cs j) := by
    refine (List.pairwise_mergeSort ?_ ?_ _).imp fun h => (hle _ _).mp h
    · intro a b c hab hbc
      exact (hle a c).mpr (((hle a b).mp hab).trans ((hle b c).mp hbc))
    · intro a b
      rw [Bool.or_eq_true, hle, hle]
      exact le_total _ _
  refine (hsorted.and nodup_children).imp_of_mem ?_
  rintro i j hi hj ⟨hij, hne⟩
  refine lt_of_le_of_ne hij fun heq => hne ?_
  exact hd.eq_place (getElem?_of_parents (mem_children.mp hi)) (getElem?_of_parents (mem_children.mp hj))
    (id_of_stamp heq)

/-- The records of a forest as the walk puts them out. -/
def emitted (cs : List Comment) : List Pending :=
  walk (fun k => children cs.toArray (parents cs) (some k)) cs.length
    ((children cs.toArray (parents cs) none).map fun k => ⟨k, 0, none⟩) 0

theorem Forest.key_root (hf : Forest cs) {k : Nat} (hk : (parents cs)[k]? = some none) :
    key cs (commentAt cs k) = [stamp (commentAt cs k)] := by
  have hc := getElem?_of_parents hk
  exact hf.key_top (List.mem_of_getElem? hc) ((parents_eq_none_iff hf.resolved hc).mp hk)

theorem Forest.key_child (hf : Forest cs) {k i : Nat} (hk : Leads (parents cs) k i) :
    key cs (commentAt cs k) = key cs (commentAt cs i) ++ [stamp (commentAt cs k)] := by
  obtain ⟨c, p, hc, hp, hne, hid⟩ := (leads_parents_iff hf.distinct).mp hk
  rw [commentAt_eq hc, commentAt_eq hp]
  exact hf.key_reply (List.mem_of_getElem? hc) (List.mem_of_getElem? hp) hne hid

theorem Forest.ranked (hf : Forest cs) : Ranked (fun k => children cs.toArray (parents cs) (some k))
    (fun k => key cs (commentAt cs k)) where
  extend k j hj := ⟨_, hf.key_child (mem_children.mp hj)⟩
  apart k := by
    refine (children_ascend hf.distinct (some k)).imp_of_mem fun hi hj hlt => ?_
    rw [hf.key_child (mem_children.mp hi), hf.key_child (mem_children.mp hj)]
    exact .of_lt _ hlt

theorem Forest.apart_roots (hf : Forest cs) : Apart (fun k => key cs (commentAt cs k))
    ((children cs.toArray (parents cs) none).map fun k => ⟨k, 0, none⟩) := by
  refine List.pairwise_map.mpr ((children_ascend hf.distinct none).imp_of_mem fun {i j} hi hj hlt => ?_)
  show Parts (key cs (commentAt cs i)) (key cs (commentAt cs j))
  rw [hf.key_root (mem_children.mp hi), hf.key_root (mem_children.mp hj)]
  exact .of_lt [] hlt

theorem Forest.emitted_sorted (hf : Forest cs) :
    (emitted cs).Pairwise fun p q => key cs (commentAt cs p.place) < key cs (commentAt cs q.place) :=
  walk_sorted hf.ranked hf.apart_roots

theorem emitted_linked : ∀ p ∈ emitted cs, Linked (parents cs) (emitted cs) p := by
  have hroots : ∀ p ∈ (children cs.toArray (parents cs) none).map fun k => (⟨k, 0, none⟩ : Pending),
      Linked (parents cs) [] p := by
    intro p hp
    obtain ⟨k, hk, rfl⟩ := List.mem_map.mp hp
    exact Or.inl ⟨mem_children.mp hk, rfl, rfl⟩
  exact walk_linked (fun k j hj => mem_children.mp hj) hroots

theorem lt_of_emitted {p : Pending} (hp : p ∈ emitted cs) : p.place < cs.length := by
  rw [← size_parents]
  rcases emitted_linked p hp with ⟨htop, -⟩ | ⟨_, _, _, hup, -⟩
  · exact (Array.getElem?_eq_some_iff.mp htop).1
  · exact (Array.getElem?_eq_some_iff.mp hup).1

theorem Forest.nodup_emitted (hf : Forest cs) : ((emitted cs).map (·.place)).Nodup :=
  List.pairwise_map.mpr (hf.emitted_sorted.imp fun h heq => (heq ▸ h).ne rfl)

/-- If fewer records than there are were put out, those put out are the roots and what leads to them. -/
theorem emitted_exhausts : (emitted cs).length = cs.length ∨
    ∀ k, Rooted (parents cs) k → k ∈ (emitted cs).map (·.place) := by
  rcases walk_exhausts (fun k => children cs.toArray (parents cs) (some k)) cs.length
    ((children cs.toArray (parents cs) none).map fun k => ⟨k, 0, none⟩) 0 with hlen | ⟨hroots, hkids⟩
  · exact Or.inl hlen
  · refine Or.inr fun k hk => ?_
    induction hk with
    | top ht => exact List.mem_map.mpr ⟨_, hroots _ (List.mem_map.mpr ⟨_, mem_children.mpr ht, rfl⟩), rfl⟩
    | step hp _ ih =>
      obtain ⟨q, hq, rfl⟩ := List.mem_map.mp ih
      obtain ⟨r, hr, rfl⟩ := hkids q hq _ (mem_children.mpr hp)
      exact List.mem_map.mpr ⟨r, hr, rfl⟩

/-- Every place is put out exactly once. -/
theorem Forest.emitted_perm (hf : Forest cs) : ((emitted cs).map (·.place)).Perm (List.range cs.length) := by
  have hsub : (emitted cs).map (·.place) ⊆ List.range cs.length := fun k hk => by
    obtain ⟨p, hp, rfl⟩ := List.mem_map.mp hk
    exact List.mem_range.mpr (lt_of_emitted hp)
  refine (List.subperm_of_subset hf.nodup_emitted hsub).perm_of_length_le ?_
  rcases emitted_exhausts with hlen | hall
  · rw [List.length_range, List.length_map, hlen]
  · refine (List.subperm_of_subset List.nodup_range fun k hk => hall k ?_).length_le
    have hk := List.getElem?_eq_getElem (List.mem_range.mp hk)
    exact (rooted_parents_iff hf.distinct hf.resolved hk).mpr (hf.grounded _ (List.mem_of_getElem? hk))

end

end Marginalia.Thread
