import Mathlib
import Marginalia.Html.Modes

/-!
The root of a document in the making. Once the element around everything has been opened, it stays where it is: directly
below the document, and outermost of what is open. Tags move other nodes about, but none of them takes the root away.
-/

namespace Marginalia

namespace Html

namespace Draft

variable {d d' : Draft} {r i j p : Nat} {next : Option Nat} {e : Entry} {s t : List Nat}

/-! ### Entries -/

theorem entry_setEntry (d : Draft) (i j : Nat) (e : Entry) :
    (d.setEntry i e).entry j = if i = j ∧ i < d.entries.size then e else d.entry j := by
  simp only [entry, setEntry, Array.getD_eq_getD_getElem?, Array.getElem?_setIfInBounds]
  by_cases hij : i = j
  · subst hij
    by_cases hi : i < d.entries.size <;> simp [hi]
  · simp [hij]

theorem entry_create (d : Draft) (c : Content) (j : Nat) :
    (d.create c).1.entry j = if j = d.entries.size then ⟨c, none, []⟩ else d.entry j := by
  simp only [entry, create, Array.getD_eq_getD_getElem?, Array.getElem?_push]
  split <;> rfl

theorem entry_of_size_le (hi : d.entries.size ≤ i) : d.entry i = default := by
  simp [entry, Array.getD_eq_getD_getElem?, Array.getElem?_eq_none hi]

theorem lt_size_of_parent (hi : (d.entry i).parent ≠ none) : i < d.entries.size := by
  by_contra hge
  rw [entry_of_size_le (Nat.le_of_not_lt hge)] at hi
  exact hi rfl

theorem lt_size_of_content (hi : (d.entry i).content ≠ .document) : i < d.entries.size := by
  by_contra hge
  rw [entry_of_size_le (Nat.le_of_not_lt hge)] at hi
  exact hi rfl

@[simp] theorem size_setEntry (d : Draft) (i : Nat) (e : Entry) :
    (d.setEntry i e).entries.size = d.entries.size := by
  simp [setEntry]

@[simp] theorem size_insert (d : Draft) (p : Nat) (next : Option Nat) (i : Nat) :
    (d.insert p next i).entries.size = d.entries.size := by
  simp [insert]

@[simp] theorem size_detach (d : Draft) (i : Nat) : (d.detach i).entries.size = d.entries.size := by
  unfold detach
  split <;> simp

@[simp] theorem stack_detach (d : Draft) (i : Nat) : (d.detach i).stack = d.stack := by
  unfold detach
  split <;> rfl

@[simp] theorem head_detach (d : Draft) (i : Nat) : (d.detach i).head = d.head := by
  unfold detach
  split <;> rfl

theorem content_insert (d : Draft) (p : Nat) (next : Option Nat) (i j : Nat) :
    ((d.insert p next i).entry j).content = (d.entry j).content := by
  simp only [insert, entry_setEntry]
  grind

theorem parent_insert (d : Draft) (p : Nat) (next : Option Nat) (i j : Nat) :
    ((d.insert p next i).entry j).parent = if i = j ∧ i < d.entries.size then some p else (d.entry j).parent := by
  simp only [insert, entry_setEntry, size_setEntry]
  grind

theorem children_insert (d : Draft) (p : Nat) (next : Option Nat) (i j : Nat) :
    ((d.insert p next i).entry j).children = if p = j ∧ p < d.entries.size then
      match next with
      | some n => (d.entry p).children.takeWhile (· != n) ++ i :: (d.entry p).children.dropWhile (· != n)
      | none => (d.entry p).children ++ [i]
    else (d.entry j).children := by
  simp only [insert, entry_setEntry, size_setEntry]
  grind

theorem mem_takeWhile_cons_dropWhile {k : Nat} {q : Nat → Bool} :
    k ∈ s.takeWhile q ++ i :: s.dropWhile q ↔ k ∈ s ∨ k = i := by
  have hmem : k ∈ s ↔ k ∈ s.takeWhile q ∨ k ∈ s.dropWhile q := by
    rw [← List.mem_append, List.takeWhile_append_dropWhile]
  rw [hmem, List.mem_append, List.mem_cons, or_assoc, or_comm (a := k = i)]

theorem mem_children_insert {k : Nat} : k ∈ ((d.insert p next i).entry j).children ↔
    k ∈ (d.entry j).children ∨ (p = j ∧ p < d.entries.size) ∧ k = i := by
  rw [children_insert]
  split
  · rename_i hj
    obtain ⟨rfl, hp⟩ := hj
    cases next with
    | none => simp [hp]
    | some n => simp only [mem_takeWhile_cons_dropWhile, hp, and_self, true_and]
  · rename_i hj
    simp [hj]

theorem content_detach (d : Draft) (i j : Nat) : ((d.detach i).entry j).content = (d.entry j).content := by
  unfold detach
  split
  · rfl
  · simp only [entry_setEntry]
    grind

theorem parent_detach (d : Draft) (i j : Nat) :
    ((d.detach i).entry j).parent = if i = j then none else (d.entry j).parent := by
  unfold detach
  split
  · grind
  · rename_i p hparent
    have hi : i < d.entries.size := lt_size_of_parent (by simp [hparent])
    simp only [entry_setEntry, size_setEntry]
    grind

theorem mem_children_detach {k : Nat} (hp : (d.entry i).parent = some p) :
    k ∈ ((d.detach i).entry j).children ↔ k ∈ (d.entry j).children ∧ ¬(j = p ∧ k = i) := by
  have hj : ¬p < d.entries.size → (d.entry p).children = [] := fun hge => by
    rw [entry_of_size_le (Nat.le_of_not_lt hge)]
    rfl
  simp only [detach, hp, entry_setEntry, size_setEntry]
  grind

theorem label?_eq_some {l : Label} : d.label? i = some l ↔ (d.entry i).content = .element l := by
  unfold label?
  cases (d.entry i).content <;> simp

theorem content_setContent (d : Draft) (i j : Nat) (c : Content) :
    ((d.setEntry i { d.entry i with content := c }).entry j).content =
      if i = j ∧ i < d.entries.size then c else (d.entry j).content := by
  rw [entry_setEntry]
  split <;> rfl

theorem parent_setContent (d : Draft) (i j : Nat) (c : Content) :
    ((d.setEntry i { d.entry i with content := c }).entry j).parent = (d.entry j).parent := by
  rw [entry_setEntry]
  grind

theorem children_setContent (d : Draft) (i j : Nat) (c : Content) :
    ((d.setEntry i { d.entry i with content := c }).entry j).children = (d.entry j).children := by
  rw [entry_setEntry]
  grind

/-- An entry that hangs nowhere. -/
structure Loose (i : Nat) (d : Draft) : Prop where
  lt : i < d.entries.size
  parent : (d.entry i).parent = none

theorem loose_create (d : Draft) (c : Content) : Loose (d.create c).2 (d.create c).1 where
  lt := by simp [create]
  parent := congrArg Entry.parent ((entry_create d c _).trans (if_pos rfl))

theorem loose_detach (hi : i < d.entries.size) : Loose i (d.detach i) where
  lt := by simpa using hi
  parent := by simp [parent_detach]

theorem Loose.insert (hj : Loose j d) (hne : i ≠ j) (p : Nat) (next : Option Nat) : Loose j (d.insert p next i) where
  lt := by simpa using hj.lt
  parent := by simp [parent_insert, hne, hj.parent]

theorem Loose.detach (hj : Loose j d) (i : Nat) : Loose j (d.detach i) where
  lt := by simpa using hj.lt
  parent := by simp [parent_detach, hj.parent]

/-! ### Forests -/

/-- Entry zero is the document, what hangs below an entry has it as its parent, and no text is empty. -/
structure Forest (entries : Array Entry) : Prop where
  pos : 0 < entries.size
  document : (entries.getD 0 default).content = .document
  text : ∀ i, (entries.getD i default).content ≠ .text []
  consistent : ∀ p i, i ∈ (entries.getD p default).children → (entries.getD i default).parent = some p

namespace Forest

variable (hd : Forest d.entries)

include hd

theorem ne_zero (hi : (d.entry i).content ≠ .document) : i ≠ 0 := by
  rintro rfl
  exact hi hd.document

theorem not_mem_of_loose (hi : Loose i d) (p : Nat) : i ∉ (d.entry p).children := by
  intro hmem
  have hparent : (d.entry i).parent = some p := hd.consistent p i hmem
  rw [hi.parent] at hparent
  cases hparent

theorem setContent {c : Content} (hi : i ≠ 0) (hc : c ≠ .text []) :
    Forest (d.setEntry i { d.entry i with content := c }).entries where
  pos := by simpa using hd.pos
  document := (content_setContent d i 0 c).trans ((if_neg fun h => hi h.1).trans hd.document)
  text j htext := by
    have hcontent : (if i = j ∧ i < d.entries.size then c else (d.entry j).content) = .text [] :=
      (content_setContent d i j c).symm.trans htext
    split at hcontent
    · exact hc hcontent
    · exact hd.text j hcontent
  consistent p j hj := (parent_setContent d i j c).trans (hd.consistent p j (children_setContent d i p c ▸ hj))

theorem create {c : Content} (hc : c ≠ .text []) : Forest (d.create c).1.entries where
  pos := by simp [Draft.create]
  document := (congrArg Entry.content ((entry_create d c 0).trans (if_neg hd.pos.ne))).trans hd.document
  text j htext := by
    have hcontent : (if j = d.entries.size then ⟨c, none, []⟩ else d.entry j : Entry).content = .text [] :=
      (congrArg Entry.content (entry_create d c j)).symm.trans htext
    split at hcontent
    · exact hc hcontent
    · exact hd.text j hcontent
  consistent p i hi := by
    have hold : i ∈ (d.entry p).children := by
      have hmem : i ∈ ((d.create c).1.entry p).children := hi
      rw [entry_create] at hmem
      split at hmem
      · cases hmem
      · exact hmem
    have hparent : (d.entry i).parent = some p := hd.consistent p i hold
    have hlt : i < d.entries.size := lt_size_of_parent (by simp [hparent])
    exact (congrArg Entry.parent ((entry_create d c i).trans (if_neg hlt.ne))).trans hparent

theorem insert (hi : Loose i d) (p : Nat) (next : Option Nat) : Forest (d.insert p next i).entries where
  pos := by simpa using hd.pos
  document := (content_insert d p next i 0).trans hd.document
  text j htext := hd.text j ((content_insert d p next i j).symm.trans htext)
  consistent q j hj := by
    have hparent : ((d.insert p next i).entry j).parent = if i = j then some p else (d.entry j).parent := by
      rw [parent_insert]
      simp [hi.lt]
    refine hparent.trans ?_
    rcases mem_children_insert.mp hj with hj | ⟨⟨rfl, -⟩, rfl⟩
    · have hne : i ≠ j := fun hij => hd.not_mem_of_loose hi q (hij ▸ hj)
      rw [if_neg hne]
      exact hd.consistent q j hj
    · rw [if_pos rfl]

theorem detach (i : Nat) : Forest (d.detach i).entries := by
  cases hp : (d.entry i).parent with
  | none =>
    have hsame : d.detach i = d := by simp only [Draft.detach, hp]
    exact hsame.symm ▸ hd
  | some p =>
    refine ⟨by simpa using hd.pos, (content_detach d i 0).trans hd.document,
      fun j htext => hd.text j ((content_detach d i j).symm.trans htext), fun q j hj => ?_⟩
    obtain ⟨hj, hremoved⟩ := (mem_children_detach hp).mp hj
    have hq : (d.entry j).parent = some q := hd.consistent q j hj
    refine (parent_detach d i j).trans ?_
    rw [if_neg, hq]
    rintro rfl
    rw [hp] at hq
    exact hremoved ⟨(Option.some.inj hq).symm, rfl⟩

end Forest

/-! ### The root -/

/-- The entry with a number is the root of a document, whose entries, open elements and head these are. -/
structure Root (r : Nat) (entries : Array Entry) (stack : List Nat) (head : Option Nat) : Prop
    extends Forest entries where
  label : ∃ l : Label, (entries.getD r default).content = .element l ∧ l.name = "html"
  parent : (entries.getD r default).parent = some 0
  child : r ∈ (entries.getD 0 default).children
  outermost : r ∉ stack.dropLast
  head_ne : head ≠ some r

/-- Tags read and write much else, but all that the root depends on is this. -/
def Rooted (r : Nat) (d : Draft) : Prop := Root r d.entries d.stack d.head

@[grind =] theorem rooted_mk {entries stack active mode resume templates head form framesetOk fostering quirks
    plainNext} : Rooted r ⟨entries, stack, active, mode, resume, templates, head, form, framesetOk, fostering, quirks,
      plainNext⟩ ↔ Root r entries stack head := Iff.rfl

@[grind =] theorem root_fields : Root r d.entries d.stack d.head ↔ Rooted r d := Iff.rfl

namespace Rooted

variable (hd : Rooted r d)

include hd

theorem ne_of_loose (hi : Loose i d) : i ≠ r := by
  rintro rfl
  have hparent : (d.entry i).parent = some 0 := hd.parent
  rw [hi.parent] at hparent
  cases hparent

theorem ne_zero (hi : (d.entry i).content ≠ .document) : i ≠ 0 := hd.toForest.ne_zero hi

theorem ne_root (hi : ∀ l : Label, l.name = "html" → (d.entry i).content ≠ .element l) : i ≠ r := by
  rintro rfl
  obtain ⟨l, hl, hname⟩ := hd.label
  exact hi l hname hl

/-- What hangs below an element is not the root. -/
theorem ne_of_child (hp : p ≠ 0) (hi : i ∈ (d.entry p).children) : i ≠ r := by
  rintro rfl
  have hparent : (d.entry i).parent = some p := hd.consistent p i hi
  have hroot : (d.entry i).parent = some 0 := hd.parent
  rw [hroot] at hparent
  exact hp (Option.some.inj hparent).symm

theorem setContent {c : Content} (hi : i ≠ 0) (hc : c ≠ .text [])
    (hroot : i = r → ∃ l : Label, c = .element l ∧ l.name = "html") :
    Rooted r (d.setEntry i { d.entry i with content := c }) := by
  refine ⟨hd.toForest.setContent hi hc, ?_, (parent_setContent d i r c).trans hd.parent,
    (children_setContent d i 0 c).symm ▸ hd.child, hd.outermost, hd.head_ne⟩
  obtain ⟨l, hl, hname⟩ := hd.label
  have hcontent := content_setContent d i r c
  by_cases hir : i = r ∧ i < d.entries.size
  · obtain ⟨k, rfl, hk⟩ := hroot hir.1
    exact ⟨k, hcontent.trans (if_pos hir), hk⟩
  · exact ⟨l, (hcontent.trans (if_neg hir)).trans hl, hname⟩

theorem create {c : Content} (hc : c ≠ .text []) : Rooted r (d.create c).1 := by
  have hlt : r < d.entries.size := by
    have hparent : (d.entry r).parent = some 0 := hd.parent
    exact lt_size_of_parent (by simp [hparent])
  have hr : (d.create c).1.entry r = d.entry r := (entry_create d c r).trans (if_neg hlt.ne)
  have hzero : (d.create c).1.entry 0 = d.entry 0 := (entry_create d c 0).trans (if_neg hd.pos.ne)
  obtain ⟨l, hl, hname⟩ := hd.label
  exact ⟨hd.toForest.create hc, ⟨l, (congrArg Entry.content hr).trans hl, hname⟩,
    (congrArg Entry.parent hr).trans hd.parent, (congrArg Entry.children hzero).symm ▸ hd.child, hd.outermost,
    hd.head_ne⟩

theorem clone (i : Nat) : Rooted r (d.clone i).1 := hd.create (hd.text i)

theorem insert (hi : Loose i d) (p : Nat) (next : Option Nat) : Rooted r (d.insert p next i) := by
  obtain ⟨l, hl, hname⟩ := hd.label
  refine ⟨hd.toForest.insert hi p next, ⟨l, (content_insert d p next i r).trans hl, hname⟩, ?_,
    mem_children_insert.mpr (.inl hd.child), hd.outermost, hd.head_ne⟩
  refine (parent_insert d p next i r).trans ((if_neg fun h => ?_).trans hd.parent)
  exact hd.ne_of_loose hi h.1

theorem detach (hi : i ≠ r) : Rooted r (d.detach i) := by
  obtain ⟨l, hl, hname⟩ := hd.label
  refine ⟨hd.toForest.detach i, ⟨l, (content_detach d i r).trans hl, hname⟩,
    (parent_detach d i r).trans ((if_neg hi).trans hd.parent), ?_, (stack_detach d i).symm ▸ hd.outermost,
    (head_detach d i).symm ▸ hd.head_ne⟩
  cases hp : (d.entry i).parent with
  | none =>
    have hsame : d.detach i = d := by simp only [Draft.detach, hp]
    exact hsame.symm ▸ hd.child
  | some p => exact (mem_children_detach hp).mpr ⟨hd.child, fun h => hi h.2.symm⟩

end Rooted

/-- Moving entries that are not the root. -/
theorem Rooted.move (hd : Rooted r d) (target : Nat) {is : List Nat} (his : ∀ i ∈ is, i ≠ r ∧ i < d.entries.size) :
    Rooted r (is.foldl (fun d i => (d.detach i).insert target none i) d) := by
  induction is generalizing d with
  | nil => exact hd
  | cons i is ih =>
    obtain ⟨⟨hne, hlt⟩, his⟩ := List.forall_mem_cons.mp his
    exact ih ((hd.detach hne).insert (loose_detach hlt) target none) (by simpa using his)

theorem Loose.move (hj : Loose j d) (target : Nat) {is : List Nat} (his : j ∉ is) :
    Loose j (is.foldl (fun d i => (d.detach i).insert target none i) d) := by
  induction is generalizing d with
  | nil => exact hj
  | cons i is ih =>
    rw [List.mem_cons, not_or] at his
    obtain ⟨hne, his⟩ := his
    exact ih ((hj.detach i).insert (Ne.symm hne) target none) his

/-! ### The stack of open elements -/

theorem dropLast_sublist (h : s.Sublist t) : s.dropLast.Sublist t.dropLast := by
  have htail := h.reverse.tail
  rwa [List.tail_reverse, List.tail_reverse, List.reverse_sublist] at htail

/-- What is open inside an element is not the outermost one. -/
theorem mem_dropLast_of_mem_takeWhile (hj : j ∈ s) (hi : i ∈ s.takeWhile (· != j)) : i ∈ s.dropLast := by
  have hrest : s.dropWhile (· != j) ≠ [] := fun hnil => by
    simpa using List.dropWhile_eq_nil_iff.mp hnil j hj
  rw [← List.takeWhile_append_dropWhile (p := (· != j)) (l := s), List.dropLast_append_of_ne_nil hrest]
  exact List.mem_append_left _ hi

/-- What is last stays last when others are put in front of some. -/
theorem not_mem_dropLast_nested {copy block : Nat} (hs : r ∉ s.dropLast) (hcopy : copy ≠ r) :
    r ∉ (s.flatMap fun i => if i == block then [copy, i] else [i]).dropLast := by
  induction s with
  | nil => exact hs
  | cons i s ih =>
    cases s with
    | nil => by_cases hi : i = block <;> simp [hi, hcopy.symm]
    | cons j s =>
      rw [List.dropLast_cons_of_ne_nil (List.cons_ne_nil j s), List.mem_cons, not_or] at hs
      have hrest : (j :: s).flatMap (fun i => if i == block then [copy, i] else [i]) ≠ [] := by
        by_cases hj : j = block <;> simp [hj]
      rw [List.flatMap_cons, List.dropLast_append_of_ne_nil hrest, List.mem_append, not_or]
      refine ⟨?_, ih hs.2⟩
      split
      · simp [hs.1, hcopy.symm]
      · simp [hs.1]

theorem outside?_sublist {scope : Scope} {names : List Text} (h : d.outside? scope names s = some t) :
    t.Sublist s := by
  induction s with
  | nil => cases h
  | cons i s ih =>
    unfold outside? at h
    split at h
    · exact Option.some.inj h ▸ List.sublist_cons_self i s
    · split at h
      · cases h
      · exact (ih h).trans (List.sublist_cons_self i s)

namespace Rooted

variable (hd : Rooted r d)

include hd

theorem moveChildren {source : Nat} (hsource : source ≠ 0) (target : Nat) : Rooted r (d.moveChildren source target) :=
  hd.move target fun i hi =>
    have hparent : (d.entry i).parent = some source := hd.consistent source i hi
    ⟨hd.ne_of_child hsource hi, lt_size_of_parent (by simp [hparent])⟩

theorem loose_moveChildren (hj : Loose j d) (source target : Nat) : Loose j (d.moveChildren source target) :=
  hj.move target (hd.toForest.not_mem_of_loose hj source)

/-- Elements may be closed. -/
theorem close (hs : s.Sublist d.stack) : Rooted r { d with stack := s } :=
  { hd with outermost := fun hr => hd.outermost ((dropLast_sublist hs).subset hr) }

/-- Other elements may be opened. -/
theorem push (hi : i ≠ r) : Rooted r { d with stack := i :: d.stack } := by
  refine { hd with outermost := fun hr => ?_ }
  have hpushed : (i :: d.stack).dropLast.Sublist (i :: d.stack.dropLast) := by
    cases d.stack with
    | nil => exact List.nil_sublist _
    | cons j s => exact List.Sublist.refl _
  rcases List.mem_cons.mp (hpushed.subset hr) with rfl | hr
  · exact hi rfl
  · exact hd.outermost hr

@[grind ←] theorem pop : Rooted r d.pop := hd.close (List.drop_sublist 1 _)

@[grind ←] theorem removeOpen (i : Nat) : Rooted r (d.removeOpen i) := hd.close List.erase_sublist

@[grind ←] theorem popUntil (scope : Scope) (names : List Text) : Rooted r (d.popUntil scope names).1 := by
  unfold Draft.popUntil
  split
  · rename_i outer houter
    exact hd.close (outside?_sublist houter)
  · exact hd

@[grind ←] theorem closeParagraph : Rooted r d.closeParagraph := hd.popUntil _ _

@[grind ←] theorem clearTo (names : List Text) : Rooted r (d.clearTo names) := by
  unfold Draft.clearTo
  split
  · exact hd
  · exact hd.close (List.dropWhile_sublist _)

@[grind ←] theorem closeImplied (except : Text) : Rooted r (d.closeImplied except) :=
  hd.close (List.dropWhile_sublist _)

@[grind ←] theorem closeOther (name : Text) : Rooted r (d.closeOther name) := by
  have hgo (s : List Nat) (hs : s.Sublist d.stack) : (closeOther.go d name s).Sublist d.stack := by
    induction s with
    | nil => exact .refl _
    | cons i s ih =>
      have hs : s.Sublist d.stack := (List.sublist_cons_self i s).trans hs
      unfold closeOther.go
      split
      · exact hs
      · split
        · exact .refl _
        · exact ih hs
  exact hd.close (hgo d.stack (.refl _))

@[grind ←] theorem closeItem (names : List Text) : Rooted r (d.closeItem names) := by
  have hgo (s : List Nat) (hs : s.Sublist d.stack) : (closeItem.go d names s).Sublist d.stack := by
    induction s with
    | nil => exact .refl _
    | cons i s ih =>
      have hs : s.Sublist d.stack := (List.sublist_cons_self i s).trans hs
      unfold closeItem.go
      split
      · exact hs
      · split
        · exact .refl _
        · exact ih hs
  exact hd.close (hgo d.stack (.refl _))

@[grind ←] theorem leaveForeign (isEntry : Nat → Bool) : Rooted r (d.leaveForeign isEntry) := by
  unfold Draft.leaveForeign
  split
  · exact hd
  · exact hd.close (List.dropWhile_sublist _)

/-! ### What is added -/

theorem addNode (hi : Loose i d) : Rooted r (d.addNode i) := hd.insert hi _ _

@[grind ←] theorem addText (t : Text) : Rooted r (d.addText t) := by
  unfold Draft.addText
  split
  · exact hd
  · rename_i hempty
    have hne : t ≠ [] := by simpa using hempty
    dsimp only
    split
    · rename_i merged hmerged
      obtain ⟨i, -, hi⟩ := Option.bind_eq_some_iff.mp hmerged
      split at hi
      · rename_i u hcontent
        have hroot : i ≠ r := hd.ne_root fun l _ => by simp [hcontent]
        have hjoined : Content.text (u ++ t) ≠ .text [] := by simp [hne]
        exact Option.some.inj hi ▸ hd.setContent (hd.ne_zero (by simp [hcontent])) hjoined fun h => absurd h hroot
      · cases hi
    · exact (hd.create (by simpa using hne)).insert (loose_create d _) _ _

@[grind ←] theorem addComment (t : Text) : Rooted r (d.addComment t) :=
  (hd.create (by simp)).addNode (loose_create d _)

@[grind ←] theorem addCommentTo (parent : Nat) (t : Text) : Rooted r (d.addCommentTo parent t) :=
  (hd.create (by simp)).insert (loose_create d _) parent none

theorem openNode (hi : Loose i d) : Rooted r (d.openNode i) := (hd.addNode hi).push (hd.ne_of_loose hi)

@[grind ←] theorem addElement (name : Text) (attributes : List Attribute) (space : Space) :
    Rooted r (d.addElement name attributes space) :=
  (hd.create (by simp)).openNode (loose_create d _)

@[grind ←] theorem addVoid (name : Text) (attributes : List Attribute) : Rooted r (d.addVoid name attributes) :=
  (hd.addElement name attributes .html).pop

@[grind ←] theorem addRaw (name : Text) (attributes : List Attribute) : Rooted r (d.addRaw name attributes) :=
  hd.addElement name attributes .html

@[grind ←] theorem addAttributes (i : Nat) (attributes : List Attribute) :
    Rooted r (d.addAttributes i attributes) := by
  unfold Draft.addAttributes
  split
  · exact hd
  · rename_i l hl
    have hcontent := label?_eq_some.mp hl
    refine hd.setContent (hd.ne_zero (by simp [hcontent])) (by simp) ?_
    rintro rfl
    obtain ⟨k, hk, hname⟩ := hd.label
    have hsame : Content.element k = .element l := hk.symm.trans hcontent
    cases hsame
    exact ⟨_, rfl, hname⟩

/-! ### Formatting elements -/

@[grind ←] theorem reopen : Rooted r d.reopen := by
  unfold Draft.reopen
  refine List.foldlRecOn (motive := fun p : Draft × List (Option Nat) => Rooted r p.1) _ _ hd fun p hp i _ => ?_
  exact (Rooted.clone hp (i.getD 0)).openNode (loose_create p.1 _)

@[grind ←] theorem addFormatting (name : Text) (attributes : List Attribute) :
    Rooted r (d.addFormatting name attributes) :=
  hd.addElement name attributes .html

@[grind ←] theorem forget (i : Nat) : Rooted r (d.forget i) := hd

/-- Another element may stand for an open one. -/
theorem swap {copy : Nat} (hcopy : copy ≠ r) (i : Nat) (active : List (Option Nat)) :
    Rooted r { d with active, stack := d.stack.map fun j => if j == i then copy else j } := by
  refine { hd with outermost := fun hr => ?_ }
  rw [← List.map_dropLast] at hr
  obtain ⟨j, hj, hjr⟩ := List.mem_map.mp hr
  split at hjr
  · exact hcopy hjr
  · exact hd.outermost (hjr ▸ hj)

/-- Another element may be opened inside an open one. -/
theorem nest {copy : Nat} (hcopy : copy ≠ r) (block : Nat) (active : List (Option Nat)) :
    Rooted r { d with active, stack := d.stack.flatMap fun i => if i == block then [copy, i] else [i] } :=
  { hd with outermost := not_mem_dropLast_nested hd.outermost hcopy }

end Rooted

/-- Wrapping a block in copies keeps the root, and the outermost copy, which is to be moved next, is not the root. -/
theorem rewrap_rooted {block last : Nat} (hd : Rooted r d) (hne : last ≠ r) (hlt : last < d.entries.size)
    (turn bookmark : Nat) (between : List Nat) :
    Rooted r (rewrap block turn last bookmark between d).1 ∧ (rewrap block turn last bookmark between d).2.1 ≠ r ∧
      (rewrap block turn last bookmark between d).2.1 < (rewrap block turn last bookmark between d).1.entries.size := by
  induction between generalizing d last turn bookmark with
  | nil => exact ⟨hd, hne, hlt⟩
  | cons i between ih =>
    unfold rewrap
    dsimp only
    split
    · exact ih (hd.removeOpen i) hne hlt _ _
    · split
      · exact ih (hd.forget i) hne hlt _ _
      · have hcopy : Rooted r (d.clone i).1 := hd.clone _
        have hloose : Loose (d.clone i).2 (d.clone i).1 := loose_create d _
        have hlt' : last < (d.clone i).1.entries.size := by simpa [clone, create] using Nat.lt_succ_of_lt hlt
        have hswap := hcopy.swap (hcopy.ne_of_loose hloose) i
          (d.active.map (Option.map fun j => if j == i then (d.clone i).2 else j))
        exact ih ((hswap.detach hne).insert (loose_detach hlt') _ none) (hcopy.ne_of_loose hloose)
          (by simpa using hloose.lt) _ _

theorem content_of_isSpecial (hi : d.isSpecial i = true) : (d.entry i).content ≠ .document := by
  intro hcontent
  have hlabel : d.label? i = none := by
    unfold label?
    rw [hcontent]
  have hnone : [] ∉ specialElements := by decide +kernel
  simp [isSpecial, space, name, hlabel, hnone] at hi

namespace Rooted

variable (hd : Rooted r d)

include hd

/-- What hangs below a block moves into a copy of a formatting element, and the copy is all that hangs there then. -/
theorem refill {block : Nat} (hblock : block ≠ 0) (formatting : Nat) (active : List (Option Nat)) :
    let (d, copy) := d.clone formatting
    let d := (d.moveChildren block copy).insert block none copy
    Rooted r { d with
      active, stack := (d.stack.erase formatting).flatMap fun i => if i == block then [copy, i] else [i] } := by
  have hcloned : Rooted r (d.clone formatting).1 := hd.clone _
  have hloose : Loose (d.clone formatting).2 (d.clone formatting).1 := loose_create d _
  have hmoved := (hcloned.moveChildren hblock (d.clone formatting).2).insert
    (hcloned.loose_moveChildren hloose block _) block none
  exact (hmoved.close List.erase_sublist).nest (hcloned.ne_of_loose hloose) block active

theorem adoptOnce (name : Text) : Rooted r (d.adoptOnce name).1 := by
  unfold Draft.adoptOnce
  dsimp only
  split
  · exact hd.closeOther name
  · exact hd.closeOther name
  split
  · exact hd
  split
  · exact hd
  split
  · exact hd.close (List.Sublist.trans (List.drop_sublist 1 _) (List.dropWhile_sublist _))
  · rename_i formatting _ hopen _ _ block hblock
    have hspecial := content_of_isSpecial (List.find?_some hblock)
    have hzero : block ≠ 0 := hd.ne_zero hspecial
    -- The root is special too, but the block has been opened inside the formatting element.
    have hroot : block ≠ r := by
      rintro rfl
      refine hd.outermost (mem_dropLast_of_mem_takeWhile ?_ (List.mem_reverse.mp (List.mem_of_find?_eq_some hblock)))
      simpa using hopen
    have hlt : block < d.entries.size := lt_size_of_content hspecial
    obtain ⟨hwrapped, hlast, hltlast⟩ := rewrap_rooted hd hroot hlt 1
      ((d.active.reverse.idxOf? (some formatting)).getD 0)
      (((d.stack.takeWhile (· != formatting)).dropWhile (· != block)).drop 1)
    generalize rewrap block 1 block _ _ d = wrapped at hwrapped hlast hltlast ⊢
    exact ((hwrapped.detach hlast).insert (loose_detach hltlast) _ _).refill hzero formatting _

theorem adopt (name : Text) (rounds : Nat) : Rooted r (adopt name rounds d) := by
  induction rounds generalizing d with
  | zero => exact hd
  | succ rounds ih =>
    have hround := hd.adoptOnce name
    unfold Draft.adopt
    split
    · rename_i d' heq
      rw [heq] at hround
      exact ih hround
    · rename_i d' heq
      rw [heq] at hround
      exact hround

@[grind ←] theorem closeFormatting (name : Text) : Rooted r (d.closeFormatting name) := by
  unfold Draft.closeFormatting
  split
  · exact hd.pop
  · exact hd.adopt name 8

end Rooted

end Draft
end Html
end Marginalia
