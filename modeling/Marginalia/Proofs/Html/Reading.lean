import Mathlib
import Marginalia.Html.Document
import Marginalia.Proofs.Html.Root
import Marginalia.Proofs.Html.Tokens

/-!
Every document has a root. A token keeps it in whatever mode it is read, as each mode is made of operations that do; these
are known to `grind`, which follows them through the branches of a mode. Before the root is there nothing is open, and the
end of the input opens what is missing.
-/

namespace Marginalia

namespace Html

namespace Draft

variable {d d' : Draft} {r : Nat}

theorem fst_ite {c : Prop} [Decidable c] {a b : Step} (ha : Rooted r a.1) (hb : Rooted r b.1) :
    Rooted r (if c then a else b).1 := by
  split
  · exact ha
  · exact hb

/-- What one step keeps is kept until a token has been handled, however often it is read again. -/
theorem handle_keeps {P : Draft → Prop}
    (hstep : ∀ token d, P d → P (if isForeign token d then inForeign token d else byMode token d).1)
    (fuel : Nat) (token : Token) (hd : P d) : P (handle fuel token d) := by
  induction fuel generalizing token d with
  | zero => exact hd
  | succ fuel ih =>
    have hnext := hstep token d hd
    unfold Draft.handle
    split
    · rename_i d' heq
      rwa [heq] at hnext
    · rename_i d' again heq
      rw [heq] at hnext
      exact ih again hnext

namespace Rooted

variable (hd : Rooted r d)

include hd

@[grind →] theorem of_popUntil {scope : Scope} {names : List Text} {found : Bool}
    (h : d.popUntil scope names = (d', found)) : Rooted r d' := by
  have hpop := hd.popUntil scope names
  rwa [h] at hpop

@[grind →] theorem of_dropWhile {i : Nat} {outer : List Nat} {inside : Nat → Bool}
    (h : d.stack.dropWhile inside = i :: outer) : Root r d.entries outer d.head :=
  hd.close ((List.sublist_cons_self i outer).trans (h ▸ List.dropWhile_sublist _))

/-! ### Templates and the head -/

@[grind ←] theorem clearActive : Rooted r d.clearActive := hd

@[grind ←] theorem addBorder : Rooted r d.addBorder := hd

@[grind ←] theorem resetMode : Rooted r d.resetMode := hd

@[grind ←] theorem closeTemplate : Rooted r d.closeTemplate :=
  (hd.closeImplied []).close (List.Sublist.trans (List.drop_sublist 1 _) (List.dropWhile_sublist _))

@[grind ←] theorem endTemplate : Rooted r d.endTemplate := by
  unfold Draft.endTemplate
  grind

@[grind ←] theorem startHeadElement (name : Text) (attributes : List Attribute) :
    Rooted r (d.startHeadElement name attributes) := by
  unfold Draft.startHeadElement
  grind

@[grind ←] theorem startHtml (attributes : List Attribute) : Rooted r (d.startHtml attributes) := by
  unfold Draft.startHtml
  grind

theorem size_ne : d.entries.size ≠ r := by
  rintro rfl
  have hparent : (d.entry d.entries.size).parent = some 0 := hd.parent
  rw [entry_of_size_le le_rfl] at hparent
  cases hparent

@[grind ←] theorem startHead (attributes : List Attribute) : Rooted r (d.startHead attributes) := by
  have hadded := hd.addElement "head" attributes .html
  have htop : (d.addElement "head" attributes).top ≠ r := hd.size_ne
  exact { hadded with head_ne := fun h => htop (Option.some.inj h) }

/-- The head may be opened once more. -/
@[grind ←] theorem openHead : Root r d.entries (d.head.getD 0 :: d.stack) d.head := by
  have hzero : (0 : Nat) ≠ r := hd.ne_root fun l _ hl => hd.ne_zero (by simp [hl]) rfl
  refine hd.push ?_
  cases hhead : d.head with
  | none => exact hzero
  | some head =>
    rintro rfl
    exact hd.head_ne hhead

/-! ### The body -/

/-- A set of frames takes the place of the body. -/
theorem startFrameset (name : Text) (attributes : List Attribute) {body : Nat} (hbody : d.name body = "body") :
    Rooted r (({ d.detach body with stack := [(d.detach body).stack.getLastD 0] } : Draft).addElement
      name attributes) := by
  have hroot : body ≠ r := hd.ne_root fun l hname hl => by
    have hlabel := label?_eq_some.mpr hl
    have hhtml : d.name body = l.name := by simp [Draft.name, hlabel]
    rw [hhtml, hname] at hbody
    exact absurd hbody (by decide)
  have hdetached := hd.detach hroot
  have halone (i : Nat) : Rooted r { d.detach body with stack := [i] } :=
    { hdetached with outermost := List.not_mem_nil }
  exact (halone _).addElement name attributes .html

@[grind ←] theorem startInBody (name : Text) (attributes : List Attribute) (closesItself : Bool) :
    Rooted r (d.startInBody name attributes closesItself).1 := by
  unfold Draft.startInBody
  cases opening name
  case frameset =>
    simp only [handled]
    grind [hd.startFrameset name attributes]
  all_goals simp only [handled, retry]; grind

@[grind ←] theorem endInBody (name : Text) : Rooted r (d.endInBody name).1 := by
  unfold Draft.endInBody
  repeat' apply fst_ite
  all_goals grind [handled, retry]

@[grind ←] theorem textInBody (t : Text) : Rooted r (d.textInBody t) := by
  unfold Draft.textInBody
  grind

@[grind ←] theorem inBody (token : Token) : Rooted r (inBody token d).1 := by
  unfold Draft.inBody
  cases token <;> simp only [handled, retry] <;> grind

/-! ### Before the body -/

@[grind ←] theorem initial (token : Token) : Rooted r (initial token d).1 := by
  unfold Draft.initial
  cases token <;> simp only [handled, retry]
  case doctype t => exact (hd.create (by simp)).insert (loose_create d _) 0 none
  all_goals grind

@[grind ←] theorem beforeHtml (token : Token) : Rooted r (beforeHtml token d).1 := by
  unfold Draft.beforeHtml
  cases token <;> simp only [handled, retry] <;> grind

theorem beforeHead (token : Token) : Rooted r (beforeHead token d).1 := by
  unfold Draft.beforeHead
  cases token <;> simp only [handled, retry] <;> grind

theorem inHead (token : Token) : Rooted r (inHead token d).1 := by
  unfold Draft.inHead
  cases token <;> simp only [handled, retry] <;> grind

theorem afterHead (token : Token) : Rooted r (afterHead token d).1 := by
  unfold Draft.afterHead
  cases token <;> simp only [handled, retry] <;> grind

theorem inText (token : Token) : Rooted r (inText token d).1 := by
  unfold Draft.inText
  cases token <;> simp only [handled, retry] <;> grind

/-! ### Tables -/

theorem foster : Rooted r { d with fostering := true } := hd

@[grind ←] theorem fostered (token : Token) : Rooted r (fostered token d).1 := by
  unfold Draft.fostered
  grind

@[grind ←] theorem inTable (token : Token) : Rooted r (inTable token d).1 := by
  unfold Draft.inTable
  cases token <;> simp only [handled, retry]
  case startTag name attributes closesItself =>
    have hselect := hd.reopen.foster.addElement name attributes .html
    refine fst_ite ?_ (fst_ite ?_ (fst_ite ?_ (fst_ite ?_ (fst_ite ?_ ?_)))) <;> grind
  all_goals grind

@[grind ←] theorem startSelect (attributes : List Attribute) : Rooted r (d.startSelect attributes) := by
  unfold Draft.startSelect
  grind

theorem inCaption (token : Token) : Rooted r (inCaption token d).1 := by
  unfold Draft.inCaption
  cases token <;> simp only [handled, retry] <;> grind

theorem inColumnGroup (token : Token) : Rooted r (inColumnGroup token d).1 := by
  unfold Draft.inColumnGroup
  cases token <;> simp only [handled, retry] <;> grind

theorem inTableBody (token : Token) : Rooted r (inTableBody token d).1 := by
  unfold Draft.inTableBody
  cases token <;> simp only [handled, retry] <;> grind

theorem inRow (token : Token) : Rooted r (inRow token d).1 := by
  unfold Draft.inRow
  cases token <;> simp only [handled, retry] <;> grind

theorem inCell (token : Token) : Rooted r (inCell token d).1 := by
  unfold Draft.inCell
  cases token <;> simp only [handled, retry] <;> grind

/-! ### Selections and templates -/

@[grind ←] theorem inSelect (token : Token) : Rooted r (inSelect token d).1 := by
  unfold Draft.inSelect
  cases token <;> simp only [handled, retry] <;> grind

theorem inSelectInTable (token : Token) : Rooted r (inSelectInTable token d).1 := by
  unfold Draft.inSelectInTable
  cases token <;> simp only [handled, retry] <;> grind

theorem inTemplate (token : Token) : Rooted r (inTemplate token d).1 := by
  unfold Draft.inTemplate
  cases token <;> simp only [handled, retry] <;> grind

/-! ### Behind the body -/

theorem behindBody (parent : Nat) (last : Bool) (token : Token) : Rooted r (behindBody parent last token d).1 := by
  unfold Draft.behindBody
  cases token <;> simp only [handled, retry] <;> grind

theorem inFrameset (token : Token) : Rooted r (inFrameset token d).1 := by
  unfold Draft.inFrameset
  cases token <;> simp only [handled] <;> grind

theorem afterFrameset (token : Token) : Rooted r (afterFrameset token d).1 := by
  unfold Draft.afterFrameset
  cases token <;> simp only [handled] <;> grind

theorem afterAfterFrameset (token : Token) : Rooted r (afterAfterFrameset token d).1 := by
  unfold Draft.afterAfterFrameset
  cases token <;> simp only [handled] <;> grind

/-! ### Other vocabularies -/

theorem byMode (token : Token) : Rooted r (byMode token d).1 := by
  unfold Draft.byMode
  cases d.mode
  case initial => exact hd.initial token
  case beforeHtml => exact hd.beforeHtml token
  case beforeHead => exact hd.beforeHead token
  case inHead => exact hd.inHead token
  case afterHead => exact hd.afterHead token
  case inBody => exact hd.inBody token
  case text => exact hd.inText token
  case inTable => exact hd.inTable token
  case inCaption => exact hd.inCaption token
  case inColumnGroup => exact hd.inColumnGroup token
  case inTableBody => exact hd.inTableBody token
  case inRow => exact hd.inRow token
  case inCell => exact hd.inCell token
  case inSelect => exact hd.inSelect token
  case inSelectInTable => exact hd.inSelectInTable token
  case inTemplate => exact hd.inTemplate token
  case afterBody => exact hd.behindBody _ _ token
  case inFrameset => exact hd.inFrameset token
  case afterFrameset => exact hd.afterFrameset token
  case afterAfterBody => exact hd.behindBody _ _ token
  case afterAfterFrameset => exact hd.afterAfterFrameset token
  case ignoreRest => exact hd

theorem endForeign (token : Token) (name : Text) : Rooted r (endForeign token name d).1 := by
  have hgo (s : List Nat) (hs : s.Sublist d.stack) : Rooted r (endForeign.go token name d s).1 := by
    induction s with
    | nil => exact hd
    | cons i s ih =>
      have hs : s.Sublist d.stack := (List.sublist_cons_self i s).trans hs
      unfold endForeign.go
      split
      · exact hd.byMode token
      · split
        · exact hd.close hs
        · exact ih hs
  unfold Draft.endForeign
  split
  · exact hd.pop
  · exact hgo d.stack (.refl _)

theorem inForeign (token : Token) : Rooted r (inForeign token d).1 := by
  unfold Draft.inForeign
  cases token <;> simp only [handled, retry]
  case endTag name => exact hd.endForeign _ name
  all_goals grind

theorem step (token : Token) :
    Rooted r (if isForeign token d then Draft.inForeign token d else Draft.byMode token d).1 :=
  fst_ite (hd.inForeign token) (hd.byMode token)

/-- Handling a token keeps the root. -/
theorem handle (fuel : Nat) (token : Token) : Rooted r (handle fuel token d) :=
  handle_keeps (fun token _ hd => hd.step token) fuel token hd

end Rooted

/-! ### The opening of the root -/

/-- Nothing has been opened yet. -/
structure Unopened (d : Draft) : Prop where
  forest : Forest d.entries
  stack : d.stack = []
  head : d.head = none
  mode : d.mode = .initial ∨ d.mode = .beforeHtml

namespace Unopened

variable (hd : Unopened d)

include hd

theorem label?_top : d.label? d.top = none := by
  have hdocument : (d.entry 0).content = .document := hd.forest.document
  simp [top, hd.stack, label?, hdocument]

theorem place_eq : d.place = (0, none) := by
  have hname : d.topName = [] := by simp [topName, name, hd.label?_top]
  have hpart : tableParts.contains [] = false := by decide
  rw [place, hname, hpart, Bool.and_false, if_neg Bool.false_ne_true, top, hd.stack]
  rfl

theorem create {c : Content} (hc : c ≠ .text []) : Unopened (d.create c).1 where
  forest := hd.forest.create hc
  stack := hd.stack
  head := hd.head
  mode := hd.mode

/-- What is added goes below the document. -/
theorem insert {i : Nat} (hi : Loose i d) : Unopened (d.insert 0 none i) where
  forest := hd.forest.insert hi 0 none
  stack := hd.stack
  head := hd.head
  mode := hd.mode

/-- The element around everything becomes the root. -/
theorem rooted_openNode {i : Nat} {l : Label} (hi : Loose i d) (hl : (d.entry i).content = .element l)
    (hname : l.name = "html") : Rooted i (d.openNode i) := by
  have hnode : d.addNode i = d.insert 0 none i := by rw [addNode, hd.place_eq]
  have hstack : (d.insert 0 none i).stack = [] := hd.stack
  have hhead : (d.insert 0 none i).head = none := hd.head
  have hroot : Root i (d.insert 0 none i).entries [i] (d.insert 0 none i).head :=
    { hd.forest.insert hi 0 none with
      label := ⟨l, (content_insert d 0 none i i).trans hl, hname⟩
      parent := (parent_insert d 0 none i i).trans (if_pos ⟨rfl, hi.lt⟩)
      child := mem_children_insert.mpr (.inr ⟨⟨rfl, hd.forest.pos⟩, rfl⟩)
      outermost := List.not_mem_nil
      head_ne := by simp [hhead] }
  rw [openNode, hnode, hstack]
  exact hroot

theorem rooted_addElement (attributes : List Attribute) : Rooted d.entries.size (d.addElement "html" attributes) :=
  (hd.create (by simp)).rooted_openNode (loose_create d _)
    (congrArg Entry.content ((entry_create d _ _).trans (if_pos rfl))) rfl

theorem initial (token : Token) : Unopened (initial token d).1 := by
  have hnext : Unopened { d with quirks := true, mode := .beforeHtml } := { hd with mode := .inr rfl }
  unfold Draft.initial
  cases token with
  | text t =>
    dsimp only
    split
    · exact hd
    · exact hnext
  | comment t => exact (hd.create (by simp)).insert (loose_create d _)
  | doctype t => exact { (hd.create (by simp)).insert (loose_create d _) with mode := .inr rfl }
  | _ => exact hnext

theorem beforeHtml (token : Token) : Unopened (beforeHtml token d).1 ∨ ∃ r, Rooted r (beforeHtml token d).1 := by
  have hnext : ∃ r, Rooted r { d.addElement "html" [] with mode := .beforeHead } := ⟨_, hd.rooted_addElement []⟩
  unfold Draft.beforeHtml
  cases token with
  | text t =>
    dsimp only
    split
    · exact .inl hd
    · exact .inr hnext
  | comment t => exact .inl ((hd.create (by simp)).insert (loose_create d _))
  | doctype t => exact .inl hd
  | startTag name attributes closesItself =>
    dsimp only
    split
    · rename_i hname
      obtain rfl := beq_iff_eq.mp hname
      exact .inr ⟨_, hd.rooted_addElement attributes⟩
    · exact .inr hnext
  | endTag name =>
    dsimp only
    split
    · exact .inr hnext
    · exact .inl hd
  | stop => exact .inr hnext

theorem isForeign_eq (token : Token) : isForeign token d = false := by
  have hspace : d.space d.top = .html := by simp [space, hd.label?_top]
  unfold isForeign
  simp only [hspace, beq_self_eq_true, Bool.true_or, if_true]

theorem byMode (token : Token) : Unopened (byMode token d).1 ∨ ∃ r, Rooted r (byMode token d).1 := by
  rcases hd.mode with hmode | hmode
  · rw [Draft.byMode, hmode]
    exact .inl (hd.initial token)
  · rw [Draft.byMode, hmode]
    exact hd.beforeHtml token

theorem handle_eq {token again : Token} (h : Draft.byMode token d = (d', some again)) (fuel : Nat) :
    handle (fuel + 1) token d = handle fuel again d' := by
  rw [handle, hd.isForeign_eq, if_neg Bool.false_ne_true, h]

/-- The end of the input opens what has not been opened. -/
theorem handle_stop (fuel : Nat) : ∃ r, Rooted r (handle (fuel + 2) .stop d) := by
  have hopens {d : Draft} (hd : Unopened d) (hmode : d.mode = .beforeHtml) (fuel : Nat) :
      ∃ r, Rooted r (handle (fuel + 1) .stop d) := by
    have hstep : Draft.byMode .stop d = ({ d.addElement "html" [] with mode := .beforeHead }, some .stop) := by
      rw [Draft.byMode, hmode]
      rfl
    have hroot : Rooted d.entries.size { d.addElement "html" [] with mode := .beforeHead } := hd.rooted_addElement []
    exact ⟨_, hd.handle_eq hstep fuel ▸ hroot.handle fuel .stop⟩
  rcases hd.mode with hmode | hmode
  · have hstep : Draft.byMode .stop d = ({ d with quirks := true, mode := .beforeHtml }, some .stop) := by
      rw [Draft.byMode, hmode]
      rfl
    have hnext : Unopened { d with quirks := true, mode := .beforeHtml } := { hd with mode := .inr rfl }
    exact hd.handle_eq hstep (fuel + 1) ▸ hopens hnext rfl fuel
  · exact hopens hd hmode (fuel + 1)

end Unopened

/-- The root is there, or nothing has been opened yet. -/
def Begun (d : Draft) : Prop := Unopened d ∨ ∃ r, Rooted r d

theorem Begun.step (hd : Begun d) (token : Token) :
    Begun (if isForeign token d then inForeign token d else byMode token d).1 := by
  rcases hd with hd | ⟨r, hd⟩
  · rw [hd.isForeign_eq, if_neg Bool.false_ne_true]
    exact hd.byMode token
  · exact .inr ⟨r, hd.step token⟩

theorem Begun.handle (hd : Begun d) (fuel : Nat) (token : Token) : Begun (handle fuel token d) :=
  handle_keeps (fun token _ hd => hd.step token) fuel token hd

end Draft

/-! ### Documents -/

variable {d : Draft}

theorem readTokens_rooted {fuel : Nat} {t : Text} (hd : Draft.Begun d) (raw : Option Text) (hfuel : t.length < fuel) :
    ∃ r, Draft.Rooted r (readTokens fuel raw t d) := by
  induction fuel generalizing raw t d with
  | zero => cases hfuel
  | succ fuel ih =>
    have hreset : Draft.Begun { d with plainNext := false } := hd.imp (fun h => { h with }) id
    unfold readTokens
    dsimp only
    by_cases hstop : (Token.next raw (d.space d.top != .html) t).1 = .stop
    · rw [hstop, beq_self_eq_true, if_pos rfl]
      rcases hreset with hreset | ⟨r, hreset⟩
      · exact hreset.handle_stop _
      · exact ⟨r, hreset.handle _ _⟩
    · have hlt := (length_next raw (d.space d.top != .html) t).resolve_left hstop
      rw [beq_eq_false_iff_ne.mpr hstop, if_neg Bool.false_ne_true]
      exact ih (hreset.handle _ _) _ (by omega)

theorem unopened_start : Draft.Unopened {} where
  forest :=
    { pos := Nat.zero_lt_one
      document := rfl
      text := fun i hi => by
        cases i with
        | zero => cases hi
        | succ i => cases hi
      consistent := fun p i hi => by
        cases p with
        | zero => cases hi
        | succ p => cases hi }
  stack := rfl
  head := rfl
  mode := .inl rfl

/-- Every document has a root. -/
theorem exists_root (t : Text) : ∃ (l : Label) (cs : List Node), .element l cs ∈ parse t ∧ l.name = "html" := by
  obtain ⟨r, hroot⟩ := readTokens_rooted (.inl unopened_start) none (Nat.lt_succ_self t.length)
  obtain ⟨l, hl, hname⟩ := hroot.label
  generalize hd : readTokens (t.length + 1) none t {} = d at hroot hl
  obtain ⟨depth, hdepth⟩ := Nat.exists_eq_succ_of_ne_zero hroot.pos.ne'
  have hl : (d.entry r).content = .element l := hl
  refine ⟨l, d.nodes depth (d.entry r).children, ?_, hname⟩
  rw [parse, hd, hdepth, Draft.nodes]
  refine List.mem_filterMap.mpr ⟨r, hroot.child, ?_⟩
  simp only [hl]

end Html
end Marginalia
