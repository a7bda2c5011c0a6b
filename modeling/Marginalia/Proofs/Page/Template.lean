import Mathlib
import Marginalia.Page.Data

/-!
What a page depends on. A template uses some names of its data, and pages that are written for data with the same values
under these names are the same. Comments that are absent are shown as no comments.
-/

namespace Marginalia

/-- The post as its page shows it: without comments it is shown as one with none. -/
def Post.shown (p : Post) : Post := { p with comments := some (p.comments.getD []) }

theorem Post.slug_eq_of_shown {p q : Post} (h : q.shown = p.shown) : q.slug = p.slug := by
  show q.shown.slug = p.shown.slug
  rw [h]

namespace Template

/-! ### Names that are used -/

def Expr.names : Expr → List Text
  | field name more => name :: more
  | apply _ e => e.names

def Body.names : Body → List Text
  | stop => []
  | literal _ next => next.names
  | print _ e next => e.names ++ next.names
  | branch condition yes no next => condition.names ++ (yes.names ++ (no.names ++ next.names))
  | each e body next => e.names ++ (body.names ++ next.names)
  | call _ next => next.names

/-- The names that the bodies of a template use, whatever value they use them of. -/
def names (t : Template) : List Text := t.defined.flatMap fun d => d.2.names

/-! ### Bodies that are called -/

def Body.calls : Body → List Text
  | stop => []
  | literal _ next => next.calls
  | print _ _ next => next.calls
  | branch _ yes no next => yes.calls ++ (no.calls ++ next.calls)
  | each _ body next => body.calls ++ next.calls
  | call name next => name :: next.calls

/-- The page itself and all bodies that are called are defined. -/
def Closed (t : Template) : Prop := ∀ n ∈ t.name :: t.defined.flatMap fun d => d.2.calls, (t.defined.lookup n).isSome = true

instance (t : Template) : Decidable t.Closed := inferInstanceAs (Decidable (∀ n ∈ _, _))

/-! ### Values that show the same -/

variable {names : List Text} {name : Text} {v v' : Value} {d d' : Data} {t : Template}

namespace Value

/-- The values show the same under some names: posts may differ in that the comments of one are absent and the other has
none, and records in what stands under other names. -/
inductive Alike (names : List Text) : Value → Value → Prop where
  | refl (v : Value) : Alike names v v
  | post {p q : Post} : q.shown = p.shown → Alike names (.post p) (.post q)
  | posts {ps qs : List Post} : qs.map Post.shown = ps.map Post.shown → Alike names (.posts ps) (.posts qs)
  | record {d d' : Data} : (∀ n ∈ names, Alike names ((d n).getD .absent) ((d' n).getD .absent)) →
      Alike names (.record d) (.record d')

namespace Alike

theorem field (h : Alike names v v') (hname : name ∈ names) : Alike names (v.field name) (v'.field name) := by
  cases h with
  | refl => exact .refl _
  | @post p q hshown =>
    have hfield : ∀ p : Post, (Value.post p).field name = (Value.post p.shown).field name := fun _ => rfl
    rw [hfield p, hfield q, hshown]
    exact .refl _
  | posts => exact .refl _
  | record hfields => exact hfields name hname

theorem fields (h : Alike names v v') {more : List Text} (hmore : more ⊆ names) :
    Alike names (more.foldl Value.field v) (more.foldl Value.field v') := by
  induction more generalizing v v' with
  | nil => exact h
  | cons name more ih =>
    obtain ⟨hname, hmore⟩ := List.cons_subset.mp hmore
    exact ih (h.field hname) hmore

theorem holds (h : Alike names v v') : v'.holds = v.holds := by
  cases h with
  | refl => rfl
  | post => rfl
  | posts hshown =>
    have hempty := congrArg List.isEmpty hshown
    rw [List.isEmpty_map, List.isEmpty_map] at hempty
    rw [Value.holds, Value.holds, hempty]
  | record => rfl

theorem members (h : Alike names v v') : List.Forall₂ (Alike names) v.members v'.members := by
  cases h with
  | refl => exact List.forall₂_same.mpr fun _ _ => .refl _
  | post => exact .nil
  | posts hshown =>
    rw [← List.forall₂_eq_eq_eq, List.forall₂_map_left_iff, List.forall₂_map_right_iff] at hshown
    rw [Value.members, Value.members, List.forall₂_map_left_iff, List.forall₂_map_right_iff]
    exact hshown.flip.imp fun _ _ => .post
  | record => exact .nil

theorem apply (h : Alike names v v') (f : Function) : Alike names (f.apply v) (f.apply v') := by
  cases f with
  | not =>
    rw [Function.apply, Function.apply, h.holds]
    exact .refl _
  | len =>
    cases h with
    | posts hshown =>
      have hlength := congrArg List.length hshown
      rw [List.length_map, List.length_map] at hlength
      rw [Function.apply, Function.apply, hlength]
      exact .refl _
    | _ => exact .refl _
  | _ => cases h <;> exact .refl _

theorem eval (h : Alike names v v') {e : Expr} (he : e.names ⊆ names) : Alike names (e.eval v) (e.eval v') := by
  induction e with
  | field name more =>
    obtain ⟨hname, hmore⟩ := List.cons_subset.mp he
    exact (h.field hname).fields hmore
  | apply f e ih => exact (ih he).apply f

theorem written (h : Alike names v v') (context : Context) : v'.written context = v.written context := by
  cases h with
  | refl => rfl
  | _ => cases context <;> rfl

end Alike

end Value

/-! ### Pages that are the same -/

open Value (Alike)

theorem Body.write_congr {called called' : Text → Value → Text}
    (hcalled : ∀ name v v', Alike names v v' → called' name v' = called name v) {body : Body} (hnames : body.names ⊆ names)
    (h : Alike names v v') : body.write called' v' = body.write called v := by
  induction body generalizing v v' with
  | stop => rfl
  | literal t next ih => rw [write, write, ih hnames h]
  | print context e next ih =>
    obtain ⟨he, hnext⟩ := List.append_subset.mp hnames
    rw [write, write, (h.eval he).written, ih hnext h]
  | branch condition yes no next ihyes ihno ih =>
    obtain ⟨hcondition, hrest⟩ := List.append_subset.mp hnames
    obtain ⟨hyes, hrest⟩ := List.append_subset.mp hrest
    obtain ⟨hno, hnext⟩ := List.append_subset.mp hrest
    rw [write, write, (h.eval hcondition).holds, ihyes hyes h, ihno hno h, ih hnext h]
  | each e body next ihbody ih =>
    obtain ⟨he, hrest⟩ := List.append_subset.mp hnames
    obtain ⟨hbody, hnext⟩ := List.append_subset.mp hrest
    have hmembers : ∀ {vs vs' : List Value}, List.Forall₂ (Alike names) vs vs' →
        vs'.flatMap (body.write called') = vs.flatMap (body.write called) := by
      intro vs vs' hall
      induction hall with
      | nil => rfl
      | cons hfirst _ ih => rw [List.flatMap_cons, List.flatMap_cons, ihbody hbody hfirst, ih]
    rw [write, write, hmembers (h.eval he).members, ih hnext h]
  | call name next ih => rw [write, write, hcalled name v v' h, ih hnames h]

theorem call_congr (hnames : t.names ⊆ names) (depth : Nat) (name : Text) (h : Alike names v v') :
    t.call depth name v' = t.call depth name v := by
  induction depth generalizing name v v' with
  | zero => rfl
  | succ depth ih =>
    rw [call, call]
    cases hbody : t.defined.lookup name with
    | none => rfl
    | some body =>
      obtain ⟨before, behind, hdefined, -⟩ := List.lookup_eq_some_iff.mp hbody
      have hin : (name, body) ∈ t.defined := by simp [hdefined]
      exact Body.write_congr (fun name v v' h => ih name h)
        (List.Subset.trans (fun n hn => List.mem_flatMap.mpr ⟨_, hin, hn⟩) hnames) h

/-- A page tells nothing of what its template does not name. -/
theorem execute_congr (h : ∀ n ∈ t.names, Alike t.names ((d n).getD .absent) ((d' n).getD .absent)) :
    t.execute d' = t.execute d :=
  call_congr (List.Subset.refl _) _ _ (.record h)

end Template

/-! ### The pages of a site -/

namespace Page

open Template (Data Value)

def postTemplate : Template := .assemble "post.html" [postSource, layoutSource, commentsSource]

def indexTemplate : Template := .assemble "index.html" [indexSource, layoutSource]

def errorTemplate : Template := .assemble "error.html" [errorSource, layoutSource]

/-- No page leaves out a body that it calls. -/
theorem closed_of_mem_pages : ∀ page ∈ pages, ∃ t, template? page.1 = some t ∧ t.Closed := by
  have hclosed : ∀ page ∈ pages, (template? page.1).any fun t => t.Closed := by decide
  intro page hpage
  obtain ⟨t, ht, hall⟩ := (Option.any_eq_true _ _).mp (hclosed page hpage)
  exact ⟨t, ht, of_decide_eq_true hall⟩

/-- The page of a post. -/
def post (c : Config) (p : Post) : Text := postTemplate.execute (postData c p)

/-- The page with the list of posts. -/
def index (c : Config) (posts : List Post) : Text := indexTemplate.execute (indexData c posts)

variable {c : Config} {p q : Post} {ps qs : List Post}

theorem post_eq_of_shown (c : Config) (h : q.shown = p.shown) : post c q = post c p := by
  have htitle : q.shown.title = p.shown.title := by rw [h]
  replace htitle : q.title = p.title := htitle
  refine Template.execute_congr fun n _ => ?_
  rw [postData, postData, htitle, Data.set, Data.set]
  split
  · exact .post h
  · exact .refl _

theorem index_eq_of_shown (c : Config) (h : qs.map Post.shown = ps.map Post.shown) : index c qs = index c ps := by
  refine Template.execute_congr fun n _ => ?_
  rw [indexData, indexData, Data.set, Data.set]
  split
  · exact .posts h
  · exact .refl _

end Page

end Marginalia
