import Mathlib
import Marginalia.Proofs.File.Places
import Marginalia.Proofs.Pool.Outcome
import Marginalia.Proofs.Site.Running

/-!
The course of a building. The posts are found, the handlers of the first signal run, the pages are written, and the
handlers of the second signal run. Each failure ends the course: what comes behind is not done, and nothing is written
before all handlers of the first signal have succeeded. The labels that handlers leave behind show who was called.
-/

namespace Marginalia

open File (Tree)

/-- What a handler leaves behind when it is called. -/
def Handler.labels : Handler → List Text
  | .labelled label _ => [label]
  | _ => []

namespace Build

variable {ε : Type}

/-! ### What handlers leave alone -/

theorem Keeps.deploy {P : Site → Prop} (htree : ∀ s tree, P s → P { s with tree })
    (hlog : ∀ s log, P s → P { s with log }) : Keeps P Build.deploy := by
  have hnote : ∀ e, Keeps P (Build.note e : Build HandlerError Unit) := fun e s hs => by
    rw [Site.run_note, Site.note_eq]
    exact hlog s _ hs
  exact .get_bind_keeps fun s => .bind (.save htree) fun _ => .bind (.save htree) fun _ => hnote _

end Build

namespace Site

variable {s s' t : Site} {h : Handler} {hs called : List Handler} {r : Except HandlerError Unit} {e : HandlerError}

theorem run_labelled (s : Site) (label : Text) (fails : Bool) :
    s.run (Build.handle (.labelled label fails)) =
      (if fails then .error (.labelled label) else .ok (), { s with trace := s.trace ++ [label] }) := by
  rw [Build.handle, run_change_bind]
  cases fails <;> rfl

theorem loadComments_frame (h : s.run Build.loadComments = (r, s')) :
    ∃ posts log, s' = { s with timeline := posts, log } := by
  rw [run_loadComments] at h
  obtain rfl := (Prod.mk.inj h).2
  exact ⟨_, _, rfl⟩

/-- A handler leaves its label and no other, and connects no handlers. -/
theorem handle_leaves (hrun : s.run (Build.handle h) = (r, s')) :
    s'.trace = s.trace ++ h.labels ∧ s'.handlers = s.handlers ∧ s'.config = s.config := by
  cases h with
  | loadComments =>
    obtain ⟨posts, log, rfl⟩ := loadComments_frame hrun
    exact ⟨(List.append_nil _).symm, rfl, rfl⟩
  | deploy =>
    have hkeeps := Build.Keeps.deploy (P := fun u => u.trace = s.trace ∧ u.handlers = s.handlers ∧ u.config = s.config)
      (fun _ _ hu => hu) (fun _ _ hu => hu) s ⟨rfl, rfl, rfl⟩
    rw [← Build.handle, hrun] at hkeeps
    exact ⟨hkeeps.1.trans (List.append_nil _).symm, hkeeps.2⟩
  | labelled label fails =>
    rw [run_labelled] at hrun
    obtain rfl := (Prod.mk.inj hrun).2
    exact ⟨rfl, rfl, rfl⟩

theorem handle_tree (hrun : s.run (Build.handle h) = (r, s')) (hh : h ≠ .deploy) : s'.tree = s.tree := by
  cases h with
  | loadComments =>
    obtain ⟨posts, log, rfl⟩ := loadComments_frame hrun
    rfl
  | deploy => exact absurd rfl hh
  | labelled label fails =>
    rw [run_labelled] at hrun
    obtain rfl := (Prod.mk.inj hrun).2
    rfl

theorem loadComments_fails (hrun : s.run Build.loadComments = (r, s')) (hfail : s.config.failOnCommentError = true)
    (hbroken : ∃ p ∈ s.timeline, ∃ err, p.loadComments s.tree = .error err) :
    ∃ p ∈ s.timeline, ∃ err, p.loadComments s.tree = .error err ∧ r = .error (.comments p.sourcePath err) := by
  obtain ⟨turns, pool, hturns, hover, hwork⟩ := s.exists_takeTurns
  have htrack : Pool.Tracks (processPost s.config s.tree) s.timeline pool := Pool.Tracks.follow hturns
  obtain ⟨e, herror⟩ := Option.isSome_iff_exists.mp ((error_isSome_iff_load htrack hover hfail).mpr hbroken)
  obtain ⟨p, hp, hperror⟩ := htrack.reported e herror
  obtain ⟨err, hload, rfl⟩ := processPost_error_eq_some hperror
  refine ⟨p, hp, err, hload, ?_⟩
  rw [hwork, afterWork, herror] at hrun
  exact (Prod.mk.inj hrun).1.symm

/-! ### Calls -/

/-- Handlers are called one after another from a site, up to and including the first that fails: which of them were
called, what came of it, and the site in the end. -/
inductive Calls : Site → List Handler → (called : List Handler) → Except HandlerError Unit → Site → Prop where
  | done (s : Site) : Calls s [] [] (.ok ()) s
  | failed {s s' : Site} {h : Handler} {e : HandlerError} (behind : List Handler) :
      s.run (Build.handle h) = (.error e, s') → Calls s (h :: behind) [h] (.error e) s'
  | passed {s t s' : Site} {h : Handler} {hs called : List Handler} {r : Except HandlerError Unit} :
      s.run (Build.handle h) = (.ok (), t) → Calls t hs called r s' → Calls s (h :: hs) (h :: called) r s'

theorem calls_of_forM (hrun : s.run (hs.forM Build.handle) = (r, s')) : ∃ called, Calls s hs called r s' := by
  induction hs generalizing s with
  | nil =>
    obtain ⟨rfl, rfl⟩ := Prod.mk.inj hrun
    exact ⟨[], .done s⟩
  | cons h hs ih =>
    rw [run_forM_cons, run_bind] at hrun
    split at hrun
    · rename_i t hfirst
      obtain ⟨called, hcalled⟩ := ih hrun
      exact ⟨h :: called, .passed hfirst hcalled⟩
    · rename_i e t hfirst
      obtain ⟨rfl, rfl⟩ := Prod.mk.inj hrun
      exact ⟨[h], .failed hs hfirst⟩

namespace Calls

theorem isPrefix (hcalls : Calls s hs called r s') : called <+: hs := by
  induction hcalls with
  | done s => exact List.nil_prefix
  | failed behind _ => exact ⟨behind, rfl⟩
  | passed _ _ ih => exact (List.prefix_cons_inj _).mpr ih

theorem all_called (hcalls : Calls s hs called (.ok ()) s') : called = hs := by
  generalize hr : (.ok () : Except HandlerError Unit) = r at hcalls
  induction hcalls with
  | done s => rfl
  | failed behind _ => cases hr
  | passed _ _ ih => rw [ih hr]

theorem leaves (hcalls : Calls s hs called r s') :
    s'.trace = s.trace ++ called.flatMap Handler.labels ∧ s'.handlers = s.handlers ∧ s'.config = s.config := by
  induction hcalls with
  | done s => exact ⟨by simp, rfl, rfl⟩
  | failed behind hrun => simpa using handle_leaves hrun
  | passed hrun _ ih =>
    obtain ⟨htrace, hhandlers, hconfig⟩ := handle_leaves hrun
    obtain ⟨htrace', hhandlers', hconfig'⟩ := ih
    refine ⟨?_, hhandlers'.trans hhandlers, hconfig'.trans hconfig⟩
    rw [htrace', htrace, List.flatMap_cons, List.append_assoc]

theorem tree (hcalls : Calls s hs called r s') (hcalled : .deploy ∉ called) : s'.tree = s.tree := by
  induction hcalls with
  | done s => rfl
  | failed behind hrun => exact handle_tree hrun fun heq => hcalled (heq ▸ List.mem_singleton_self _)
  | passed hrun _ ih =>
    obtain ⟨hh, hrest⟩ := not_or.mp (List.mem_cons.not.mp hcalled)
    exact (ih hrest).trans (handle_tree hrun (Ne.symm hh))

/-- Broken comments that stop the building make some handler fail: the one that loads comments, or one before it. -/
theorem broken (hcalls : Calls s hs called r s') (hmem : .loadComments ∈ hs) (hdeploy : .deploy ∉ hs)
    (hfail : s.config.failOnCommentError = true)
    (hbroken : ∃ p ∈ s.timeline, ∃ err, p.loadComments s.tree = .error err) :
    (∃ label, .labelled label true ∈ hs ∧ r = .error (.labelled label)) ∨
    ∃ p ∈ s.timeline, ∃ err, p.loadComments s.tree = .error err ∧ r = .error (.comments p.sourcePath err) := by
  induction hcalls with
  | done s => cases hmem
  | @failed s s' h e behind hrun =>
    cases h with
    | loadComments => exact Or.inr (loadComments_fails hrun hfail hbroken)
    | deploy => exact absurd List.mem_cons_self hdeploy
    | labelled label fails =>
      rw [run_labelled] at hrun
      cases fails with
      | false => cases hrun
      | true => exact Or.inl ⟨label, List.mem_cons_self, (Prod.mk.inj hrun).1.symm⟩
  | @passed s t s' h hs called r hrun _ ih =>
    have hdeploy' : .deploy ∉ hs := fun hin => hdeploy (List.mem_cons_of_mem h hin)
    cases h with
    | loadComments =>
      obtain ⟨_, -, _, -, herror⟩ := loadComments_fails hrun hfail hbroken
      cases herror
    | deploy => exact absurd List.mem_cons_self hdeploy
    | labelled label fails =>
      -- Such a handler leaves posts, files and configuration as they were.
      have hmem' : .loadComments ∈ hs := (List.mem_cons.mp hmem).resolve_left nofun
      rw [run_labelled] at hrun
      obtain rfl := (Prod.mk.inj hrun).2
      refine (ih hmem' hdeploy' hfail hbroken).imp_left ?_
      rintro ⟨other, hother, hr⟩
      exact ⟨other, List.mem_cons_of_mem _ hother, hr⟩

end Calls

/-- A signal is given to a site: some of its handlers are called in their order, all of them if none fails, and no
others. They leave their labels, and the one that writes files is alone in changing the tree. -/
def Signalled (s : Site) (signal : Text) (x : Except SiteError Unit) (s' : Site) : Prop :=
  ∃ log called r, Calls { s with log } (s.handlersOf signal) called r s' ∧ x = r.mapError (.handler signal) ∧
    called <+: s.handlersOf signal ∧ (x = .ok () → called = s.handlersOf signal) ∧
    s'.trace = s.trace ++ called.flatMap Handler.labels ∧ (.deploy ∉ called → s'.tree = s.tree)

theorem signalled_of_calls {signal : Text} {log : List Log.Entry}
    (hcalls : Calls { s with log } (s.handlersOf signal) called r s') :
    s.Signalled signal (r.mapError (.handler signal)) s' := by
  refine ⟨log, called, r, hcalls, rfl, hcalls.isPrefix, fun hok => ?_, hcalls.leaves.1, hcalls.tree⟩
  cases r with
  | ok _ => exact hcalls.all_called
  | error e => cases hok

theorem signalled_of_emit {signal : Text} {x : Except SiteError Unit} {log : List Log.Entry}
    (hrun : run { s with log } (Build.emit signal) = (x, s')) : s.Signalled signal x s' := by
  rw [Build.emit, run_get_bind, run_note_bind, run_adapt, note_eq] at hrun
  generalize hforM : run _ (List.forM _ _) = y at hrun
  obtain ⟨r, t⟩ := y
  obtain ⟨rfl, rfl⟩ := Prod.mk.inj hrun
  obtain ⟨called, hcalled⟩ := calls_of_forM hforM
  exact signalled_of_calls hcalled

/-! ### Pages -/

/-- The page of a post and its path. -/
def pageOf (c : Config) (p : Post) : Text × Text := (postPath c p, Page.post c p)

/-- The pages of posts, each with its path. -/
def pagesOf (c : Config) (posts : List Post) : List (Text × Text) := posts.map (pageOf c)

/-- The pages of a site in the order in which they are written, each with its path. -/
def pages (s : Site) : List (Text × Text) :=
  s.timeline.map (pageOf s.config) ++ [(indexPath s.config, Page.index s.config s.timeline)]

/-- The tree with files saved to it one after another, if each of them can be. -/
def saveAll (t : Tree) (files : List (Text × Text)) : Except File.Error Tree :=
  files.foldlM (fun t f => t.save f.1 f.2) t

theorem saveAll_cons (t : Tree) (f : Text × Text) (files : List (Text × Text)) :
    saveAll t (f :: files) = (t.save f.1 f.2).bind (saveAll · files) := List.foldlM_cons

theorem saveAll_append (t : Tree) (files files' : List (Text × Text)) :
    saveAll t (files ++ files') = (saveAll t files).bind (saveAll · files') := List.foldlM_append

/-- Files that are saved one after another are all there if no two have the same place; and what each saving keeps is kept. -/
theorem saveAll_wrote_keeping {P : Tree → Prop} {tree tree' : Tree} {files : List (Text × Text)}
    (hsave : ∀ f ∈ files, ∀ u u' : Tree, P u → u.save f.1 f.2 = .ok u' → u.Wrote [f] u' ∧ P u')
    (hplaces : (tree.places files).Nodup) (hkept : P tree) (h : saveAll tree files = .ok tree') :
    tree.Wrote files tree' ∧ P tree' := by
  induction files generalizing tree with
  | nil =>
    obtain rfl := Except.ok.inj h
    exact ⟨.refl tree, hkept⟩
  | cons f files ih =>
    obtain ⟨hf, hfiles⟩ := List.forall_mem_cons.mp hsave
    rw [Tree.places, List.map_cons, List.nodup_cons] at hplaces
    rw [saveAll_cons] at h
    cases hfirst : tree.save f.1 f.2 with
    | error e =>
      rw [hfirst] at h
      cases h
    | ok u =>
      rw [hfirst] at h
      obtain ⟨hwrote, hkept⟩ := hf tree u hkept hfirst
      obtain ⟨hrest, hkept⟩ := ih hfiles (hwrote.places_eq files ▸ hplaces.2) hkept h
      exact ⟨hwrote.trans hrest (List.singleton_disjoint.mpr hplaces.1), hkept⟩

/-- What is noted for a page that has been written. -/
def NotesPage (entry : Log.Entry) : Prop := entry.message = "wrote post"

theorem run_writePost (s : Site) (p : Post) : ∃ entries, (∀ entry ∈ entries, NotesPage entry) ∧
    s.run (Build.writePost Page.postTemplate false p) = match s.tree.save (postPath s.config p) (Page.post s.config p) with
      | .ok tree => (.ok (), { s with tree, log := s.log ++ entries })
      | .error e => (.error (.write e), { s with tree := s.tree.leftBySave (postPath s.config p) }) := by
  rw [writePost_eq, if_neg Bool.false_ne_true, run_get_bind, run_bind, run_save]
  cases s.tree.save (postPath s.config p) (Page.post s.config p) with
  | error e => exact ⟨[], nofun, rfl⟩
  | ok tree =>
    simp only [run_note, note_eq]
    cases s.logged with
    | true => exact ⟨[_], List.forall_mem_singleton.mpr (by rfl), rfl⟩
    | false => exact ⟨[], nofun, by simp⟩

/-- How saving files in order ends at a place, where those before it make this tree: the building is called off there, or
the file cannot be saved, and directories may have been made for it. -/
inductive Halts (files : List (Text × Text)) (k : Nat) (tree : Tree) : Option Nat → Except SiteError Unit → Tree → Prop
  | cancelled : Halts files k tree (some k) (.error .cancelled) tree
  | failed {off : Option Nat} {f : Text × Text} {err : File.Error} (hf : files[k]? = some f)
      (hsave : tree.save f.1 f.2 = .error err) : Halts files k tree off (.error (.write err)) (tree.leftBySave f.1)

theorem Halts.append {files : List (Text × Text)} {k : Nat} {tree left : Tree} {off : Option Nat} {x : Except SiteError Unit}
    (h : Halts files k tree off x left) (more : List (Text × Text)) : Halts (files ++ more) k tree off x left := by
  cases h with
  | cancelled => exact .cancelled
  | failed hf hsave =>
    exact .failed (List.getElem?_append_left (List.getElem?_eq_some_iff.mp hf).1 ▸ hf) hsave

/-- Behind a file that was saved, places are counted from the next. -/
theorem Halts.behind {files : List (Text × Text)} {k : Nat} {tree left : Tree} {off : Option Nat} {x : Except SiteError Unit}
    (h : Halts files k tree (off.map (· - 1)) x left) (hoff : off ≠ some 0) (f : Text × Text) :
    Halts (f :: files) (k + 1) tree off x left := by
  generalize hless : off.map (· - 1) = less at h
  cases h with
  | failed hf hsave => exact .failed hf hsave
  | cancelled =>
    obtain ⟨j, rfl, hj⟩ := Option.map_eq_some_iff.mp hless
    have hpos : j ≠ 0 := fun hzero => hoff (congrArg some hzero)
    obtain rfl : j = k + 1 := by omega
    exact .cancelled

/-- What ends it is that it is called off, or that files cannot all be saved. -/
theorem Halts.cause {files : List (Text × Text)} {k : Nat} {tree left t : Tree} {off : Option Nat} {x : Except SiteError Unit}
    (h : Halts files k tree off x left) (hsaved : saveAll t (files.take k) = .ok tree) :
    off = some k ∧ x = .error .cancelled ∨ (∃ err, x = .error (.write err)) ∧ ∀ all, saveAll t files ≠ .ok all := by
  cases h with
  | cancelled => exact Or.inl ⟨rfl, rfl⟩
  | failed hf hsave =>
    refine Or.inr ⟨⟨_, rfl⟩, fun all hall => ?_⟩
    obtain ⟨hk, hf⟩ := List.getElem?_eq_some_iff.mp hf
    rw [← List.take_append_drop k files, saveAll_append, hsaved, List.drop_eq_getElem_cons hk, hf] at hall
    simp only [Except.bind, saveAll_cons, hsave] at hall
    cases hall

/-- Writing pages of posts saves one after another, and ends where it is called off or one cannot be saved. Only pages are
noted. -/
theorem writePosts_cases {posts : List Post} {off : Option Nat} {x : Except SiteError Unit}
    (hrun : s.run (Build.writePosts Page.postTemplate off posts) = (x, s')) :
    ∃ entries, (∀ entry ∈ entries, NotesPage entry) ∧
      ((∀ k, off = some k → posts.length ≤ k) ∧ x = .ok () ∧
          (∃ tree, saveAll s.tree (pagesOf s.config posts) = .ok tree ∧ s' = { s with tree, log := s.log ++ entries }) ∨
        ∃ k tree left, k < posts.length ∧ saveAll s.tree ((pagesOf s.config posts).take k) = .ok tree ∧
          Halts (pagesOf s.config posts) k tree off x left ∧ s' = { s with tree := left, log := s.log ++ entries }) := by
  induction posts generalizing s off with
  | nil =>
    rw [Build.writePosts, run_pure] at hrun
    obtain ⟨rfl, rfl⟩ := Prod.mk.inj hrun
    exact ⟨[], List.forall_mem_nil _, Or.inl ⟨fun k _ => Nat.zero_le k, rfl, s.tree, rfl, by simp⟩⟩
  | cons p posts ih =>
    rw [Build.writePosts, run_bind] at hrun
    by_cases hoff : off = some 0
    · subst hoff
      obtain ⟨rfl, rfl⟩ := Prod.mk.inj hrun
      exact ⟨[], List.forall_mem_nil _, Or.inr ⟨0, s.tree, s.tree, Nat.succ_pos _, rfl, .cancelled, by simp⟩⟩
    obtain ⟨noted, hnoted, hfirst⟩ := run_writePost s p
    rw [beq_eq_false_iff_ne.mpr hoff, hfirst] at hrun
    cases hsave : s.tree.save (postPath s.config p) (Page.post s.config p) with
    | error err =>
      rw [hsave] at hrun
      obtain ⟨rfl, rfl⟩ := Prod.mk.inj hrun
      have hhalts : Halts (pagesOf s.config (p :: posts)) 0 s.tree off (.error (.write err)) _ := .failed rfl hsave
      exact ⟨[], List.forall_mem_nil _, Or.inr ⟨0, s.tree, _, Nat.succ_pos _, rfl, hhalts, by simp [pageOf]⟩⟩
    | ok tree =>
      rw [hsave] at hrun
      obtain ⟨entries, hentries, hrest⟩ := ih hrun
      have hsaved : ∀ more, saveAll s.tree (pageOf s.config p :: more) = saveAll tree more := by
        intro more
        rw [saveAll_cons, pageOf, hsave]
        rfl
      refine ⟨noted ++ entries, List.forall_mem_append.mpr ⟨hnoted, hentries⟩, ?_⟩
      rw [pagesOf, List.map_cons, hsaved, ← List.append_assoc]
      rcases hrest with ⟨hgoes, rfl, hall⟩ | ⟨k, tree', left, hk, hbefore, hhalts, hs'⟩
      · refine Or.inl ⟨fun k hk => ?_, rfl, hall⟩
        have hpos : k ≠ 0 := fun hzero => hoff (hzero ▸ hk)
        have hrest := hgoes (k - 1) (by rw [hk, Option.map_some])
        rw [List.length_cons]
        omega
      · exact Or.inr ⟨k + 1, tree', left, Nat.succ_lt_succ hk, (hsaved _).trans hbefore, hhalts.behind hoff _, hs'⟩

/-- The site with the bodies of its posts rendered. -/
def bodied (s : Site) : Site := { s with timeline := s.timeline.map renderBody }

/-- Writing the pages of a site ended at one of them, which is that of a post or the list of posts. Those before it were
saved and noted, and nothing else was done: no handler was called. -/
def CutShort (s : Site) (off : Option Nat) (x : Except SiteError Unit) (s' : Site) : Prop :=
  ∃ entries k tree left, (∀ entry ∈ entries, NotesPage entry) ∧ saveAll s.tree (s.pages.take k) = .ok tree ∧
    (k < s.timeline.length ∧ Halts s.pages k tree off x left ∨ k = s.timeline.length ∧ Halts s.pages k tree none x left) ∧
    s' = { s with tree := left, log := s.log ++ entries }

/-- What becomes of a site when it is written: all pages are there and the handlers of the second signal are called, or it
ends at a page. -/
theorem renderUntil_cases {off : Option Nat} {x : Except SiteError Unit} (hrun : s.run (Build.renderUntil off) = (x, s')) :
    (∀ k, off = some k → s.bodied.timeline.length ≤ k) ∧
      (∃ tree, saveAll s.bodied.tree s.bodied.pages = .ok tree ∧ Signalled { s.bodied with tree } rendered x s') ∨
    s.bodied.CutShort off x s' := by
  rw [renderUntil_eq, Build.renderBodies, run_change_bind, ← bodied, run_get_bind, run_bind] at hrun
  generalize s.bodied = b at hrun ⊢
  generalize hposts : b.run (Build.writePosts Page.postTemplate off b.timeline) = y at hrun
  obtain ⟨y, u⟩ := y
  have hcount : (pagesOf b.config b.timeline).length = b.timeline.length := List.length_map _
  have hpages : b.pages = pagesOf b.config b.timeline ++ [(indexPath b.config, Page.index b.config b.timeline)] := rfl
  obtain ⟨entries, hentries, ⟨hgoes, rfl, tree, hsaved, rfl⟩ | ⟨k, tree, left, hk, hsaved, hhalts, rfl⟩⟩ :=
    writePosts_cases hposts
  · -- All posts are written, and the list of posts comes last.
    have hindex : saveAll b.tree b.pages = tree.save (indexPath b.config) (Page.index b.config b.timeline) := by
      rw [hpages, saveAll_append, hsaved]
      show (tree.save _ _ >>= pure) = _
      rw [bind_pure]
    simp only [run_bind, run_save] at hrun
    cases hsave : tree.save (indexPath b.config) (Page.index b.config b.timeline) with
    | error err =>
      rw [hsave] at hrun
      obtain ⟨rfl, rfl⟩ := Prod.mk.inj hrun
      have hlast : b.pages[b.timeline.length]? = some (indexPath b.config, Page.index b.config b.timeline) := by
        rw [hpages, ← hcount, List.getElem?_concat_length]
      have hbefore : saveAll b.tree (b.pages.take b.timeline.length) = .ok tree := by
        rw [hpages, List.take_left' hcount, hsaved]
      exact Or.inr ⟨entries, b.timeline.length, tree, _, hentries, hbefore, Or.inr ⟨rfl, .failed hlast hsave⟩, rfl⟩
    | ok tree' =>
      rw [hsave] at hrun hindex
      simp only [run_note, note_eq] at hrun
      exact Or.inl ⟨hgoes, tree', hindex, signalled_of_emit hrun⟩
  · have hbefore : b.pages.take k = (pagesOf b.config b.timeline).take k := by
      rw [hpages, List.take_append_of_le_length (hcount ▸ hk.le)]
    obtain ⟨rfl, rfl⟩ : y = x ∧ { b with tree := left, log := b.log ++ entries } = s' := by
      cases hhalts with
      | cancelled => exact Prod.mk.inj hrun
      | failed _ _ => exact Prod.mk.inj hrun
    exact Or.inr ⟨entries, k, tree, left, hentries, hbefore ▸ hsaved, Or.inl ⟨hk, hhalts.append _⟩, rfl⟩

/-- The pages of a site can all be written, and this is the tree then. A building that was called off gets no further
than to the first post. -/
def PagesWritten (s : Site) (cancelled : Bool) (tree : Tree) : Prop :=
  (cancelled = true → s.timeline = []) ∧ saveAll s.tree s.pages = .ok tree

/-- A building is called off before the first post, or not at all. -/
def callOff (cancelled : Bool) : Option Nat := if cancelled then some 0 else none

/-- Where writing the pages was cut short, not all of them can be written, and the failure says why. -/
theorem CutShort.cause {cancelled : Bool} {x : Except SiteError Unit} (h : s.CutShort (callOff cancelled) x s') :
    (¬ ∃ tree, s.PagesWritten cancelled tree) ∧
      (cancelled = true ∧ x = .error .cancelled ∨ ∃ err, x = .error (.write err)) := by
  obtain ⟨entries, k, tree, left, -, hsaved, hend, -⟩ := h
  have hends : cancelled = true ∧ s.timeline ≠ [] ∧ x = .error .cancelled ∨
      (∃ err, x = .error (.write err)) ∧ ∀ all, saveAll s.tree s.pages ≠ .ok all := by
    rcases hend with ⟨hk, hhalts⟩ | ⟨-, hhalts⟩
    · refine (hhalts.cause hsaved).imp_left fun ⟨hoff, hx⟩ => ?_
      cases cancelled with
      | false => cases hoff
      | true => exact ⟨rfl, List.length_pos_iff.mp (Nat.zero_lt_of_lt hk), hx⟩
    · exact Or.inr ((hhalts.cause hsaved).resolve_left nofun)
  refine ⟨?_, hends.imp (fun h => ⟨h.1, h.2.2⟩) And.left⟩
  rintro ⟨all, hgoes, hall⟩
  rcases hends with ⟨hcancelled, hne, -⟩ | ⟨-, hnone⟩
  · exact hne (hgoes hcancelled)
  · exact hnone all hall

theorem CutShort.trace {off : Option Nat} {x : Except SiteError Unit} (h : s.CutShort off x s') : s'.trace = s.trace := by
  obtain ⟨_, _, _, _, -, -, -, rfl⟩ := h
  rfl

/-- What becomes of a site when its pages are written: all are there and the handlers of the second signal are called,
or it is cut short. -/
theorem render_cases {cancelled : Bool} {x : Except SiteError Unit} (hrun : s.run (Build.render cancelled) = (x, s')) :
    (∃ tree, PagesWritten s.bodied cancelled tree ∧ Signalled { s.bodied with tree } rendered x s') ∨
      s.bodied.CutShort (callOff cancelled) x s' := by
  refine (renderUntil_cases hrun).imp_left fun ⟨hgoes, tree, hsaved, hsignal⟩ => ⟨tree, ⟨fun hcancelled => ?_, hsaved⟩, hsignal⟩
  exact List.length_eq_zero_iff.mp (Nat.le_zero.mp (hgoes 0 (if_pos hcancelled)))

/-! ### Building -/

/-- The site with a timeline that was just found. -/
def scannedTo (s : Site) (posts : List Post) : Site :=
  { s with timeline := posts, slugPlaces := slugPlacesOf posts }

theorem scan_cases {x : Except SiteError Unit} (hrun : s.run Build.scan = (x, s')) :
    (∃ e, timelineOf s.tree s.config.postsPath = .error e ∧ x = .error e ∧ s' = s) ∨
    ∃ found, timelineOf s.tree s.config.postsPath = .ok found ∧ (s.scannedTo found).Signalled scanned x s' := by
  rw [Build.scan, run_get_bind, run_lift_bind] at hrun
  cases hfound : timelineOf s.tree s.config.postsPath with
  | error e =>
    rw [hfound] at hrun
    obtain ⟨rfl, rfl⟩ := Prod.mk.inj hrun
    exact Or.inl ⟨e, rfl, rfl, rfl⟩
  | ok found =>
    rw [hfound] at hrun
    simp only [run_change_bind, run_note_bind, note_eq] at hrun
    exact Or.inr ⟨found, rfl, signalled_of_emit hrun⟩

theorem PagesWritten.unique {cancelled : Bool} {tree tree' : Tree} (h : s.PagesWritten cancelled tree)
    (h' : s.PagesWritten cancelled tree') : tree = tree' := Except.ok.inj (h.2.symm.trans h'.2)

/-- The course of a building of a site: how it ends, and the site then. -/
structure Lifecycle (s : Site) (cancelled : Bool) (x : Except SiteError Unit) (s' : Site) : Prop where
  /-- If the posts cannot be found, that is the end. -/
  unfound : ∀ e, timelineOf s.tree s.config.postsPath = .error e → x = .error e ∧ s' = s
  /-- Otherwise the first signal is given. If all goes well, and all pages can be written, the second is given then; if
  not, the failure is the end, and no handler was called after those of the first signal. -/
  found : ∀ posts, timelineOf s.tree s.config.postsPath = .ok posts →
    ∃ y t, (s.scannedTo posts).Signalled scanned y t ∧ (∀ e, y = .error e → x = .error e ∧ s' = t) ∧
      (y = .ok () → t.handlers = s.handlers ∧
        (∀ tree, t.bodied.PagesWritten cancelled tree → Signalled { t.bodied with tree } rendered x s') ∧
        ((∀ tree, ¬ t.bodied.PagesWritten cancelled tree) → t.bodied.CutShort (callOff cancelled) x s' ∧
          s'.trace = t.trace ∧ (cancelled = true ∧ x = .error .cancelled ∨ ∃ err, x = .error (.write err))))
  /-- Broken comments of any post that was found are such a failure, unless a handler has failed before. -/
  broken : s.config.failOnCommentError = true → .loadComments ∈ s.handlersOf scanned →
    .deploy ∉ s.handlersOf scanned → ∀ posts, timelineOf s.tree s.config.postsPath = .ok posts →
    (∃ p ∈ posts, ∃ err, p.loadComments s.tree = .error err) →
    ∃ e, x = .error (.handler scanned e) ∧ s'.tree = s.tree ∧
      ((∃ label, .labelled label true ∈ s.handlersOf scanned ∧ e = .labelled label) ∨
        ∃ p ∈ posts, ∃ err, p.loadComments s.tree = .error err ∧ e = .comments p.sourcePath err)

/-- How a building goes when the posts are found: the first signal, then the rest. -/
theorem build_cases {cancelled : Bool} {x : Except SiteError Unit} (hrun : s.run (Build.build cancelled) = (x, s')) :
    (∃ e, timelineOf s.tree s.config.postsPath = .error e ∧ x = .error e ∧ s' = s) ∨
    ∃ found y t, timelineOf s.tree s.config.postsPath = .ok found ∧ (s.scannedTo found).Signalled scanned y t ∧
      ((∃ e, y = .error e ∧ x = .error e ∧ s' = t) ∨ y = .ok () ∧ t.run (Build.render cancelled) = (x, s')) := by
  rw [Build.build, run_bind] at hrun
  split at hrun
  · rename_i t hscan
    obtain ⟨e, -, he, -⟩ | ⟨found, hfound, hsignal⟩ := scan_cases hscan
    · cases he
    · exact Or.inr ⟨found, _, t, hfound, hsignal, Or.inr ⟨rfl, hrun⟩⟩
  · rename_i e t hscan
    obtain ⟨rfl, rfl⟩ := Prod.mk.inj hrun
    obtain ⟨e', htimeline, he, rfl⟩ | ⟨found, hfound, hsignal⟩ := scan_cases hscan
    · exact Or.inl ⟨e', htimeline, he, rfl⟩
    · exact Or.inr ⟨found, _, _, hfound, hsignal, Or.inl ⟨e, rfl, rfl, rfl⟩⟩

theorem Signalled.handlers {signal : Text} {x : Except SiteError Unit} (h : s.Signalled signal x s') :
    s'.handlers = s.handlers := by
  obtain ⟨log, called, r, hcalls, -⟩ := h
  exact hcalls.leaves.2.1

theorem Signalled.broken {x : Except SiteError Unit} (h : s.Signalled scanned x s')
    (hfail : s.config.failOnCommentError = true) (hmem : .loadComments ∈ s.handlersOf scanned)
    (hdeploy : .deploy ∉ s.handlersOf scanned) (hbroken : ∃ p ∈ s.timeline, ∃ err, p.loadComments s.tree = .error err) :
    ∃ e, x = .error (.handler scanned e) ∧ s'.tree = s.tree ∧
      ((∃ label, .labelled label true ∈ s.handlersOf scanned ∧ e = .labelled label) ∨
        ∃ p ∈ s.timeline, ∃ err, p.loadComments s.tree = .error err ∧ e = .comments p.sourcePath err) := by
  obtain ⟨log, called, r, hcalls, rfl, hbegins, -, -, htree⟩ := h
  have htree' := htree fun hin => hdeploy (hbegins.subset hin)
  obtain ⟨label, hlabel, rfl⟩ | ⟨p, hp, err, hload, rfl⟩ := hcalls.broken hmem hdeploy hfail hbroken
  · exact ⟨_, rfl, htree', Or.inl ⟨label, hlabel, rfl⟩⟩
  · exact ⟨_, rfl, htree', Or.inr ⟨p, hp, err, hload, rfl⟩⟩

theorem build_lifecycle (s : Site) (cancelled : Bool) :
    s.Lifecycle cancelled (s.run (Build.build cancelled)).1 (s.run (Build.build cancelled)).2 := by
  generalize hrun : s.run (Build.build cancelled) = y
  obtain ⟨x, s'⟩ := y
  obtain ⟨e, htimeline, rfl, rfl⟩ | ⟨found, y, t, htimeline, hsignal, hrest⟩ := build_cases hrun
  · constructor
    · intro e' he'
      obtain rfl := Except.error.inj (htimeline.symm.trans he')
      exact ⟨rfl, rfl⟩
    · intro posts hposts
      cases htimeline.symm.trans hposts
    · intro _ _ _ posts hposts
      cases htimeline.symm.trans hposts
  · constructor
    · intro e he
      cases htimeline.symm.trans he
    · intro posts hposts
      obtain rfl := Except.ok.inj (htimeline.symm.trans hposts)
      refine ⟨y, t, hsignal, fun e he => ?_, fun hy => ⟨hsignal.handlers, fun tree htree => ?_, fun hnone => ?_⟩⟩
      · obtain ⟨e', rfl, rfl, rfl⟩ | ⟨rfl, -⟩ := hrest
        · exact ⟨he, rfl⟩
        · cases he
      all_goals
        obtain ⟨e', rfl, -⟩ | ⟨-, hrender⟩ := hrest
        · cases hy
      · obtain ⟨tree', htree', hrendered⟩ | hshort := render_cases hrender
        · exact htree.unique htree' ▸ hrendered
        · exact absurd ⟨tree, htree⟩ hshort.cause.1
      · obtain ⟨tree', htree', -⟩ | hshort := render_cases hrender
        · exact absurd htree' (hnone tree')
        · exact ⟨hshort, hshort.trace, hshort.cause.2⟩
    · intro hfail hmem hdeploy posts hposts hbroken
      obtain rfl := Except.ok.inj (htimeline.symm.trans hposts)
      obtain ⟨e, rfl, htree, hcause⟩ := hsignal.broken hfail hmem hdeploy hbroken
      obtain ⟨e', he', rfl, rfl⟩ | ⟨hok, -⟩ := hrest
      · obtain rfl := Except.error.inj he'
        exact ⟨e, rfl, htree, hcause⟩
      · cases hok

end Site

end Marginalia
