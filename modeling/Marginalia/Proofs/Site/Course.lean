import Mathlib
import Marginalia.Proofs.Pool.Outcome
import Marginalia.Proofs.Site.Finding
import Marginalia.Proofs.Site.Running
import Marginalia.Site.Course

/-!
The course of a building with which nobody interferes. Put together step by step, it does to the site what the building
does at once, and ends as this ends: the listings and readings in between find the files as they were in the beginning.
-/

namespace Marginalia

open File (Tree Place)

theorem File.Tree.get?_of_find {t : Tree} {follow : Bool} {path : Text} {place : Place} {node : File.Node}
    (h : t.find follow path = .ok (place, node)) : t.get? place = some node := by
  unfold find at h
  split at h
  · cases h
  · split at h
    · obtain ⟨rfl, rfl⟩ := Prod.mk.inj (Except.ok.inj h)
      assumption
    · cases h

namespace Build

variable {ε α : Type}

theorem ext {b b' : Build ε α} (h : ∀ s : Site, s.run b = s.run b') : b = b' := funext h

end Build

namespace Course

variable {ε ε' α β : Type} {s : Site}

/-! ### Putting courses together -/

theorem bind_done (c : Course ε α) : (c.bind fun a => done (.ok a)) = c := by
  induction c with
  | done r => cases r <;> rfl
  | act effect next ih => rw [bind, funext ih]

theorem bind_bind {γ : Type} (c : Course ε α) (f : α → Course ε β) (g : β → Course ε γ) :
    (c.bind f).bind g = c.bind fun a => (f a).bind g := by
  induction c with
  | done r => cases r <;> rfl
  | act effect next ih => rw [bind, bind, bind, funext ih]

instance : LawfulMonad (Course ε) :=
  LawfulMonad.mk' (Course ε) bind_done (fun _ _ => rfl) bind_bind

theorem run_alone_act (effect : Site → Site) (next : Site → Course ε α) (s : Site) :
    s.run (act effect next).alone = (effect s).run (next s).alone := rfl

theorem alone_bind (c : Course ε α) (f : α → Course ε β) : (c >>= f).alone = c.alone >>= fun a => (f a).alone := by
  change (c.bind f).alone = _
  refine Build.ext fun s => ?_
  induction c generalizing s with
  | done r => cases r <;> rfl
  | act effect next ih => rw [bind, run_alone_act, ih, Site.run_bind, Site.run_bind, run_alone_act]

theorem alone_adapt (f : ε → ε') (c : Course ε α) : (c.adapt f).alone = ExceptT.adapt f c.alone := by
  refine Build.ext fun s => ?_
  induction c generalizing s with
  | done r => rfl
  | act effect next ih => rw [adapt, run_alone_act, ih, Site.run_adapt, Site.run_adapt, run_alone_act]

theorem alone_once (b : Build ε α) : (once b).alone = b := Build.ext fun _ => rfl

theorem run_alone_look (f : Site → Except ε α) (s : Site) : s.run (look f).alone = (f s, s) := rfl

theorem run_look_bind (f : Site → Except ε α) (g : α → Course ε β) (s : Site) :
    s.run (look f >>= g).alone = match f s with
      | .ok a => s.run (g a).alone
      | .error e => (.error e, s) := by
  rw [alone_bind, Site.run_bind, run_alone_look]
  cases f s <;> rfl

theorem alone_get : (look .ok : Course ε Site).alone = get := Build.ext fun _ => rfl

theorem alone_forM (f : β → Course ε Unit) (xs : List β) : (xs.forM f).alone = xs.forM fun x => (f x).alone := by
  induction xs with
  | nil => rfl
  | cons x xs ih =>
    change (f x >>= fun _ => xs.forM f).alone = _
    rw [alone_bind, ih]
    rfl

/-! ### Comments and signals -/

theorem run_alone_takeTurns (turns : Nat) (schedule : Schedule) (pool : Pool) (s : Site) :
    s.run (takeTurns turns schedule pool).alone =
      (.ok (pool.runFor (Site.processPost s.config s.tree) (Site.workerLimit s.config) turns schedule), s) := by
  induction turns generalizing schedule pool with
  | zero => rfl
  | succ turns ih =>
    rw [takeTurns, run_look_bind, Pool.runFor]
    dsimp only
    cases (schedule.head?.bind _).or _ with
    | none => rfl
    | some pool => exact ih _ _

theorem alone_loadComments : loadComments.alone = Build.loadComments := by
  refine Build.ext fun s => ?_
  rw [loadComments, run_look_bind, Site.run_loadComments]
  dsimp only
  rw [alone_bind, Site.run_bind, run_alone_takeTurns, ← Pool.run]
  dsimp only
  rw [alone_once, Site.run_change_bind, Site.foldl_note, Site.afterWork]
  cases Pool.error _ <;> rfl

theorem alone_deploy : deploy.alone = Build.deploy := by
  simp only [deploy, Build.deploy, alone_bind, alone_get, alone_once]

theorem alone_handle (h : Handler) : (handle h).alone = Build.handle h := by
  cases h with
  | loadComments => exact alone_loadComments
  | deploy => exact alone_deploy
  | labelled label fails => exact alone_once _

theorem alone_emit (signal : Text) : (emit signal).alone = Build.emit signal := by
  refine Build.ext fun s => ?_
  rw [emit, run_look_bind, Build.emit, Site.run_get_bind]
  simp only [alone_bind, alone_once, alone_adapt, alone_forM, alone_handle]

theorem alone_render : render.alone = Build.render false := by
  have hrender : render = (do
      once Build.renderBodies
      let s ← look .ok
      s.timeline.forM fun p => once (Build.writePost Page.postTemplate false p)
      once (Build.save .write (Site.indexPath s.config) (Page.index s.config s.timeline))
      once (Build.note { level := .info, message := "rendered site"
                         fields := [("output", .text s.config.outputPath), ("posts", .int s.timeline.length)] })
      emit Site.rendered) := rfl
  simp only [hrender, Site.render_eq, alone_bind, alone_get, alone_forM, alone_once, alone_emit]

/-! ### Finding posts -/

theorem run_alone_mapM {f : β → Course ε α} {g : β → Except ε α} {xs : List β}
    (h : ∀ x ∈ xs, s.run (f x).alone = (g x, s)) : s.run (xs.mapM f).alone = (xs.mapM g, s) := by
  induction xs with
  | nil => rfl
  | cons x xs ih =>
    obtain ⟨hx, hxs⟩ := List.forall_mem_cons.mp h
    rw [List.mapM_cons, List.mapM_cons, alone_bind, Site.run_bind, hx]
    cases g x with
    | error e => rfl
    | ok a =>
      change s.run _ = _
      rw [alone_bind, Site.run_bind, ih hxs]
      cases xs.mapM g <;> rfl

theorem mapM_flatMap {γ : Type} (f : α → List β) (g : β → Except ε γ) (xs : List α) :
    (xs.flatMap f).mapM g = (do let found ← xs.mapM fun x => (f x).mapM g; pure found.flatten) := by
  induction xs with
  | nil => rfl
  | cons x xs ih =>
    rw [List.flatMap_cons, List.mapM_append, List.mapM_cons, ih]
    simp

theorem run_alone_readFile (path : Text) (s : Site) :
    s.run (readFile path).alone = ((if Site.isPostPath path then [path] else []).mapM (Site.readPost s.tree), s) := by
  rw [readFile]
  split
  · rw [List.mapM_cons, List.mapM_nil, map_eq_pure_bind, run_look_bind]
    cases Site.readPost s.tree path <;> rfl
  · rfl

/-- Alone, the posts below a directory are those at the paths that lead to posts. -/
theorem run_alone_postsBelow {depth : Nat} {dir : Place} {path : Text} (hdir : s.tree.get? dir = some .dir) :
    s.run (postsBelow depth dir path).alone =
      ((Site.postPaths s.tree depth dir path).mapM (Site.readPost s.tree), s) := by
  induction depth generalizing dir path with
  | zero => rfl
  | succ depth ih =>
    rw [postsBelow, run_look_bind, Site.listDirectory, if_pos (beq_iff_eq.mpr hdir), Site.postPaths_succ]
    dsimp only [Except.mapError]
    rw [List.mapM_map, mapM_flatMap, alone_bind, Site.run_bind,
      run_alone_mapM (g := fun name => (Site.postsUnder s.tree depth dir path name).mapM (Site.readPost s.tree)) ?_]
    · generalize List.mapM (m := Except ScanError) _ _ = found
      cases found <;> rfl
    · intro name _
      dsimp only [Function.comp_apply]
      rw [Site.postsUnder]
      cases hentry : s.tree.get? (dir ++ [name]) with
      | none => exact run_alone_readFile _ s
      | some node =>
        cases node with
        | file content => exact run_alone_readFile _ s
        | link target => exact run_alone_readFile _ s
        | dir =>
          dsimp only
          rw [if_pos (beq_self_eq_true _)]
          split
          · rfl
          · exact ih hentry

theorem run_alone_readPosts {depth : Nat} (hdepth : s.tree.depth < depth) (root : Text) :
    s.run (readPosts depth root).alone = (Site.readPosts s.tree root, s) := by
  rw [readPosts, run_look_bind, Site.readPosts, Site.findPosts]
  rcases hfind : s.tree.find false root with c | ⟨place, node⟩
  · rfl
  · dsimp only [Except.mapError]
    cases node with
    | file content => exact run_alone_readFile root s
    | link target => exact run_alone_readFile root s
    | dir =>
      dsimp only
      rw [run_alone_postsBelow (File.Tree.get?_of_find hfind),
        Site.postPaths_enough (m := s.tree.depth + 1) (by omega) (by omega)]

theorem run_alone_scan {depth : Nat} (hdepth : s.tree.depth < depth) : s.run (scan depth).alone = s.run Build.scan := by
  rw [scan, run_look_bind, Build.scan, Site.run_get_bind]
  dsimp only
  rw [alone_bind, alone_adapt, Site.run_bind, Site.run_adapt, run_alone_readPosts hdepth, Site.run_lift_bind,
    Site.timelineOf]
  cases Site.readPosts s.tree s.config.postsPath with
  | error e => rfl
  | ok posts =>
    dsimp only [Except.mapError]
    rw [alone_bind, Site.run_bind, Site.arranged]
    cases Site.sharedSlug? [] (Site.sortPosts posts) with
    | some shared => rfl
    | none =>
      simp only [alone_bind, alone_once, alone_emit]
      rfl

/-- Building step by step does what building at once does if nobody interferes. -/
theorem run_alone_build {depth : Nat} (hdepth : s.tree.depth < depth) :
    s.run (build depth).alone = s.run (Build.build false) := by
  rw [build, Build.build, alone_bind, alone_render, Site.run_bind, Site.run_bind, run_alone_scan hdepth]

end Course

end Marginalia
