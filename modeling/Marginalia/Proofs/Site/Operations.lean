import Mathlib
import Marginalia.Proofs.Pool.Outcome
import Marginalia.Proofs.Site.Scanning

/-!
What can be done with a site, and what its timeline can become. A timeline is what a scan finds, or it is made from
one by changing comments and bodies of its posts: comments are loaded anew or dropped, bodies are rendered. So what
holds of every timeline found and is kept by such changes holds at any time, whatever succeeds or fails on the
way and however the workers take turns.
-/

namespace Marginalia

/-- What is done with a site. -/
inductive Operation where
  /-- Files are written and removed, and these are there then. -/
  | files (tree : File.Tree)
  | configure (config : Config)
  /-- From now on workers take turns like this. -/
  | schedule (turns : Schedule)
  | connect (signal : Text) (h : Handler)
  | emit (signal : Text)
  | scan
  | renderBodies
  | render (cancelled : Bool)
  | build (cancelled : Bool)
  /-- The comments of all posts are loaded. -/
  | loadComments
  /-- The comments of the post with a slug are loaded. -/
  | loadPost (slug : Text)
  | deploy

namespace Site

/-- The comments of the post with a slug, if there is one and they can be loaded. -/
def loadPost (s : Site) (slug : Text) : Site :=
  match s.post? slug with
  | none => s
  | some p =>
    match p.loadComments s.tree with
    | .error _ => s
    | .ok cs => s.setComments slug cs

/-- The site after an operation, be it that it succeeds or fails. -/
def perform (s : Site) : Operation → Site
  | .files tree => { s with tree }
  | .configure config => { s with config }
  | .schedule turns => { s with schedule := turns }
  | .connect signal h => s.connect signal h
  | .emit signal => (s.run (Build.emit signal)).2
  | .scan => (s.run Build.scan).2
  | .renderBodies => (s.run Build.renderBodies).2
  | .render cancelled => (s.run (Build.render cancelled)).2
  | .build cancelled => (s.run (Build.build cancelled)).2
  | .loadComments => (s.run Build.loadComments).2
  | .loadPost slug => s.loadPost slug
  | .deploy => (s.run Build.deploy).2

/-- The site that operations make, in order, of a new one with comments. -/
def reached (config : Config) (tree : File.Tree) (ops : List Operation) : Site :=
  ops.foldl perform (withComments config tree)

end Site

/-! ### How posts change -/

/-- A post that changes: its comments are dropped or loaded, or its body is rendered. -/
inductive Post.Changes (p : Post) : Post → Prop where
  | same : Changes p p
  | dropped : Changes p { p with comments := none }
  | loaded {tree : File.Tree} {q : Post} {cs : List ThreadedComment} : q.slug = p.slug →
      q.loadComments tree = .ok cs → Changes p { p with comments := some cs }
  | rendered : Changes p (Site.renderBody p)

/-- Holds of the timelines that are found, with the places of their slugs, and is kept when posts change. -/
structure TimelineLaw (Q : List Post → List (Text × Nat) → Prop) : Prop where
  nil : Q [] []
  found : ∀ {tree : File.Tree} {root : Text} {posts : List Post}, Site.timelineOf tree root = .ok posts →
    Q posts (Site.slugPlacesOf posts)
  changed : ∀ {posts posts' : List Post} {places : List (Text × Nat)}, Q posts places →
    List.Forall₂ Post.Changes posts posts' → Q posts' places

namespace TimelineLaw

variable {Q : List Post → List (Text × Nat) → Prop} {ε : Type}

theorem keeps_note (e : Log.Entry) : Build.Keeps (fun s => Q s.timeline s.slugPlaces) (Build.note e : Build ε Unit) := by
  intro s hs
  rw [Site.run_note, Site.note_timeline, Site.note_slugPlaces]
  exact hs

theorem keeps_save (wrap : File.Error → ε) (path content : Text) :
    Build.Keeps (fun s => Q s.timeline s.slugPlaces) (Build.save wrap path content) :=
  .save fun _ _ hs => hs

theorem keeps_loadComments (hQ : TimelineLaw Q) : Build.Keeps (fun s => Q s.timeline s.slugPlaces) Build.loadComments := by
  -- Whatever the schedule, each post of the pool at the end is a change of the post at its place.
  intro s hs
  obtain ⟨turns, pool, hturns, hover, hrun⟩ := s.exists_takeTurns
  have htrack : Pool.Tracks (Site.processPost s.config s.tree) s.timeline pool := Pool.Tracks.follow hturns
  rw [hrun]
  refine hQ.changed hs (List.forall₂_iff_get.mpr ⟨(htrack.posts_eq hover).2.symm, fun k hk hk' => ?_⟩)
  have hend := Site.post_ends htrack hover (List.getElem?_eq_getElem hk) (List.getElem?_eq_getElem hk')
  simp only [List.get_eq_getElem]
  rcases hend with ⟨cs, hcs, hq⟩ | ⟨-, hq⟩ | ⟨hq, -⟩
  · exact hq ▸ .loaded rfl hcs
  · exact hq ▸ .dropped
  · exact hq ▸ .same

theorem keeps_deploy : Build.Keeps (fun s => Q s.timeline s.slugPlaces) Build.deploy :=
  .get_bind_keeps fun _ => .bind (keeps_save _ _ _) fun _ => .bind (keeps_save _ _ _) fun _ => keeps_note _

theorem keeps_handle (hQ : TimelineLaw Q) (h : Handler) : Build.Keeps (fun s => Q s.timeline s.slugPlaces) (Build.handle h) := by
  cases h with
  | loadComments => exact hQ.keeps_loadComments
  | deploy => exact keeps_deploy
  | labelled label fails =>
    refine .bind (.change fun _ hs => hs) fun _ => ?_
    cases fails with
    | true => exact .throw _
    | false => exact .pure _

theorem keeps_emit (hQ : TimelineLaw Q) (signal : Text) : Build.Keeps (fun s => Q s.timeline s.slugPlaces) (Build.emit signal) :=
  .get_bind_keeps fun _ => .bind (keeps_note _) fun _ => .adapt _ (.forM fun h _ => hQ.keeps_handle h)

theorem keeps_scan (hQ : TimelineLaw Q) : Build.Keeps (fun s => Q s.timeline s.slugPlaces) Build.scan := by
  intro s hs
  rw [Build.scan, Site.run_get_bind, Site.run_lift_bind]
  cases htimeline : Site.timelineOf s.tree s.config.postsPath with
  | error e => exact hs
  | ok timeline =>
    simp only
    rw [Site.run_change_bind]
    exact Build.Keeps.bind (keeps_note _) (fun _ => hQ.keeps_emit _) _ (hQ.found htimeline)

theorem keeps_renderBodies (hQ : TimelineLaw Q) : Build.Keeps (fun s => Q s.timeline s.slugPlaces) Build.renderBodies :=
  .change fun _ hs => hQ.changed hs (List.forall₂_map_right_iff.mpr (List.forall₂_same.mpr fun _ _ => .rendered))

theorem keeps_writePost (page : Template) (cancelled : Bool) (p : Post) :
    Build.Keeps (fun s => Q s.timeline s.slugPlaces) (Build.writePost page cancelled p) := by
  have hwrite : Build.Keeps (fun s => Q s.timeline s.slugPlaces) (Build.writePost page false p) :=
    .get_bind_keeps fun _ => .bind (keeps_save _ _ _) fun _ => keeps_note _
  cases cancelled with
  | true => exact fun s hs => hs
  | false => exact hwrite

theorem keeps_render (hQ : TimelineLaw Q) (cancelled : Bool) :
    Build.Keeps (fun s => Q s.timeline s.slugPlaces) (Build.render cancelled) := by
  rw [Site.render_eq]
  exact .bind hQ.keeps_renderBodies fun _ => .get_bind_keeps fun _ =>
    .bind (.forM fun p _ => keeps_writePost _ cancelled p) fun _ =>
      .bind (keeps_save _ _ _) fun _ => .bind (keeps_note _) fun _ => hQ.keeps_emit _

theorem keeps_build (hQ : TimelineLaw Q) (cancelled : Bool) :
    Build.Keeps (fun s => Q s.timeline s.slugPlaces) (Build.build cancelled) :=
  .bind hQ.keeps_scan fun _ => hQ.keeps_render cancelled

theorem loadPost (hQ : TimelineLaw Q) {s : Site} (hs : Q s.timeline s.slugPlaces) (slug : Text) :
    Q (s.loadPost slug).timeline (s.loadPost slug).slugPlaces := by
  unfold Site.loadPost
  split
  · exact hs
  rename_i p hpost
  split
  · exact hs
  rename_i cs hcs
  -- The post whose comments were loaded is the one that is given them.
  obtain ⟨place, hplace, hp⟩ := Option.bind_eq_some_iff.mp hpost
  simp only [Site.setComments, hplace]
  refine hQ.changed hs (List.forall₂_iff_get.mpr ⟨(List.length_modify _ _ _).symm, fun k hk hk' => ?_⟩)
  simp only [List.get_eq_getElem, List.getElem_modify]
  split
  · rename_i heq
    subst heq
    obtain rfl := Option.some.inj ((List.getElem?_eq_getElem hk).symm.trans hp)
    exact .loaded rfl hcs
  · exact .same

theorem perform (hQ : TimelineLaw Q) {s : Site} (hs : Q s.timeline s.slugPlaces) (op : Operation) :
    Q (s.perform op).timeline (s.perform op).slugPlaces := by
  cases op with
  | files tree => exact hs
  | configure config => exact hs
  | schedule turns => exact hs
  | connect signal h => exact hs
  | emit signal => exact hQ.keeps_emit signal s hs
  | scan => exact hQ.keeps_scan s hs
  | renderBodies => exact hQ.keeps_renderBodies s hs
  | render cancelled => exact hQ.keeps_render cancelled s hs
  | build cancelled => exact hQ.keeps_build cancelled s hs
  | loadComments => exact hQ.keeps_loadComments s hs
  | loadPost slug => exact hQ.loadPost hs slug
  | deploy =>
    rw [Site.perform]
    exact keeps_deploy s hs

theorem performs (hQ : TimelineLaw Q) {s : Site} (hs : Q s.timeline s.slugPlaces) (ops : List Operation) :
    Q (ops.foldl Site.perform s).timeline (ops.foldl Site.perform s).slugPlaces := by
  induction ops generalizing s with
  | nil => exact hs
  | cons op ops ih => exact ih (hQ.perform hs op)

/-- What holds of all timelines that are found, and is kept when posts change, holds at any time. -/
theorem reached (hQ : TimelineLaw Q) (config : Config) (tree : File.Tree) (ops : List Operation) :
    Q (Site.reached config tree ops).timeline (Site.reached config tree ops).slugPlaces :=
  hQ.performs hQ.nil ops

end TimelineLaw

/-! ### The comments of a site -/

namespace Site

/-- Each post of a timeline has no comments or a well-formed thread. -/
def ThreadsWellFormed (posts : List Post) : Prop :=
  ∀ p ∈ posts, ∀ ts, p.comments = some ts → Thread.WellFormed ts

theorem threadsWellFormed_law : TimelineLaw fun posts _ => ThreadsWellFormed posts where
  nil := fun _ hp => nomatch hp
  found h p hp ts hts := by
    rw [((timelineOf_fresh h).1 p hp).comments] at hts
    cases hts
  changed {posts posts' _} hposts hchanges q hq ts hts := by
    obtain ⟨p, hp, hchange⟩ := exists_of_mem_right hchanges hq
    have hold := hposts p hp
    cases hchange with
    | same => exact hold ts hts
    | dropped => cases hts
    | loaded _ hcs =>
      obtain rfl := Option.some.inj hts
      exact Post.loadComments_wellFormed hcs
    | rendered => exact hold ts hts

/-- Whatever is done with a site, the comments of each post are absent or make a well-formed thread. A cache of
renderings, however it has been used, gives for their messages what they are shown as, unless another message
with the same digest was kept. -/
theorem reached_threads_wellFormed (config : Config) (tree : File.Tree) (ops : List Operation) :
    ThreadsWellFormed (reached config tree ops).timeline ∧
    ∀ p ∈ (reached config tree ops).timeline, ∀ ts, p.comments = some ts → ∀ t ∈ ts, ∀ uses : List RenderCache.Use,
      (∀ other, .keep other ∈ uses → Digest.sha256 other = Digest.sha256 t.message → other = t.message) →
      ((RenderCache.after Comment.renderMessage uses).through Comment.renderMessage t.message).1 = t.html := by
  have hall := threadsWellFormed_law.reached config tree ops
  refine ⟨hall, fun p hp ts hts t ht uses hdigest => ?_⟩
  exact ((hall p hp ts hts).sound t ht).through_eq hdigest

end Site

end Marginalia
