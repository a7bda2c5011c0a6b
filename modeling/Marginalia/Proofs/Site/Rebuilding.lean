import Mathlib
import Marginalia.Proofs.Preview.Agreement
import Marginalia.Proofs.Site.Rescanning

/-!
Building again. A building that succeeds leaves a tree in which it finds the same posts and comments as before, wherever
the output directory stands, as long as none of its names has an ending by which comments are found: what was written are
neither posts nor comments. So a second building writes the same files over those of the first, and succeeds. Only a feed without items
tells when it was written.
-/

namespace Marginalia

open File (Tree Ends Grown)

namespace Site

variable {ε ε' : Type} {s s' : Site} {t t' : Tree} {files files' : List (Text × Text)} {cancelled : Bool}

/-! ### Steps that save -/

/-- From a site, the step saves files one after another and else only writes to the log; it succeeds if all of them can be
saved. -/
structure Saves (s : Site) (files : List (Text × Text)) (b : Build ε Unit) : Prop where
  succeeds : ∀ tree, saveAll s.tree files = .ok tree → ∃ log, s.run b = (.ok (), { s with tree, log })
  saved : ∀ s', s.run b = (.ok (), s') → ∃ tree, saveAll s.tree files = .ok tree

namespace Saves

theorem pure (s : Site) : Saves s [] (Pure.pure () : Build ε Unit) where
  succeeds tree h := by
    obtain rfl := Except.ok.inj h
    exact ⟨s.log, rfl⟩
  saved _ _ := ⟨s.tree, rfl⟩

theorem note (s : Site) (e : Log.Entry) : Saves s [] (Build.note e : Build ε Unit) where
  succeeds tree h := by
    obtain rfl := Except.ok.inj h
    exact ⟨_, by rw [run_note, note_eq]⟩
  saved _ _ := ⟨s.tree, rfl⟩

theorem save (s : Site) (wrap : File.Error → ε) (path content : Text) :
    Saves s [(path, content)] (Build.save wrap path content) := by
  have hone : saveAll s.tree [(path, content)] = s.tree.save path content := by
    rw [saveAll_cons]
    exact bind_pure (s.tree.save path content)
  constructor
  · intro tree h
    rw [hone] at h
    exact ⟨s.log, by rw [run_save, h]⟩
  · intro s' h
    rw [run_save] at h
    rw [hone]
    split at h
    · exact ⟨_, ‹_›⟩
    · cases h

theorem bind {b : Build ε Unit} {f : Unit → Build ε Unit} (hb : Saves s files b)
    (hf : ∀ tree log, Saves { s with tree, log } files' (f ())) : Saves s (files ++ files') (b >>= f) := by
  constructor
  · intro tree h
    rw [saveAll_append] at h
    cases hfirst : saveAll s.tree files with
    | error e =>
      rw [hfirst] at h
      cases h
    | ok tree' =>
      rw [hfirst] at h
      obtain ⟨log, hrun⟩ := hb.succeeds tree' hfirst
      obtain ⟨log', hrun'⟩ := (hf tree' log).succeeds tree h
      exact ⟨log', by rw [run_bind, hrun]; exact hrun'⟩
  · intro s' h
    obtain ⟨_, u, hfirst, hrest⟩ := run_bind_eq_ok.mp h
    obtain ⟨tree', htree'⟩ := hb.saved u hfirst
    obtain ⟨log, hrun⟩ := hb.succeeds tree' htree'
    obtain rfl := (Prod.mk.inj (hfirst.symm.trans hrun)).2
    obtain ⟨tree, htree⟩ := (hf tree' log).saved s' hrest
    exact ⟨tree, by rw [saveAll_append, htree']; exact htree⟩

theorem adapt (f : ε → ε') {b : Build ε Unit} (h : Saves s files b) :
    Saves s files (ExceptT.adapt f b : Build ε' Unit) where
  succeeds tree htree := by
    obtain ⟨log, hrun⟩ := h.succeeds tree htree
    exact ⟨log, run_adapt_eq_ok.mpr hrun⟩
  saved s' hrun := h.saved s' (run_adapt_eq_ok.mp hrun)

theorem get_bind {f : Site → Build ε Unit} (h : Saves s files (f s)) : Saves s files (get >>= f) := ⟨h.succeeds, h.saved⟩

theorem writePost (s : Site) (p : Post) : Saves s [pageOf s.config p] (Build.writePost Page.postTemplate false p) := by
  refine get_bind ?_
  have hboth := (save s SiteError.write (postPath s.config p) (Page.post s.config p)).bind
    (f := fun _ => Build.note
      { level := .debug, message := "wrote post"
        fields := [("path", .text (postPath s.config p)), ("comments", .int p.commentCount)] })
    fun tree log => note _ _
  exact hboth

theorem writePosts (s : Site) (posts : List Post) :
    Saves s (posts.map (pageOf s.config)) (posts.forM (Build.writePost Page.postTemplate false)) := by
  induction posts generalizing s with
  | nil => exact pure s
  | cons p posts ih => exact (writePost s p).bind fun tree log => ih { s with tree, log }

theorem deploy (s : Site) :
    Saves s [(scriptPath s.config, Page.script), (feedPath s.config, s.feed)] Build.deploy :=
  get_bind ((save s _ _ _).bind fun _ _ => (save _ _ _ _).bind fun _ _ => note _ _)

theorem emit_rendered (h : s.handlersOf rendered = [.deploy]) :
    Saves s [(scriptPath s.config, Page.script), (feedPath s.config, s.feed)] (Build.emit rendered) := by
  refine get_bind ?_
  rw [h]
  exact (note s _).bind fun tree log => adapt _ ((deploy { s with tree, log }).bind fun _ _ => pure _)

end Saves

/-- Rendering saves the files of the site with its bodies rendered, unless it has been called off. -/
theorem saves_render (hhandlers : s.handlersOf rendered = [.deploy]) (hgoes : cancelled = true → s.timeline = []) :
    ∃ b : Build SiteError Unit, s.run (Build.render cancelled) = s.bodied.run b ∧ Saves s.bodied s.bodied.outputs b := by
  refine ⟨_, by rw [render_eq, Build.renderBodies, run_change_bind]; rfl, ?_⟩
  have hposts : Saves s.bodied (s.bodied.timeline.map (pageOf s.bodied.config))
      (s.bodied.timeline.forM (Build.writePost Page.postTemplate cancelled)) := by
    cases cancelled with
    | false => exact .writePosts _ _
    | true =>
      have hnil : s.bodied.timeline = [] := by rw [bodied, hgoes rfl, List.map_nil]
      rw [hnil]
      exact .pure _
  rw [outputs, List.append_assoc]
  refine .get_bind (hposts.bind fun _ _ => (Saves.save _ _ _ _).bind fun _ _ => ?_)
  exact (Saves.note _ _).bind fun _ _ => Saves.emit_rendered hhandlers

theorem render_goes (h : s.run (Build.render cancelled) = (.ok (), s')) : cancelled = true → s.timeline = [] := by
  rintro rfl
  obtain ⟨tree, ⟨hgoes, -⟩, -⟩ | hshort := render_cases h
  · exact List.map_eq_nil_iff.mp (hgoes rfl)
  · rcases hshort.cause.2 with ⟨-, hfails⟩ | ⟨err, hfails⟩ <;> cases hfails

/-! ### Loading comments -/

/-- No post has comments that stop the building. -/
def Loadable (config : Config) (tree : Tree) (posts : List Post) : Prop :=
  config.failOnCommentError = false ∨ ∀ p ∈ posts, ∃ cs, p.loadComments tree = .ok cs

theorem loadable_of_ok (h : s.run Build.loadComments = (.ok (), s')) : Loadable s.config s.tree s.timeline := by
  cases hfail : s.config.failOnCommentError with
  | false => exact Or.inl hfail
  | true =>
    refine Or.inr fun p hp => ?_
    cases hload : p.loadComments s.tree with
    | ok cs => exact ⟨cs, rfl⟩
    | error e =>
      obtain ⟨_, -, _, -, herror⟩ := loadComments_fails h hfail ⟨p, hp, e, hload⟩
      cases herror

theorem run_loadComments_of_loadable (h : Loadable s.config s.tree s.timeline) :
    ∃ log, s.run Build.loadComments = (.ok (), { s with timeline := s.timeline.map (commented s.tree), log }) := by
  obtain ⟨turns, pool, hturns, hover, hrun⟩ := s.exists_takeTurns
  have htrack : Pool.Tracks (processPost s.config s.tree) s.timeline pool := Pool.Tracks.follow hturns
  have hnone := (all_loaded htrack hover h).1
  have hok : s.run Build.loadComments = (.ok (), (s.run Build.loadComments).2) := by rw [hrun, afterWork, hnone]
  obtain ⟨log, hlog⟩ := loadComments_eq_ok hok
  exact ⟨log, by rw [hok, hlog]⟩

/-- A signal with one handler succeeds as the handler does, whatever is in the log. -/
theorem run_emit_of_succeeds {signal : Text} {handler : Handler} (hhandlers : s.handlersOf signal = [handler])
    {u : Site} (h : ∀ log, ∃ log', ({ s with log } : Site).run (Build.handle handler) = (.ok (), { u with log := log' })) :
    ∃ log, s.run (Build.emit signal) = (.ok (), { u with log }) := by
  rw [Build.emit, run_get_bind, hhandlers]
  simp only [run_note_bind, note_eq]
  generalize (if s.logged = true then _ else s.log) = log
  obtain ⟨log', hrun⟩ := h log
  exact ⟨log', run_adapt_eq_ok.mpr (run_bind_eq_ok.mpr ⟨(), _, hrun, rfl⟩)⟩

/-- A scan succeeds if posts are found and none has comments that stop it. -/
theorem run_scan_of_loadable {found : List Post} (hhandlers : s.handlersOf scanned = [.loadComments])
    (hfound : timelineOf s.tree s.config.postsPath = .ok found) (hload : Loadable s.config s.tree found) :
    ∃ log, s.run Build.scan =
      (.ok (), { s with timeline := found.map (commented s.tree), slugPlaces := slugPlacesOf found, log }) := by
  rw [Build.scan, run_get_bind, run_lift_bind, hfound]
  simp only [run_change_bind, run_note_bind, note_eq]
  refine run_emit_of_succeeds (s := { s with timeline := found, slugPlaces := slugPlacesOf found, log := _ })
    (u := { s with timeline := found.map (commented s.tree), slugPlaces := slugPlacesOf found }) hhandlers fun log => ?_
  exact run_loadComments_of_loadable (s := { s with timeline := found, slugPlaces := slugPlacesOf found, log }) hload

theorem loadable_of_scan {found : List Post} (hhandlers : s.handlersOf scanned = [.loadComments])
    (hfound : timelineOf s.tree s.config.postsPath = .ok found) (h : s.run Build.scan = (.ok (), s')) :
    Loadable s.config s.tree found := by
  rw [Build.scan, run_get_bind, run_lift_bind, hfound] at h
  simp only [run_change_bind, run_note_bind, note_eq] at h
  obtain ⟨e, hload⟩ := run_emit_of_handler
    (s := { s with timeline := found, slugPlaces := slugPlacesOf found, log := _ }) hhandlers h
  rw [note_eq] at hload
  exact loadable_of_ok hload

/-! ### A whole building -/

/-- The site with posts that were found, their comments loaded and their bodies rendered. -/
def shownAs (s : Site) (posts : List Post) : Site :=
  { s with timeline := posts.map fun p => renderBody (commented s.tree p), slugPlaces := slugPlacesOf posts }

/-- The same site with its files written. -/
def writtenAs (s : Site) (posts : List Post) (tree : Tree) (log : List Log.Entry) : Site :=
  { s with
    tree, log, timeline := posts.map fun p => renderBody (commented s.tree p), slugPlaces := slugPlacesOf posts }

/-- A building can be done to its end: posts are found, none has comments that stop it, it has not been called off, and
the files can be saved. -/
structure Buildable (s : Site) (cancelled : Bool) (posts : List Post) (tree : Tree) : Prop where
  found : timelineOf s.tree s.config.postsPath = .ok posts
  loadable : Loadable s.config s.tree posts
  goes : cancelled = true → posts = []
  saved : saveAll s.tree (s.shownAs posts).outputs = .ok tree

/-- What rendering saves behind a scan. -/
theorem saves_render_scanned (hrendered : s.handlersOf rendered = [.deploy]) (posts : List Post) (log : List Log.Entry)
    (hgoes : cancelled = true → posts.map (commented s.tree) = []) :
    ∃ b : Build SiteError Unit,
      ({ s with timeline := posts.map (commented s.tree), slugPlaces := slugPlacesOf posts, log } : Site).run
        (Build.render cancelled) = (s.writtenAs posts s.tree log).run b ∧
      Saves (s.writtenAs posts s.tree log) (s.shownAs posts).outputs b := by
  obtain ⟨b, hb, hsaves⟩ := saves_render
    (s := { s with timeline := posts.map (commented s.tree), slugPlaces := slugPlacesOf posts, log }) hrendered hgoes
  have hbodied : bodied { s with timeline := posts.map (commented s.tree), slugPlaces := slugPlacesOf posts, log } =
      s.writtenAs posts s.tree log := by
    simp only [bodied, writtenAs, List.map_map]
    rfl
  rw [hbodied] at hb hsaves
  exact ⟨b, hb, hsaves⟩

theorem buildable_of_ok (hscanned : s.handlersOf scanned = [.loadComments]) (hrendered : s.handlersOf rendered = [.deploy])
    (h : s.run (Build.build cancelled) = (.ok (), s')) :
    ∃ posts tree log, Buildable s cancelled posts tree ∧ s' = s.writtenAs posts tree log := by
  obtain ⟨_, u, hscan, hrender⟩ := run_bind_eq_ok.mp h
  obtain ⟨posts, log, hfound, rfl⟩ := scan_eq_ok hscanned hscan
  have hgoes := render_goes hrender
  obtain ⟨b, hb, hsaves⟩ := saves_render_scanned hrendered posts log hgoes
  rw [hb] at hrender
  obtain ⟨tree, htree⟩ := hsaves.saved s' hrender
  obtain ⟨log', hrun⟩ := hsaves.succeeds tree htree
  exact ⟨posts, tree, log', ⟨hfound, loadable_of_scan hscanned hfound hscan,
    fun hcancelled => List.map_eq_nil_iff.mp (hgoes hcancelled), htree⟩, (Prod.mk.inj (hrender.symm.trans hrun)).2⟩

theorem Buildable.run_build {posts : List Post} (h : Buildable s cancelled posts t)
    (hscanned : s.handlersOf scanned = [.loadComments]) (hrendered : s.handlersOf rendered = [.deploy]) :
    ∃ log, s.run (Build.build cancelled) = (.ok (), s.writtenAs posts t log) := by
  obtain ⟨log, hscan⟩ := run_scan_of_loadable hscanned h.found h.loadable
  obtain ⟨b, hb, hsaves⟩ := saves_render_scanned hrendered posts log
    fun hcancelled => by rw [h.goes hcancelled, List.map_nil]
  obtain ⟨log', hrun⟩ := hsaves.succeeds t h.saved
  exact ⟨log', run_bind_eq_ok.mpr ⟨(), _, hscan, hb.trans hrun⟩⟩

/-! ### Files that are saved -/

/-- What was there before is there as it was, or a file has been written over it. -/
theorem kept_of_wrote (h : t.Wrote files t') {q : File.Place} (hthere : t.get? q ≠ none) :
    t'.get? q = t.get? q ∨ ∃ content, t'.get? q = some (.file content) := by
  by_cases hplace : q ∈ t.places files
  · obtain ⟨f, hf, rfl⟩ := List.mem_map.mp hplace
    exact Or.inr ⟨f.2, h.holds f hf⟩
  · exact Or.inl ((h.others q hplace).resolve_right fun hnew => hthere hnew.1)

/-- Where no two files have the same place, saving them writes them all, keeps the tree well formed, and changes nothing
but on the ways to them. -/
theorem saveAll_wrote (hl : t.LinkFree) (hpaths : ∀ f ∈ files, Tree.FilePath f.1) (hplaces : (t.places files).Nodup)
    (h : saveAll t files = .ok t') :
    t.Wrote files t' ∧ (t.WellFormed → t'.WellFormed) ∧ ∀ q, t'.get? q ≠ t.get? q → ∃ f ∈ files, q <+: t.place f.1 := by
  have hstep : ∀ f ∈ files, ∀ u u' : Tree,
      (u.workDir = t.workDir ∧ u.LinkFree ∧ (t.WellFormed → u.WellFormed) ∧
        ∀ q, u.get? q ≠ t.get? q → ∃ f ∈ files, q <+: t.place f.1) →
      u.save f.1 f.2 = .ok u' → u.Wrote [f] u' ∧
      u'.workDir = t.workDir ∧ u'.LinkFree ∧ (t.WellFormed → u'.WellFormed) ∧
        ∀ q, u'.get? q ≠ t.get? q → ∃ f ∈ files, q <+: t.place f.1 := by
    rintro f hf u u' ⟨hdir, hl, hwf, hchanged⟩ hsave
    have hfirst := Tree.save_wrote hl hsave
    have halong := Tree.save_along hl (hpaths f hf) hsave
    refine ⟨hfirst, hfirst.workDir.trans hdir, hfirst.linkFree hl, halong.wellFormed ∘ hwf, fun q hq => ?_⟩
    by_cases hsame : u'.get? q = u.get? q
    · exact hchanged q (hsame ▸ hq)
    · exact ⟨f, hf, Tree.place_congr hdir f.1 ▸ halong.changed q hsame⟩
  obtain ⟨hwrote, -, -, hrest⟩ := saveAll_wrote_keeping hstep hplaces ⟨rfl, hl, id, fun q hq => absurd rfl hq⟩ h
  exact ⟨hwrote, hrest⟩

/-- Files that are there can be saved over. -/
theorem saveAll_again (hl : t.LinkFree) (h : ∀ f ∈ files, Tree.FilePath f.1 ∧ Tree.Lookable f.1 ∧
      Tree.Reachable t (t.place f.1) ∧ ∃ old, t.get? (t.place f.1) = some (.file old)) :
    ∃ t', saveAll t files = .ok t' := by
  induction files generalizing t with
  | nil => exact ⟨t, rfl⟩
  | cons f files ih =>
    obtain ⟨⟨hpath, hlook, hreach, old, hfile⟩, hrest⟩ := List.forall_mem_cons.mp h
    have hsave := Tree.save_over hl hlook hpath hreach hfile f.2
    have hwrote := Tree.save_wrote hl hsave
    obtain ⟨t', ht'⟩ := ih (hwrote.linkFree hl) fun g hg => by
      obtain ⟨hpath', hlook', hreach', old', hfile'⟩ := hrest g hg
      rw [hwrote.place_eq]
      refine ⟨hpath', hlook', hreach'.mono hwrote.dirs, ?_⟩
      rcases kept_of_wrote hwrote (by rw [hfile']; exact Option.some_ne_none _) with heq | hover
      · exact ⟨old', heq.trans hfile'⟩
      · exact hover
    exact ⟨t', by rw [saveAll_cons, hsave]; exact ht'⟩

/-! ### The files of a site -/

theorem filePath_of_output {c : Config} {path : Text} (h : Output c path) : Tree.FilePath path := ⟨h.clean, h.last⟩

/-- The names of a file of a site behind the output directory: none has an ending of comments, and the last is not that of
a post. -/
theorem relativePlaces_apart (hslugs : ∀ p ∈ s.timeline, Slug.isSlug p.slug = true) {names : List Text}
    (h : names ∈ s.relativePlaces) :
    (∃ init n, names = init ++ [n] ∧ isPostPath n = false) ∧
      ∀ n ∈ names, ∀ ending ∈ Comment.endings, Text.endsWith n ending = false := by
  rcases List.mem_append.mp h with h | h
  · obtain ⟨p, hp, rfl⟩ := List.mem_map.mp h
    have hslug : ∀ ending ∈ Comment.endings, Text.endsWith p.slug ending = false := by
      -- A slug has no dot.
      intro ending hending
      rw [Bool.eq_false_iff, ne_eq, Text.endsWith, List.isSuffixOf_iff_suffix]
      intro hsuffix
      have hdots : ∀ ending ∈ Comment.endings, ('.' : UInt8) ∈ ending := by decide
      have hall := hslugs p hp
      simp only [Slug.isSlug, Bool.and_eq_true, List.all_eq_true] at hall
      exact absurd (hall.1.1.2 _ (hsuffix.subset (hdots ending hending))) (by decide)
    refine ⟨⟨["posts", p.slug], "index.html", rfl, by decide⟩, ?_⟩
    simp only [postPlace, List.forall_mem_cons, List.not_mem_nil, false_implies, implies_true, and_true]
    exact ⟨by decide, hslug, by decide⟩
  · simp only [List.mem_cons, List.not_mem_nil, or_false] at h
    rcases h with rfl | rfl | rfl
    · exact ⟨⟨[], "index.html", rfl, by decide⟩, by decide⟩
    · exact ⟨⟨["assets", "js"], "staticman_comments.js", rfl, by decide⟩, by decide⟩
    · exact ⟨⟨[], "comments.xml", rfl, by decide⟩, by decide⟩

/-- What is written for a site are neither posts nor comments. -/
theorem enlarged_of_saveAll (hl : s.tree.LinkFree) (hwf : s.tree.WellFormed) (hrooted : s.tree.Rooted)
    (hslugs : ∀ p ∈ s.timeline, Slug.isSlug p.slug = true) (hdistinct : (s.timeline.map (·.slug)).Nodup)
    (hapart : ∀ n ∈ Path.components s.config.outputPath, ∀ ending ∈ Comment.endings, Text.endsWith n ending = false)
    (h : saveAll s.tree s.outputs = .ok t') : Enlarged s.tree t' := by
  have hnames : ∀ p ∈ s.timeline, Path.IsName p.slug := fun p hp => Slug.isName_of_isSlug (hslugs p hp)
  have hplaces := places_outputs hnames
  have hfiles : ∀ f ∈ s.outputs, Tree.FilePath f.1 := fun f hf => filePath_of_output (output_of_mem_outputs hnames hf)
  obtain ⟨hwrote, hwf', hchanged⟩ := saveAll_wrote hl hfiles (hplaces ▸ nodup_outputPlaces hdistinct) h
  have hmarked : ∀ dir n, Ends Comment.endings n → t'.get? (dir ++ [n]) = s.tree.get? (dir ++ [n]) := by
    rintro dir n ⟨ending, hending, hends⟩
    by_contra hdiffers
    obtain ⟨f, hf, hway⟩ := hchanged _ hdiffers
    rcases hrooted.way_cases hway with hdir | ⟨init, m, heq, hm⟩
    · exact hdiffers (by rw [hdir, hwrote.dirs _ hdir])
    obtain rfl := List.singleton_inj.mp (List.append_inj' heq rfl).2
    obtain ⟨names, hmem, hpath, hne, hproper⟩ := relative_of_mem_outputs hnames hf
    rw [hpath, Path.components_join hne hproper] at hm
    have hplain : Text.endsWith n ending = false := by
      rcases List.mem_append.mp hm with hm | hm
      · exact hapart n hm ending hending
      · exact (relativePlaces_apart hslugs hmem).2 n hm ending hending
    rw [hends] at hplain
    cases hplain
  refine ⟨⟨hwrote.workDir, hl, hwrote.linkFree hl, hwf, hwf' hwf, hrooted, hwrote.dirs, fun q hq => ?_, hmarked⟩,
    fun q hq => ?_⟩
  · rcases kept_of_wrote hwrote hq with heq | ⟨content, hfile⟩
    · exact heq ▸ hq
    · exact hfile ▸ Option.some_ne_none _
  · by_cases hplace : q ∈ s.tree.places s.outputs
    · obtain ⟨f, hf, rfl⟩ := List.mem_map.mp hplace
      obtain ⟨names, hmem, hpath, hne, hproper⟩ := relative_of_mem_outputs hnames hf
      obtain ⟨⟨init, n, rfl, hpost⟩, -⟩ := relativePlaces_apart hslugs hmem
      refine Or.inr ⟨s.tree.place s.config.outputPath ++ init, n, f.2, ?_, hpost, hwrote.holds f hf⟩
      rw [hpath, Tree.place_join hne hproper, List.append_assoc]
    · exact Or.inl ((hwrote.others q hplace).resolve_left hq)

/-! ### Building again -/

/-- The trees hold the same, but two feeds without items each tell when they were written. -/
def SameFiles (config : Config) (now now' : Moment) (t t' : Tree) : Prop :=
  ∀ q, t'.get? q = t.get? q ∨
    q = feedPlaceOf t config ∧ ∃ feed : Feed, feed.items = [] ∧ t.get? q = some (.file (feed.rss now)) ∧
      t'.get? q = some (.file (feed.rss now'))

theorem mem_outputs_cases {f : Text × Text} (h : f ∈ s.outputs) (now : Moment) :
    f ∈ outputs { s with now } ∨ f = (feedPath s.config, s.feed) := by
  rw [outputs, List.mem_append] at h ⊢
  rcases h with h | h
  · exact Or.inl (Or.inl h)
  · simp only [List.mem_cons, List.not_mem_nil, or_false] at h
    rcases h with rfl | rfl
    · exact Or.inl (Or.inr List.mem_cons_self)
    · exact Or.inr rfl

/-- The files of a site that have been saved can be saved again, be it at another moment, and the tree stays the same. -/
theorem saveAll_twice (hl : s.tree.LinkFree) (hnames : ∀ p ∈ s.timeline, Path.IsName p.slug)
    (hdistinct : (s.timeline.map (·.slug)).Nodup) (h : saveAll s.tree s.outputs = .ok t) (now : Moment) :
    ∃ t', saveAll t (outputs { s with now }) = .ok t' ∧ SameFiles s.config s.now now t t' := by
  have hplaces : ∀ now, s.tree.places (outputs { s with now }) = s.outputPlaces := fun now =>
    places_outputs (s := { s with now }) hnames
  have hfiles : ∀ now, ∀ f ∈ outputs { s with now }, Tree.FilePath f.1 := fun now f hf =>
    filePath_of_output (output_of_mem_outputs (s := { s with now }) hnames hf)
  have hnodup : ∀ now, (s.tree.places (outputs { s with now })).Nodup := fun now =>
    hplaces now ▸ nodup_outputPlaces hdistinct
  obtain ⟨hwrote, -, -⟩ := saveAll_wrote hl (hfiles s.now) (hnodup s.now) h
  have hl' := hwrote.linkFree hl
  -- Each file to be saved has the path of one that was saved.
  have hthere : ∀ f ∈ outputs { s with now }, ∃ g ∈ s.outputs, g.1 = f.1 := by
    intro f hf
    rcases mem_outputs_cases hf s.now with hf | rfl
    · exact ⟨f, hf, rfl⟩
    · exact ⟨_, mem_outputs_feed s, rfl⟩
  have hover : ∀ f ∈ outputs { s with now }, Tree.FilePath f.1 ∧ Tree.Lookable f.1 ∧
      Tree.Reachable t (t.place f.1) ∧ ∃ old, t.get? (t.place f.1) = some (.file old) := by
    intro f hf
    obtain ⟨g, hg, heq⟩ := hthere f hf
    rw [hwrote.place_eq]
    exact ⟨hfiles now f hf, heq ▸ hwrote.lookable g hg, heq ▸ hwrote.way g hg, g.2, heq ▸ hwrote.holds g hg⟩
  obtain ⟨t', ht'⟩ := saveAll_again hl' hover
  obtain ⟨hwrote', -, hchanged⟩ := saveAll_wrote hl' (hfiles now) (hwrote.places_eq _ ▸ hnodup now) ht'
  refine ⟨t', ht', fun q => ?_⟩
  by_cases hplace : q ∈ t.places (outputs { s with now })
  · obtain ⟨f, hf, rfl⟩ := List.mem_map.mp hplace
    rcases mem_outputs_cases hf s.now with hsame | rfl
    · exact Or.inl (by rw [hwrote'.holds f hf, hwrote.place_eq, hwrote.holds f hsame])
    · have hold := hwrote.holds _ (mem_outputs_feed s)
      rw [← hwrote.place_eq] at hold
      have hnew := hwrote'.holds _ (mem_outputs_feed { s with now })
      by_cases hitems : (Feed.ofPosts s.config s.timeline s.config.feedLimit).items = []
      · exact Or.inr ⟨place_feedPath t s.config, _, hitems, hold, hnew⟩
      · refine Or.inl (hnew.trans (Eq.trans ?_ hold.symm))
        exact congrArg (fun text => some (File.Node.file text)) (Feed.rss_eq_of_items hitems s.now now)
  · refine Or.inl ((hwrote'.others q hplace).resolve_right fun ⟨hnone, hdir⟩ => ?_)
    -- A new directory would be on the way to a file that was there already.
    obtain ⟨f, hf, hway⟩ := hchanged q (by rw [hnone, hdir]; exact nofun)
    have hne : q ≠ t.place f.1 := fun heq => hplace (heq ▸ List.mem_map_of_mem hf)
    rw [(hover f hf).2.2.1.way q hway hne] at hnone
    cases hnone

/-- A building that has succeeded succeeds again, at another moment and however the workers take turns then. It leaves
the files as they are, and yields the same posts with the same bodies and comments. The output directory may stand anywhere,
among the posts too, but no name on the way to it may have an ending by which comments are found. -/
theorem build_again (hl : s.tree.LinkFree) (hwf : s.tree.WellFormed) (hrooted : s.tree.Rooted)
    (hscanned : s.handlersOf scanned = [.loadComments]) (hrendered : s.handlersOf rendered = [.deploy])
    (hapart : ∀ n ∈ Path.components s.config.outputPath, ∀ ending ∈ Comment.endings, Text.endsWith n ending = false)
    (h : s.run (Build.build cancelled) = (.ok (), s')) (now : Moment) (schedule : Schedule) :
    ∃ s'', ({ s' with now, schedule } : Site).run (Build.build cancelled) = (.ok (), s'') ∧
      s''.timeline = s'.timeline ∧ s''.slugPlaces = s'.slugPlaces ∧
      SameFiles s.config s.now now s'.tree s''.tree := by
  obtain ⟨posts, tree, log, hbuilt, rfl⟩ := buildable_of_ok hscanned hrendered h
  obtain ⟨hfresh, hdistinct⟩ := timelineOf_fresh hbuilt.found
  have hslugs : ∀ p ∈ (s.shownAs posts).timeline, Slug.isSlug p.slug = true := by
    intro p hp
    obtain ⟨q, hq, rfl⟩ := List.mem_map.mp hp
    exact (hfresh q hq).slug
  have hdistinct' : ((s.shownAs posts).timeline.map (·.slug)).Nodup := by
    rw [shownAs, List.map_map]
    exact hdistinct
  -- The same posts are found with the same comments.
  have henlarged : Enlarged s.tree tree :=
    enlarged_of_saveAll (s := s.shownAs posts) hl hwf hrooted hslugs hdistinct' hapart hbuilt.saved
  have hcomments : ∀ p ∈ posts, p.loadComments tree = p.loadComments s.tree := fun p hp =>
    henlarged.loadComments_eq hbuilt.found hp
  have htimeline : (posts.map fun p => renderBody (commented tree p)) =
      posts.map fun p => renderBody (commented s.tree p) :=
    List.map_congr_left fun p hp => by rw [commented, commented, hcomments p hp]
  -- The same files are saved over those of the first building.
  obtain ⟨t', ht', hsame⟩ := saveAll_twice (s := s.shownAs posts) hl
    (fun p hp => Slug.isName_of_isSlug (hslugs p hp)) hdistinct' hbuilt.saved now
  have hbuilt' : Buildable { s.writtenAs posts tree log with now, schedule } cancelled posts t' := by
    refine ⟨henlarged.timelineOf_eq hbuilt.found,
      hbuilt.loadable.imp_right fun hall p hp => hcomments p hp ▸ hall p hp, hbuilt.goes, ?_⟩
    rw [← ht', shownAs, writtenAs]
    simp only [htimeline]
    rfl
  obtain ⟨log', hrun⟩ := hbuilt'.run_build hscanned hrendered
  exact ⟨_, hrun, htimeline, rfl, hsame⟩

/-- A post in the directory that the site is written to. -/
def shared : Tree where
  entries := [(["posts"], .dir), (["posts", "a.md"], .file "Hello.")]

theorem shared_again :
    ∃ s', (withComments { outputDir := "posts" } shared).run (Build.build false) = (.ok (), s') ∧
      ∃ s'', ({ s' with now := ⟨1, 0, 0⟩, schedule := [] } : Site).run (Build.build false) = (.ok (), s'') ∧
        s''.timeline = s'.timeline ∧ s''.slugPlaces = s'.slugPlaces ∧
        SameFiles { outputDir := "posts" } Moment.zero ⟨1, 0, 0⟩ s'.tree s''.tree := by
  have hl : shared.LinkFree := Tree.linkFree_of_entries (by simp [shared])
  have hwf : shared.WellFormed := ⟨by decide, by decide⟩
  have hrooted : shared.Rooted := Tree.rooted_of_entries (by decide) rfl
  have hok : ((withComments { outputDir := "posts" } shared).run (Build.build false)).1 = .ok () := by decide +kernel
  exact ⟨_, Prod.ext hok rfl, build_again (s := withComments { outputDir := "posts" } shared) hl hwf hrooted rfl rfl
    (by decide) (Prod.ext hok rfl) ⟨1, 0, 0⟩ []⟩

end Site

end Marginalia
