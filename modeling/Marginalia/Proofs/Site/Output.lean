import Mathlib
import Marginalia.Proofs.File.Places
import Marginalia.Proofs.Pool.Outcome
import Marginalia.Proofs.Site.Running
import Marginalia.Proofs.Site.Scanning

/-!
What a building writes. Every step that writes is a list of files that it puts into the tree, and putting steps
together puts their lists together as long as no two files share a place. The places of a site are told apart by
the slugs of its posts, which are names. So a building that succeeds leaves one page for each post, the list of
posts, the script and the feed, all below the output directory, and every other file as it was.
-/

namespace Marginalia

open File (Tree)

/-- A slug stands for itself in a path. -/
theorem Slug.isName_of_isSlug {t : Text} (h : isSlug t = true) : Path.IsName t := by
  simp only [isSlug, Bool.and_eq_true, Bool.not_eq_true', List.isEmpty_eq_false_iff] at h
  obtain ⟨⟨⟨hne, hall⟩, -⟩, -⟩ := h
  have hmem : ∀ c, isSlugOctet c = false → c ∉ t := fun c hc hmem =>
    Bool.false_ne_true (hc.symm.trans (List.all_eq_true.mp hall c hmem))
  have hdot : ('.' : UInt8) ∉ t := hmem _ (by decide)
  refine ⟨hne, ?_, ?_, hmem _ (by decide)⟩
  · rintro rfl
    exact hdot (by decide)
  · rintro rfl
    exact hdot (by decide)

namespace Site

variable {ε : Type} {s s' s'' : Site} {config : Config} {path content : Text} {files files' : List (Text × Text)}

/-! ### Steps that write -/

/-- The second site is the first with files written, and with no other change but in the log. -/
structure Puts (s : Site) (files : List (Text × Text)) (s' : Site) : Prop where
  wrote : s.tree.Wrote files s'.tree
  config : s'.config = s.config
  timeline : s'.timeline = s.timeline
  handlers : s'.handlers = s.handlers
  now : s'.now = s.now

namespace Puts

theorem refl (s : Site) : Puts s [] s := ⟨.refl s.tree, rfl, rfl, rfl, rfl⟩

theorem trans (h : Puts s files s') (h' : Puts s' files' s'')
    (hdisjoint : (s.tree.places files).Disjoint (s.tree.places files')) : Puts s (files ++ files') s'' where
  wrote := h.wrote.trans h'.wrote hdisjoint
  config := h'.config.trans h.config
  timeline := h'.timeline.trans h.timeline
  handlers := h'.handlers.trans h.handlers
  now := h'.now.trans h.now

theorem note (s : Site) (e : Log.Entry) : Puts s [] (s.note e) :=
  ⟨(s.note_tree e).symm ▸ .refl s.tree, s.note_config e, s.note_timeline e, s.note_handlers e, s.note_now e⟩

theorem save {wrap : File.Error → ε} (hl : s.tree.LinkFree) (h : s.run (Build.save wrap path content) = (.ok (), s')) :
    Puts s [(path, content)] s' := by
  rw [run_save] at h
  split at h
  · rename_i tree hsave
    obtain rfl := (Prod.mk.inj h).2
    exact ⟨Tree.save_wrote hl hsave, rfl, rfl, rfl, rfl⟩
  · cases h

theorem feed (h : Puts s files s') : s'.feed = s.feed := by
  rw [Site.feed, Site.feed, h.config, h.timeline, h.now]

theorem handlersOf (h : Puts s files s') (signal : Text) : s'.handlersOf signal = s.handlersOf signal := by
  rw [Site.handlersOf, Site.handlersOf, h.handlers]

theorem linkFree (h : Puts s files s') (hl : s.tree.LinkFree) : s'.tree.LinkFree := h.wrote.linkFree hl

theorem places_eq (h : Puts s files s') (fs : List (Text × Text)) : s'.tree.places fs = s.tree.places fs :=
  h.wrote.places_eq fs

theorem writePost {cancelled : Bool} {p : Post} (hl : s.tree.LinkFree)
    (h : s.run (Build.writePost Page.postTemplate cancelled p) = (.ok (), s')) :
    Puts s [(postPath s.config p, Page.post s.config p)] s' := by
  cases cancelled with
  | true => cases h
  | false =>
    rw [writePost_eq, if_neg Bool.false_ne_true, run_get_bind] at h
    obtain ⟨_, t, hsave, hnote⟩ := run_bind_eq_ok.mp h
    obtain rfl := (Prod.mk.inj hnote).2
    exact (save hl hsave).trans (note t _) (List.disjoint_nil_right _)

theorem writePosts {cancelled : Bool} {posts : List Post} (hl : s.tree.LinkFree)
    (hdistinct : (s.tree.places (posts.map fun p => (postPath s.config p, Page.post s.config p))).Nodup)
    (h : s.run (posts.forM (Build.writePost Page.postTemplate cancelled)) = (.ok (), s')) :
    Puts s (posts.map fun p => (postPath s.config p, Page.post s.config p)) s' := by
  induction posts generalizing s with
  | nil =>
    obtain rfl := (Prod.mk.inj h).2
    exact refl s
  | cons p posts ih =>
    rw [run_forM_cons] at h
    obtain ⟨_, t, hfirst, hrest⟩ := run_bind_eq_ok.mp h
    have hp := writePost hl hfirst
    rw [List.map_cons, Tree.places, List.map_cons, List.nodup_cons] at hdistinct
    rw [List.map_cons, ← List.singleton_append]
    refine hp.trans ?_ ?_
    · rw [← hp.config]
      refine ih (hp.linkFree hl) ?_ hrest
      rw [hp.config, hp.places_eq]
      exact hdistinct.2
    · exact List.singleton_disjoint.mpr hdistinct.1

theorem deploy (hl : s.tree.LinkFree)
    (hdistinct : (s.tree.places [(scriptPath s.config, Page.script), (feedPath s.config, s.feed)]).Nodup)
    (h : s.run Build.deploy = (.ok (), s')) :
    Puts s [(scriptPath s.config, Page.script), (feedPath s.config, s.feed)] s' := by
  rw [Build.deploy, run_get_bind] at h
  obtain ⟨_, t, hscript, h⟩ := run_bind_eq_ok.mp h
  obtain ⟨_, u, hfeed, h⟩ := run_bind_eq_ok.mp h
  obtain rfl := (Prod.mk.inj h).2
  have ht := save hl hscript
  have hu := save (ht.linkFree hl) hfeed
  refine (ht.trans hu ?_).trans (note u _) (List.disjoint_nil_right _)
  exact List.singleton_disjoint.mpr (List.nodup_cons.mp hdistinct).1

end Puts

/-! ### The files of a site -/

/-- The files that are written for a site, each with its path and content: the page of each post, the list of posts,
the script and the feed. -/
def outputs (s : Site) : List (Text × Text) :=
  s.timeline.map (fun p => (postPath s.config p, Page.post s.config p)) ++
    [(indexPath s.config, Page.index s.config s.timeline)] ++
    [(scriptPath s.config, Page.script), (feedPath s.config, s.feed)]

/-- Where the page of a post stands below the output directory. -/
def postPlace (p : Post) : File.Place := ["posts", p.slug, "index.html"]

def indexPlace : File.Place := ["index.html"]

def scriptPlace : File.Place := ["assets", "js", "staticman_comments.js"]

def feedPlace : File.Place := ["comments.xml"]

/-- The places of the files of a site below the output directory. -/
def relativePlaces (s : Site) : List File.Place := s.timeline.map postPlace ++ [indexPlace, scriptPlace, feedPlace]

/-- Where the files of a site stand. -/
def outputPlaces (s : Site) : List File.Place := s.relativePlaces.map (s.tree.place s.config.outputPath ++ ·)

theorem isName_of_mem_postPlace {p : Post} (h : Path.IsName p.slug) : ∀ n ∈ postPlace p, Path.IsName n := by
  simp only [postPlace, List.forall_mem_cons, List.not_mem_nil, false_implies, implies_true, and_true]
  exact ⟨by decide, h, by decide⟩

theorem scriptPath_eq (c : Config) : scriptPath c = Path.join (c.outputPath :: scriptPlace) := by
  have hjoin : Text.join "/" ["assets", Page.scriptFile] = Text.join "/" scriptPlace := by decide
  rw [scriptPath, Path.join_eq_clean (List.cons_ne_nil _ _) (by decide), hjoin,
    Path.join_eq_clean (by decide : scriptPlace ≠ []) (by decide)]

/-- The paths of the files are those of the output directory with their relative places behind. -/
theorem outputs_paths (s : Site) :
    s.outputs.map (·.1) = s.relativePlaces.map fun names => Path.join (s.config.outputPath :: names) := by
  simp only [outputs, relativePlaces, List.map_append, List.map_map, List.map_cons, List.map_nil, scriptPath_eq,
    List.append_assoc, List.singleton_append]
  rfl

/-- A file of a site has a path that is made of the output directory and proper names. -/
theorem relative_of_mem_outputs (h : ∀ p ∈ s.timeline, Path.IsName p.slug) {f : Text × Text} (hf : f ∈ s.outputs) :
    ∃ names ∈ s.relativePlaces, f.1 = Path.join (s.config.outputPath :: names) ∧ names ≠ [] ∧ ∀ n ∈ names, Path.IsName n := by
  have hpath : f.1 ∈ s.outputs.map (·.1) := List.mem_map_of_mem hf
  rw [outputs_paths] at hpath
  obtain ⟨names, hmem, heq⟩ := List.mem_map.mp hpath
  refine ⟨names, hmem, heq.symm, ?_⟩
  rcases List.mem_append.mp hmem with hmem | hmem
  · obtain ⟨p, hp, rfl⟩ := List.mem_map.mp hmem
    exact ⟨List.cons_ne_nil _ _, isName_of_mem_postPlace (h p hp)⟩
  · have hassets : ∀ names ∈ [indexPlace, scriptPlace, feedPlace], names ≠ [] ∧ ∀ n ∈ names, Path.IsName n := by decide
    exact hassets names hmem

theorem place_postPath (t : Tree) (c : Config) {p : Post} (h : Path.IsName p.slug) :
    t.place (postPath c p) = t.place c.outputPath ++ postPlace p :=
  t.place_join (List.cons_ne_nil _ _) (isName_of_mem_postPlace h)

theorem place_indexPath (t : Tree) (c : Config) : t.place (indexPath c) = t.place c.outputPath ++ indexPlace :=
  t.place_join (List.cons_ne_nil _ _) (by decide)

theorem place_feedPath (t : Tree) (c : Config) : t.place (feedPath c) = t.place c.outputPath ++ feedPlace :=
  t.place_join (List.cons_ne_nil _ _) (by decide)

theorem place_scriptPath (t : Tree) (c : Config) : t.place (scriptPath c) = t.place c.outputPath ++ scriptPlace := by
  rw [scriptPath_eq]
  exact t.place_join (List.cons_ne_nil _ _) (by decide)

theorem places_outputs (h : ∀ p ∈ s.timeline, Path.IsName p.slug) : s.tree.places s.outputs = s.outputPlaces := by
  simp only [Tree.places, outputs, outputPlaces, relativePlaces, List.map_append, List.map_map, List.map_cons,
    List.map_nil, place_indexPath, place_scriptPath, place_feedPath, List.append_assoc, List.singleton_append]
  congr 1
  exact List.map_congr_left fun p hp => place_postPath s.tree s.config (h p hp)

/-- No two files of a site have the same place, since no two posts have the same slug. -/
theorem nodup_outputPlaces (h : (s.timeline.map (·.slug)).Nodup) : s.outputPlaces.Nodup := by
  have hposts : (s.timeline.map postPlace).Nodup := by
    have hmap : s.timeline.map postPlace =
        (s.timeline.map (·.slug)).map fun slug => [Text.ofString "posts", slug, Text.ofString "index.html"] := by
      rw [List.map_map]
      rfl
    rw [hmap]
    exact h.map fun a b hab => by simpa using hab
  have hshared : ∀ q ∈ [indexPlace, scriptPlace, feedPlace], q.head? ≠ some (Text.ofString "posts") := by decide
  -- The pages of posts are told from the other files by the first name already.
  refine List.Nodup.map (List.append_right_injective _) (hposts.append (by decide) fun q hq hq' => ?_)
  obtain ⟨p, -, rfl⟩ := List.mem_map.mp hq
  exact hshared _ hq' rfl

/-! ### Signals -/

/-- A signal with one handler runs that handler. -/
theorem run_emit_of_handler {signal : Text} {handler : Handler} (hhandlers : s.handlersOf signal = [handler])
    (h : s.run (Build.emit signal) = (.ok (), s')) : ∃ e, (s.note e).run (Build.handle handler) = (.ok (), s') := by
  rw [Build.emit, run_get_bind, hhandlers] at h
  simp only [run_note_bind] at h
  rw [run_adapt_eq_ok, run_forM_cons] at h
  obtain ⟨_, t, hhandle, hend⟩ := run_bind_eq_ok.mp h
  obtain rfl := (Prod.mk.inj hend).2
  exact ⟨_, hhandle⟩

/-- A post with the comments that could be loaded. -/
def commented (tree : Tree) (p : Post) : Post := { p with comments := (p.loadComments tree).toOption }

theorem loadComments_eq_ok (h : s.run Build.loadComments = (.ok (), s')) :
    ∃ log, s' = { s with timeline := s.timeline.map (commented s.tree), log } := by
  obtain ⟨turns, pool, hturns, hover, hrun⟩ := s.exists_takeTurns
  have htrack : Pool.Tracks (processPost s.config s.tree) s.timeline pool := Pool.Tracks.follow hturns
  rw [hrun, afterWork, Prod.mk.injEq] at h
  have hnone : pool.error = none := by
    cases herror : pool.error with
    | none => rfl
    | some e => rw [herror] at h; cases h.1
  have hok : s.config.failOnCommentError = false ∨ ∀ p ∈ s.timeline, ∃ cs, p.loadComments s.tree = .ok cs := by
    cases hfail : s.config.failOnCommentError with
    | false => exact Or.inl rfl
    | true =>
      refine Or.inr fun p hp => ?_
      cases hload : p.loadComments s.tree with
      | ok cs => exact ⟨cs, rfl⟩
      | error e =>
        have hsome := (error_isSome_iff_load htrack hover hfail).mpr ⟨p, hp, e, hload⟩
        rw [hnone] at hsome
        cases hsome
  have hposts : pool.posts = s.timeline.map (commented s.tree) := (all_loaded htrack hover hok).2
  exact ⟨_, by rw [← h.2, hposts]⟩

/-- A scan that succeeds finds posts and loads their comments. -/
theorem scan_eq_ok (hhandlers : s.handlersOf scanned = [.loadComments]) (h : s.run Build.scan = (.ok (), s')) :
    ∃ found log, timelineOf s.tree s.config.postsPath = .ok found ∧
      s' = { s with timeline := found.map (commented s.tree), slugPlaces := slugPlacesOf found, log } := by
  rw [Build.scan, run_get_bind, run_lift_bind] at h
  split at h
  swap
  · cases h
  rename_i found hfound
  simp only [run_change_bind, run_note_bind] at h
  obtain ⟨e, hload⟩ := run_emit_of_handler (by rw [handlersOf, note_handlers]; exact hhandlers) h
  obtain ⟨log, rfl⟩ := loadComments_eq_ok hload
  refine ⟨found, log, hfound, ?_⟩
  simp only [note_eq]

theorem Puts.emit_rendered (hl : s.tree.LinkFree) (hhandlers : s.handlersOf rendered = [.deploy])
    (hdistinct : (s.tree.places [(scriptPath s.config, Page.script), (feedPath s.config, s.feed)]).Nodup)
    (h : s.run (Build.emit rendered) = (.ok (), s')) :
    Puts s [(scriptPath s.config, Page.script), (feedPath s.config, s.feed)] s' := by
  obtain ⟨e, hdeploy⟩ := run_emit_of_handler hhandlers h
  have hnote := Puts.note s e
  have hputs := Puts.deploy (hnote.linkFree hl) (by rw [hnote.config, hnote.feed, hnote.places_eq]; exact hdistinct) hdeploy
  rw [hnote.config, hnote.feed] at hputs
  exact hnote.trans hputs (List.disjoint_nil_left _)

/-- Writing all pages puts the files of the site with its bodies rendered. -/
theorem Puts.render {cancelled : Bool} (hl : s.tree.LinkFree) (hhandlers : s.handlersOf rendered = [.deploy])
    (hdistinct : (s.tree.places (outputs { s with timeline := s.timeline.map renderBody })).Nodup)
    (h : s.run (Build.render cancelled) = (.ok (), s')) :
    Puts { s with timeline := s.timeline.map renderBody }
      (outputs { s with timeline := s.timeline.map renderBody }) s' := by
  rw [render_eq, Build.renderBodies, run_change_bind] at h
  have hl' : ({ s with timeline := s.timeline.map renderBody } : Site).tree.LinkFree := hl
  have hhandlers' : ({ s with timeline := s.timeline.map renderBody } : Site).handlersOf rendered = [.deploy] :=
    hhandlers
  have htree : ({ s with timeline := s.timeline.map renderBody } : Site).tree = s.tree := rfl
  -- Once the bodies are rendered no step changes the posts, so what is written is fixed by the site at this point.
  rw [← htree] at hdistinct
  generalize ({ s with timeline := s.timeline.map renderBody } : Site) = r at h hl' hhandlers' hdistinct ⊢
  rw [run_get_bind] at h
  obtain ⟨_, t, hposts, h⟩ := run_bind_eq_ok.mp h
  obtain ⟨_, u, hindex, h⟩ := run_bind_eq_ok.mp h
  rw [run_note_bind] at h
  generalize hnote : u.note _ = w at h
  rw [outputs, Tree.places, List.map_append, List.map_append, List.nodup_append', List.nodup_append'] at hdistinct
  obtain ⟨⟨hpages, -, hindexOnly⟩, hassets, hassetsOnly⟩ := hdistinct
  have ht := Puts.writePosts hl' hpages hposts
  have hu := ht.trans (Puts.save (ht.linkFree hl') hindex) hindexOnly
  have hw := hu.trans (hnote ▸ Puts.note u _) (List.disjoint_nil_right _)
  rw [List.append_nil] at hw
  have hend := Puts.emit_rendered (hw.linkFree hl') (by rw [hw.handlersOf]; exact hhandlers')
    (by rw [hw.config, hw.feed, hw.places_eq]; exact hassets) h
  rw [hw.config, hw.feed] at hend
  exact hw.trans hend (by rw [Tree.places, List.map_append]; exact hassetsOnly)

/-! ### Building -/

/-- A site that has been written out to the files of a tree. -/
structure Published (tree : Tree) (s : Site) : Prop where
  workDir : s.tree.workDir = tree.workDir
  /-- No slug leads out of the directory for pages. -/
  slugs : ∀ p ∈ s.timeline, Path.IsName p.slug
  places : s.tree.places s.outputs = s.outputPlaces
  distinct : s.outputPlaces.Nodup
  holds : ∀ f ∈ s.outputs, s.tree.readFile f.1 = .ok f.2
  /-- The files are those of the site and, elsewhere, those that were there before. -/
  files : ∀ place content, s.tree.get? place = some (.file content) ↔
    (∃ f ∈ s.outputs, s.tree.place f.1 = place ∧ f.2 = content) ∨
      place ∉ s.outputPlaces ∧ tree.get? place = some (.file content)
  /-- Apart from its files there are new directories only. -/
  others : ∀ place, place ∉ s.outputPlaces →
    s.tree.get? place = tree.get? place ∨ tree.get? place = none ∧ s.tree.get? place = some .dir

theorem clean_of_mem_outputs (hslugs : ∀ p ∈ s.timeline, Path.IsName p.slug) {f : Text × Text} (hf : f ∈ s.outputs) :
    Path.clean f.1 = f.1 := by
  obtain ⟨names, -, heq, hne, hnames⟩ := relative_of_mem_outputs hslugs hf
  rw [heq]
  exact Path.clean_join hne fun n hn => (hnames n hn).1

theorem Puts.published (hl : s.tree.LinkFree) (h : Puts s s.outputs s')
    (hnames : ∀ p ∈ s.timeline, Path.IsName p.slug) (hslugs : (s.timeline.map (·.slug)).Nodup) :
    Published s.tree s' := by
  have hwrote := h.wrote
  have houtputs : s'.outputs = s.outputs := by rw [outputs, outputs, h.config, h.timeline, h.feed]
  rw [← houtputs] at hwrote
  rw [← h.timeline] at hnames hslugs
  have hplaces : s'.tree.places s'.outputs = s'.outputPlaces := places_outputs hnames
  have hplaces' : s.tree.places s'.outputs = s'.outputPlaces := (h.places_eq s'.outputs).symm.trans hplaces
  have hspelled := hwrote.place_eq
  exact {
    workDir := hwrote.workDir
    slugs := hnames
    places := hplaces
    distinct := nodup_outputPlaces hslugs
    holds := fun f hf => hwrote.readFile hl hf (clean_of_mem_outputs hnames hf)
    files := fun place content => by
      simp only [hspelled]
      exact hplaces' ▸ hwrote.get?_eq_file_iff
    others := hplaces' ▸ hwrote.others }

/-- A building that succeeds finds the posts of the tree and gives them their comments and bodies. It writes the page
of each post, the list of posts, the script and the feed, each at a place of its own below the output directory, and
leaves every other file as it was. -/
theorem build_publishes {tree : Tree} {now : Moment} {schedule : Schedule} {cancelled : Bool} (hl : tree.LinkFree)
    (h : ({ withComments config tree with now, schedule } : Site).run (Build.build cancelled) = (.ok (), s')) :
    s'.config = config ∧ s'.now = now ∧
    (∃ found, timelineOf tree config.postsPath = .ok found ∧
      s'.timeline = found.map fun p => renderBody (commented tree p)) ∧
    Published tree s' := by
  obtain ⟨_, t, hscan, hrender⟩ := run_bind_eq_ok.mp h
  obtain ⟨found, log, hfound, rfl⟩ := scan_eq_ok rfl hscan
  obtain ⟨hfresh, hdistinct⟩ := timelineOf_fresh hfound
  have htimeline : (found.map (commented tree)).map renderBody = found.map fun p => renderBody (commented tree p) := by
    rw [List.map_map]
    rfl
  have hnames : ∀ p ∈ (found.map (commented tree)).map renderBody, Path.IsName p.slug := by
    intro p hp
    rw [htimeline] at hp
    obtain ⟨q, hq, rfl⟩ := List.mem_map.mp hp
    exact Slug.isName_of_isSlug (hfresh q hq).slug
  have hslugs : (((found.map (commented tree)).map renderBody).map (·.slug)).Nodup := by
    rw [htimeline, List.map_map]
    exact hdistinct
  have hnodup := nodup_outputPlaces (s := { withComments config tree with
    now, schedule, log, timeline := (found.map (commented tree)).map renderBody }) hslugs
  rw [← places_outputs hnames] at hnodup
  have hputs := Puts.render hl rfl hnodup hrender
  exact ⟨hputs.config, hputs.now, ⟨found, hfound, hputs.timeline.trans htimeline⟩, hputs.published hl hnames hslugs⟩

/-- A post, and what an earlier building has left. -/
def rebuilt : Tree where
  entries :=
    [(["posts"], .dir), (["posts", "a.md"], .file "Hello."), (["output"], .dir),
      (["output", "index.html"], .file "old"), (["output", "notes.txt"], .file "kept")]

theorem rebuilt_publishes :
    rebuilt.LinkFree ∧
    ∃ s', ({ withComments {} rebuilt with now := Moment.zero, schedule := [] } : Site).run (Build.build false) =
        (.ok (), s') ∧
      (s'.config = {} ∧ s'.now = Moment.zero ∧
      (∃ found, timelineOf rebuilt (Config.postsPath {}) = .ok found ∧
        s'.timeline = found.map fun p => renderBody (commented rebuilt p)) ∧
      Published rebuilt s') := by
  have hl : rebuilt.LinkFree := Tree.linkFree_of_entries (by simp [rebuilt])
  have hok : (({ withComments {} rebuilt with now := Moment.zero, schedule := [] } : Site).run
      (Build.build false)).1 = .ok () := by decide +kernel
  exact ⟨hl, _, Prod.ext hok rfl, build_publishes hl (Prod.ext hok rfl)⟩

end Site

end Marginalia
