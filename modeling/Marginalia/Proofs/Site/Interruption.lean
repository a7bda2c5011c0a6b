import Mathlib
import Marginalia.Proofs.Site.Replacement
import Marginalia.Proofs.Site.Tandem

/-!
What is left of a site when not all of it can be written. Pages are written in the order of the posts, each as a whole, so
when the building is called off or a page cannot be written, the pages before that are there and no others; the list of
posts comes behind all of them, and the handlers of the second signal behind that. For this no link may stand where the site
is written: through a link one page would be written over another.
-/

namespace Marginalia

open File (Tree)

namespace File.Tree

variable {t t' t'' : Tree} {touched : List Place} {files : List (Text × Text)}

/-- All is kept but for some places; directories may be new. -/
structure KeptBut (touched : List Place) (t t' : Tree) : Prop where
  workDir : t'.workDir = t.workDir
  others : ∀ q, q ∉ touched → t'.get? q = t.get? q ∨ t.get? q = none ∧ t'.get? q = some .dir
  dirs : ∀ q, t.get? q = some .dir → t'.get? q = some .dir

theorem KeptBut.refl (touched : List Place) (t : Tree) : KeptBut touched t t := ⟨rfl, fun _ _ => Or.inl rfl, fun _ h => h⟩

theorem KeptBut.trans (h : KeptBut touched t t') (h' : KeptBut touched t' t'') : KeptBut touched t t'' where
  workDir := h'.workDir.trans h.workDir
  others q hq := by
    rcases h'.others q hq with heq' | ⟨hnone', hdir'⟩ <;> rcases h.others q hq with heq | ⟨hnone, hdir⟩
    · exact Or.inl (heq'.trans heq)
    · exact Or.inr ⟨hnone, heq'.trans hdir⟩
    · exact Or.inr ⟨heq ▸ hnone', hdir'⟩
    · exact Or.inr ⟨hnone, hdir'⟩
  dirs q hq := h'.dirs q (h.dirs q hq)

theorem KeptBut.mono {more : List Place} (h : KeptBut touched t t') (hmore : touched ⊆ more) : KeptBut more t t' :=
  ⟨h.workDir, fun q hq => h.others q fun hin => hq (hmore hin), h.dirs⟩

theorem Wrote.keptBut (h : Wrote t files t') (hplaces : t.places files ⊆ touched) : KeptBut touched t t' :=
  KeptBut.mono ⟨h.workDir, h.others, h.dirs⟩ hplaces

/-- Files that were written and not touched since are still there. -/
theorem Wrote.then_kept (h : Wrote t files t') (h' : KeptBut touched t' t'')
    (hfiles : ∀ f ∈ files, t.place f.1 ∉ touched) :
    ∀ f ∈ files, Reachable t'' (t.place f.1) ∧ t''.get? (t.place f.1) = some (.file f.2) := by
  intro f hf
  refine ⟨(h.way f hf).mono h'.dirs, ?_⟩
  rcases h'.others _ (hfiles f hf) with heq | ⟨hnone, -⟩
  · exact heq.trans (h.holds f hf)
  · rw [h.holds f hf] at hnone
    cases hnone

end File.Tree

namespace Site

variable {s s' : Site} {t : Tree} {c : Config} {off : Option Nat} {posts : List Post} {p : Post} {path content : Text}
  {files : List (Text × Text)} {e : SiteError} {x : Except SiteError Unit}

/-! ### Files of the output -/

theorem Output.within (h : Output c path) (t : Tree) : t.Within (outputPlace t c) path :=
  h.clean ▸ Tree.within_clean (h.around t)

theorem save_wrote_output (hl : t.LinkFreeAt (outputPlace t c)) (hpath : Output c path) {t' : Tree}
    (h : t.save path content = .ok t') : t.Wrote [(path, content)] t' := Tree.save_wrote_around hl (hpath.within t) h

theorem readFile_output (hl : t.LinkFreeAt (outputPlace t c)) (hpath : Output c path) (hlook : Tree.Lookable path)
    (hreach : t.Reachable (t.place path)) (hfile : t.get? (t.place path) = some (.file content)) :
    t.readFile path = .ok content := Tree.readFile_around hl (hpath.around t) hpath.clean hlook hreach hfile

theorem outputPlace_congr {t' : Tree} (h : t'.workDir = t.workDir) (c : Config) : outputPlace t' c = outputPlace t c :=
  Tree.place_congr h c.outputPath

theorem saveAll_wrote_output {t' : Tree} (hl : t.LinkFreeAt (outputPlace t c)) (hpaths : ∀ f ∈ files, Output c f.1)
    (hplaces : (t.places files).Nodup) (h : saveAll t files = .ok t') : t.Wrote files t' := by
  have hstep : ∀ f ∈ files, ∀ u u' : Tree, u.workDir = t.workDir ∧ u.LinkFreeAt (outputPlace t c) →
      u.save f.1 f.2 = .ok u' → u.Wrote [f] u' ∧ u'.workDir = t.workDir ∧ u'.LinkFreeAt (outputPlace t c) := by
    rintro f hf u u' ⟨hdir, hl⟩ hsave
    have hwrote := save_wrote_output (outputPlace_congr hdir c ▸ hl) (hpaths f hf) hsave
    exact ⟨hwrote, hwrote.workDir.trans hdir, hwrote.linkFreeAt hl⟩
  exact (saveAll_wrote_keeping hstep hplaces ⟨rfl, hl⟩ h).1

/-! ### Handlers behind the pages -/

/-- The files that are written when all pages are there. -/
def assetPlaces (t : Tree) (c : Config) : List File.Place := [t.place (scriptPath c), t.place (feedPath c)]

/-- The site has this configuration, and its tree is the one when all pages were written, but for script and feed. -/
structure Finishing (c : Config) (tree : Tree) (s : Site) : Prop where
  config : s.config = c
  plain : s.tree.LinkFreeAt (outputPlace tree c)
  kept : tree.KeptBut (assetPlaces tree c) s.tree

theorem finishing_save {tree : Tree} (hpath : Output c path) (hasset : tree.place path ∈ assetPlaces tree c)
    (wrap : File.Error → HandlerError) (content : Text) : Build.Keeps (Finishing c tree) (Build.save wrap path content) := by
  intro s hs
  rw [run_save]
  cases hsave : s.tree.save path content with
  | error e =>
    have hleft := s.tree.leftBySave_wrote path
    exact ⟨hs.config, hleft.linkFreeAt hs.plain, hs.kept.trans (hleft.keptBut (List.nil_subset _))⟩
  | ok t =>
    have hwrote := save_wrote_output (outputPlace_congr hs.kept.workDir c ▸ hs.plain) hpath hsave
    refine ⟨hs.config, hwrote.linkFreeAt hs.plain, hs.kept.trans (hwrote.keptBut ?_)⟩
    rw [← Tree.place_congr hs.kept.workDir] at hasset
    exact List.cons_subset.mpr ⟨hasset, List.nil_subset _⟩

theorem finishing_note {tree : Tree} (entry : Log.Entry) :
    Build.Keeps (Finishing c tree) (Build.note entry : Build HandlerError Unit) := by
  intro s hs
  rw [run_note, note_eq]
  exact ⟨hs.config, hs.plain, hs.kept⟩

theorem finishing_deploy {tree : Tree} : Build.Keeps (Finishing c tree) Build.deploy := by
  refine .get_bind fun s hs => ?_
  obtain rfl := hs.config
  have hscript : ∀ wrap content, Build.Keeps (Finishing s.config tree) (Build.save wrap (scriptPath s.config) content) :=
    finishing_save output_scriptPath List.mem_cons_self
  have hfeed : ∀ wrap content, Build.Keeps (Finishing s.config tree) (Build.save wrap (feedPath s.config) content) :=
    finishing_save output_feedPath (List.mem_cons_of_mem _ List.mem_cons_self)
  exact Build.Keeps.bind (hscript _ _) (fun _ => .bind (hfeed _ _) fun _ => finishing_note _) s hs

theorem finishing_handle {tree : Tree} (h : Handler) : Build.Keeps (Finishing c tree) (Build.handle h) := by
  cases h with
  | loadComments =>
    intro s hs
    rw [Build.handle, run_loadComments]
    exact ⟨hs.config, hs.plain, hs.kept⟩
  | deploy => exact finishing_deploy
  | labelled label fails =>
    intro s hs
    rw [run_labelled]
    exact ⟨hs.config, hs.plain, hs.kept⟩

/-- Handlers that are called when all pages are written touch no file but the script and the feed. -/
theorem finishing_of_signalled {tree : Tree} (hl : tree.LinkFreeAt (outputPlace tree s.config))
    (h : Signalled { s with tree } rendered x s') : Finishing s.config tree s' := by
  obtain ⟨log, called, r, hcalls, -⟩ := h
  exact hcalls.keeps (fun h _ => finishing_handle h) ⟨rfl, hl, .refl _ tree⟩

/-! ### Interruptions -/

/-- The building ended before so many pages, or at the next: those before are written as a whole, no other file is, and no
handler has been called. -/
structure Stopped (s : Site) (off : Option Nat) (k : Nat) (e : SiteError) (s' : Site) : Prop where
  place : k < s.timeline.length
  cause : off = some k ∧ e = .cancelled ∨ ∃ err, e = .write err
  wrote : s.tree.Wrote (pagesOf s.config (s.bodied.timeline.take k)) s'.tree
  read : ∀ f ∈ pagesOf s.config (s.bodied.timeline.take k), s'.tree.readFile f.1 = .ok f.2
  untouched : ∀ path ∈ [indexPath s.config, scriptPath s.config, feedPath s.config], ∀ content,
    s'.tree.get? (s.tree.place path) = some (.file content) ↔ s.tree.get? (s.tree.place path) = some (.file content)
  silent : ∃ tree entries, s' = { s.bodied with tree, log := s.log ++ entries } ∧ ∀ entry ∈ entries, NotesPage entry

/-- The pages of all posts are written as a whole. Either the list of posts could not be written, and no other file was and no
handler called; or it was, and a handler failed, and nothing else has changed but the script and the feed. -/
structure Unfinished (s : Site) (e : SiteError) (s' : Site) : Prop where
  read : ∀ f ∈ pagesOf s.config s.bodied.timeline, s'.tree.readFile f.1 = .ok f.2
  cause :
    (∃ err, e = .write err) ∧ s.tree.Wrote (pagesOf s.config s.bodied.timeline) s'.tree ∧
      (∃ tree entries, s' = { s.bodied with tree, log := s.log ++ entries } ∧ ∀ entry ∈ entries, NotesPage entry) ∨
    ∃ err tree, e = .handler rendered err ∧ s.tree.Wrote s.bodied.pages tree ∧
      Signalled { s.bodied with tree } rendered (.error e) s' ∧ tree.KeptBut (assetPlaces s.tree s.config) s'.tree ∧
      s'.tree.readFile (indexPath s.config) = .ok (Page.index s.config s.bodied.timeline)

theorem Halts.left_wrote {k : Nat} {tree left : Tree} (h : Halts files k tree off x left) : tree.Wrote [] left := by
  cases h with
  | cancelled => exact .refl tree
  | failed _ _ => exact tree.leftBySave_wrote _

/-- The pages of a site with distinct slugs have places of their own below the output directory. -/
structure Placed (s : Site) : Prop where
  nodup : (s.tree.places s.bodied.pages ++ assetPlaces s.tree s.config).Nodup
  output : ∀ f ∈ s.bodied.pages, Output s.config f.1

theorem TimelineSound.placed (h : TimelineSound s) : s.Placed := by
  have hnames : ∀ p ∈ s.bodied.timeline, Path.IsName p.slug := by
    intro p hp
    obtain ⟨q, hq, rfl⟩ := List.mem_map.mp hp
    exact Slug.isName_of_isSlug (Slug.isSlug_iff.mpr (h.proper q hq))
  constructor
  · have hslugs : (s.bodied.timeline.map (·.slug)).Nodup := by
      rw [bodied, List.map_map]
      exact h.distinct
    have hnodup := nodup_outputPlaces hslugs
    rw [← places_outputs hnames, outputs, Tree.places, List.map_append] at hnodup
    exact hnodup
  · intro f hf
    rcases List.mem_append.mp hf with hf | hf
    · obtain ⟨p, hp, rfl⟩ := List.mem_map.mp hf
      exact output_postPath (hnames p hp)
    · rw [List.mem_singleton.mp hf]
      exact output_indexPath

namespace Placed

variable {tree tree' left : Tree} {entries : List Log.Entry} {k : Nat}

/-- Pages that are saved are there as a whole, also when directories were made behind them. -/
theorem written (h : s.Placed) (hl : s.tree.LinkFreeAt (outputPlace s.tree s.config)) (hfiles : files <+: s.bodied.pages)
    (hsaved : saveAll s.tree files = .ok tree) (hleft : tree.Wrote [] tree') :
    s.tree.Wrote files tree' ∧ tree'.LinkFreeAt (outputPlace s.tree s.config) ∧ ∀ f ∈ files, tree'.readFile f.1 = .ok f.2 := by
  have hpaths : ∀ f ∈ files, Output s.config f.1 := fun f hf => h.output f (hfiles.subset hf)
  have hnodup : (s.tree.places files).Nodup :=
    (List.nodup_append'.mp h.nodup).1.sublist (hfiles.sublist.map _)
  have hwrote := (saveAll_wrote_output hl hpaths hnodup hsaved).trans hleft (List.disjoint_nil_right _)
  rw [List.append_nil] at hwrote
  have hl' := hwrote.linkFreeAt hl
  refine ⟨hwrote, hl', fun f hf => ?_⟩
  have hspelled := hwrote.place_eq f.1
  exact readFile_output (outputPlace_congr hwrote.workDir s.config ▸ hl') (hpaths f hf) (hwrote.lookable f hf)
    (hspelled ▸ hwrote.way f hf) (hspelled ▸ hwrote.holds f hf)

theorem take_pages (hk : k ≤ s.bodied.timeline.length) :
    s.bodied.pages.take k = pagesOf s.config (s.bodied.timeline.take k) := by
  have hlength : k ≤ (s.bodied.timeline.map (pageOf s.bodied.config)).length := by rwa [List.length_map]
  rw [pages, List.take_append_of_le_length hlength, ← List.map_take]
  rfl

/-- The list of posts, the script and the feed stand where no page of a post does. -/
theorem apart (h : s.Placed) {path : Text} (hpath : path ∈ [indexPath s.config, scriptPath s.config, feedPath s.config]) :
    s.tree.place path ∉ s.tree.places (pagesOf s.config s.bodied.timeline) := by
  have hsplit : s.tree.places s.bodied.pages ++ assetPlaces s.tree s.config =
      s.tree.places (pagesOf s.config s.bodied.timeline) ++
        [indexPath s.config, scriptPath s.config, feedPath s.config].map s.tree.place := by
    rw [pages, Tree.places, List.map_append, List.append_assoc]
    rfl
  have hnodup := h.nodup
  rw [hsplit, List.nodup_append'] at hnodup
  exact fun hin => hnodup.2.2 hin (List.mem_map_of_mem hpath)

theorem stopped (h : s.Placed) (hl : s.tree.LinkFreeAt (outputPlace s.tree s.config)) (hk : k < s.bodied.timeline.length)
    (hsaved : saveAll s.tree (s.bodied.pages.take k) = .ok tree) (hhalts : Halts s.bodied.pages k tree off (.error e) left)
    (hentries : ∀ entry ∈ entries, NotesPage entry) :
    Stopped s off k e { s.bodied with tree := left, log := s.log ++ entries } := by
  have hcause : off = some k ∧ e = .cancelled ∨ ∃ err, e = .write err := by
    cases hhalts with
    | cancelled => exact Or.inl ⟨rfl, rfl⟩
    | failed _ _ => exact Or.inr ⟨_, rfl⟩
  obtain ⟨hwrote, -, hread⟩ := h.written hl (List.take_prefix k _) hsaved hhalts.left_wrote
  rw [take_pages hk.le] at hwrote hread
  refine ⟨?_, hcause, hwrote, hread, fun path hpath content => ?_, left, entries, rfl, hentries⟩
  · rwa [bodied, List.length_map] at hk
  · have hplace : s.tree.place path ∉ s.tree.places (pagesOf s.config (s.bodied.timeline.take k)) := fun hin =>
      h.apart hpath (((List.take_sublist k _).map _).map _ |>.subset hin)
    rw [hwrote.get?_eq_file_iff]
    constructor
    · rintro (⟨f, hf, heq, -⟩ | ⟨-, hfile⟩)
      · exact absurd (heq ▸ List.mem_map_of_mem hf) hplace
      · exact hfile
    · exact fun hfile => Or.inr ⟨hplace, hfile⟩

theorem unlisted (h : s.Placed) (hl : s.tree.LinkFreeAt (outputPlace s.tree s.config))
    (hsaved : saveAll s.tree (s.bodied.pages.take s.bodied.timeline.length) = .ok tree)
    (hhalts : Halts s.bodied.pages s.bodied.timeline.length tree none (.error e) left)
    (hentries : ∀ entry ∈ entries, NotesPage entry) :
    Unfinished s e { s.bodied with tree := left, log := s.log ++ entries } := by
  obtain ⟨hwrote, -, hread⟩ := h.written hl (List.take_prefix _ _) hsaved hhalts.left_wrote
  rw [take_pages le_rfl, List.take_length] at hwrote hread
  cases hhalts with
  | failed _ _ => exact ⟨hread, Or.inl ⟨⟨_, rfl⟩, hwrote, _, entries, rfl, hentries⟩⟩

theorem unhandled (h : s.Placed) (hl : s.tree.LinkFreeAt (outputPlace s.tree s.config))
    (hsaved : saveAll s.tree s.bodied.pages = .ok tree) (hsignal : Signalled { s.bodied with tree } rendered (.error e) s') : Unfinished s e s' := by
  obtain ⟨hwrote, hl', -⟩ := h.written hl (List.prefix_refl _) hsaved (.refl tree)
  have hdir := hwrote.workDir
  have hassets : assetPlaces tree s.config = assetPlaces s.tree s.config := by
    rw [assetPlaces, assetPlaces, Tree.place_congr hdir, Tree.place_congr hdir]
  have hend : Finishing s.config tree s' :=
    finishing_of_signalled (s := s.bodied) ((outputPlace_congr hdir s.config).symm ▸ hl') hsignal
  have hkept : tree.KeptBut (assetPlaces s.tree s.config) s'.tree := hassets ▸ hend.kept
  have hdir' : s'.tree.workDir = s.tree.workDir := hkept.workDir.trans hdir
  have hl'' : s'.tree.LinkFreeAt (outputPlace s'.tree s.config) :=
    (outputPlace_congr hkept.workDir s.config).symm ▸ hend.plain
  have hdisjoint := (List.nodup_append'.mp h.nodup).2.2
  have hthere := hwrote.then_kept hkept fun f hf => hdisjoint (List.mem_map_of_mem hf)
  have hread : ∀ f ∈ s.bodied.pages, s'.tree.readFile f.1 = .ok f.2 := fun f hf => by
    have hspelled := Tree.place_congr hdir' f.1
    exact readFile_output hl'' (h.output f hf) (hwrote.lookable f hf) (hspelled ▸ (hthere f hf).1)
      (hspelled ▸ (hthere f hf).2)
  obtain ⟨err, rfl⟩ : ∃ err, e = .handler rendered err := by
    obtain ⟨-, -, r, -, he, -⟩ := hsignal
    cases r with
    | ok _ => cases he
    | error err => exact ⟨err, Except.error.inj he⟩
  refine ⟨fun f hf => hread f (List.mem_append_left _ hf), Or.inr ⟨err, tree, rfl, hwrote, hsignal, hkept, ?_⟩⟩
  exact hread (indexPath s.config, Page.index s.config s.bodied.timeline) (List.mem_append_right _ (List.mem_singleton_self _))

end Placed

/-- When writing a site fails, at whatever post the building is called off and whatever is in the way of a file, the pages of
some first posts have been written as a whole and nothing else, or those of all posts. A building that is called off
before it begins changes no file. The slugs of the posts are to be proper and distinct, as a scan leaves them. -/
theorem render_writes_whole_pages (hsound : TimelineSound s) (hl : s.tree.LinkFreeAt (outputPlace s.tree s.config)) (off : Option Nat) :
    (∀ e s', s.run (Build.renderUntil off) = (.error e, s') → (∃ k, Stopped s off k e s') ∨ Unfinished s e s') ∧
    (s.timeline ≠ [] → s.run (Build.renderUntil (some 0)) = (.error .cancelled, s.bodied)) := by
  have hplaced := hsound.placed
  constructor
  · intro e s' hrun
    obtain ⟨-, tree, hsaved, hsignal⟩ | ⟨entries, k, tree, left, hentries, hsaved, ⟨hk, hhalts⟩ | ⟨rfl, hhalts⟩, rfl⟩ :=
      renderUntil_cases hrun
    · exact Or.inr (hplaced.unhandled hl hsaved hsignal)
    · exact Or.inl ⟨k, hplaced.stopped hl hk hsaved hhalts hentries⟩
    · exact Or.inr (hplaced.unlisted hl hsaved hhalts hentries)
  · intro hne
    obtain ⟨p, more, hposts⟩ := List.exists_cons_of_ne_nil hne
    have htimeline : s.bodied.timeline = renderBody p :: more.map renderBody := by rw [bodied, hposts, List.map_cons]
    rw [renderUntil_eq, Build.renderBodies, run_change_bind, ← bodied, run_get_bind, run_bind, htimeline,
      Build.writePosts]
    rfl

/-! ### What is in the way -/

/-- Two posts that were found. -/
def pair : List Post :=
  [{ sourcePath := "posts/a.md", title := "a", slug := "a", content := "A" },
    { sourcePath := "posts/b.md", title := "b", slug := "b", content := "B" }]

def pairIn (t : Tree) : Site := { withComments {} t with timeline := pair, slugPlaces := slugPlacesOf pair }

theorem pairIn_sound (t : Tree) : TimelineSound (pairIn t) := by
  have hproper : ∀ p ∈ pair, Slug.isSlug p.slug = true := by decide
  have hordered : Ordered pair (slugPlacesOf pair) := by
    refine ⟨List.pairwise_pair.mpr (Or.inr ⟨by decide, by decide⟩), ?_, by decide, slugPlacesOf_eq pair⟩
    exact fun p hp => Slug.isSlug_iff.mp (hproper p hp)
  exact Ordered.sound (s := pairIn t) hordered

/-- A file where the directory for the page of the second post should be. -/
def blocked : Tree where
  entries :=
    [(["posts"], .dir), (["posts", "a.md"], .file "A"), (["posts", "b.md"], .file "B"), (["output"], .dir),
      (["output", "posts"], .dir), (["output", "posts", "b"], .file "?")]

theorem blocked_writes_whole_pages :
    ∃ e s', (pairIn blocked).run (Build.renderUntil none) = (.error e, s') ∧
      ((∃ k, Stopped (pairIn blocked) none k e s') ∨ Unfinished (pairIn blocked) e s') ∧
      (pairIn blocked).run (Build.renderUntil (some 0)) = (.error .cancelled, (pairIn blocked).bodied) := by
  have hfails : ((pairIn blocked).run (Build.renderUntil none)).1 =
      .error (.write ⟨"mkdir", "output/posts/b", .notDirectory⟩) := by decide +kernel
  have hl : blocked.LinkFreeAt (outputPlace blocked {}) := Tree.linkFreeAt_of_entries (by decide)
  have hwhole := render_writes_whole_pages (s := pairIn blocked) (pairIn_sound blocked) hl none
  generalize hrun : (pairIn blocked).run (Build.renderUntil none) = r at hfails
  obtain ⟨x, s'⟩ := r
  obtain rfl : x = _ := hfails
  exact ⟨_, s', rfl, hwhole.1 _ s' hrun, hwhole.2 (List.cons_ne_nil _ _)⟩

/-- The page of the second post is a link to that of the first, and there is a directory where the list of posts should be. -/
def crossed : Tree where
  entries :=
    [(["posts"], .dir), (["posts", "a.md"], .file "A"), (["posts", "b.md"], .file "B"), (["output"], .dir),
      (["output", "posts"], .dir), (["output", "posts", "a"], .dir), (["output", "posts", "b"], .dir),
      (["output", "posts", "b", "index.html"], .link "../a/index.html"), (["output", "index.html"], .dir)]

def firstPage : Text × Text := pageOf {} (renderBody { sourcePath := "posts/a.md", title := "a", slug := "a", content := "A" })

/-- Through a link the page of one post is written over that of another. -/
theorem crossed_pages_lost :
    TimelineSound (pairIn crossed) ∧
    ∃ e s', (pairIn crossed).run (Build.renderUntil none) = (.error e, s') ∧
      (¬ ∃ k, Stopped (pairIn crossed) none k e s') ∧ ¬ Unfinished (pairIn crossed) e s' := by
  have hfails : ((pairIn crossed).run (Build.renderUntil none)).1 =
      .error (.write ⟨"open", "output/index.html", .isDirectory⟩) := by decide +kernel
  have hlost : ((pairIn crossed).run (Build.renderUntil none)).2.tree.readFile firstPage.1 ≠ .ok firstPage.2 := by
    decide +kernel
  have hnew : ((pairIn crossed).run (Build.renderUntil none)).2.tree.get? ["output", "posts", "a", "index.html"] ∉
      [none, some .dir] := by decide +kernel
  refine ⟨pairIn_sound crossed, ?_⟩
  generalize hrun : (pairIn crossed).run (Build.renderUntil none) = r at hfails hlost hnew
  obtain ⟨x, s'⟩ := r
  obtain rfl : x = _ := hfails
  have hfirst : ∀ k, firstPage ∈ pagesOf (pairIn crossed).config ((pairIn crossed).bodied.timeline.take (k + 1)) :=
    fun _ => List.mem_cons_self
  refine ⟨_, s', rfl, ?_, fun hall => hlost (hall.read firstPage List.mem_cons_self)⟩
  rintro ⟨k, hstopped⟩
  cases k with
  | zero =>
    -- A file has been written where there was none.
    refine hnew ?_
    rcases hstopped.wrote.others ["output", "posts", "a", "index.html"] List.not_mem_nil with hsame | ⟨-, hdir⟩
    · simp only [hsame]
      decide
    · simp only [hdir]
      decide
  | succ k => exact hlost (hstopped.read firstPage (hfirst k))

end Site

end Marginalia
