import Mathlib
import Marginalia.Proofs.File.Region
import Marginalia.Proofs.Site.Output

/-!
Two buildings side by side. Sites that show the same posts and whose trees agree around the output directory write the
same pages there, or fail alike. Comments that are absent are shown as no comments. Only a feed without items tells the
moment at which it was written.
-/

namespace Marginalia

open File (Tree)

/-! ### What is shown of a post -/

variable {posts posts' : List Post}

namespace Feed

/-- The entry with its post as it is shown. -/
def shownEntry (e : FeedEntry) : FeedEntry := { e with post := e.post.shown }

theorem selected_shown (posts : List Post) (limit : Int) :
    selected (posts.map Post.shown) limit = (selected posts limit).map shownEntry := by
  have hentries : entries (posts.map Post.shown) = (entries posts).map shownEntry := by
    simp only [entries, List.flatMap_map, List.map_flatMap, List.map_map]
    rfl
  have hsort : ((entries posts).mergeSort FeedEntry.le).map shownEntry =
      ((entries posts).map shownEntry).mergeSort FeedEntry.le := List.map_mergeSort fun _ _ _ _ => rfl
  simp only [selected, hentries, ← hsort]
  split
  · rw [List.map_take]
  · rfl

theorem ofPosts_shown (c : Config) (posts : List Post) (limit : Int) :
    ofPosts c (posts.map Post.shown) limit = ofPosts c posts limit := by
  have hhead : ((selected posts limit).map shownEntry).head?.map (·.comment.date) =
      (selected posts limit).head?.map (·.comment.date) := by
    rw [List.head?_map, Option.map_map]
    rfl
  have hitems : ((selected posts limit).map shownEntry).map (item c) = (selected posts limit).map (item c) := by
    rw [List.map_map]
    rfl
  simp only [ofPosts, selected_shown, hhead, hitems]

theorem ofPosts_eq_of_shown (c : Config) (limit : Int) (h : posts'.map Post.shown = posts.map Post.shown) :
    ofPosts c posts' limit = ofPosts c posts limit := by
  rw [← ofPosts_shown, h, ofPosts_shown]

/-- A feed with items does not tell when it was written. -/
theorem rss_eq_of_items {c : Config} {limit : Int} (h : (ofPosts c posts limit).items ≠ []) (now now' : Moment) :
    (ofPosts c posts limit).rss now' = (ofPosts c posts limit).rss now := by
  obtain ⟨e, es, hchosen⟩ := List.exists_cons_of_ne_nil fun hnil : selected posts limit = [] =>
    h (by simp only [ofPosts, hnil, List.map_nil])
  have hcreated : (ofPosts c posts limit).created = some e.comment.date := by
    simp only [ofPosts, hchosen, List.head?_cons, Option.map_some]
  simp only [rss, hcreated, Option.getD_some]

end Feed

/-! ### Steps in tandem -/

namespace Build

variable {ε ε' α β : Type} {R P Q : Site → Site → Prop}

/-- From sites in one relation two steps come to the same result, and to sites in another relation. -/
def Tandem (R Q : Site → Site → Prop) (b b' : Build ε α) : Prop :=
  ∀ s s', R s s' → (s'.run b').1 = (s.run b).1 ∧ Q (s.run b).2 (s'.run b').2

namespace Tandem

theorem pure (a : α) : Tandem R R (Pure.pure a : Build ε α) (Pure.pure a) := fun _ _ h => ⟨rfl, h⟩

theorem throw (e : ε) : Tandem R R (MonadExcept.throw e : Build ε α) (MonadExcept.throw e) := fun _ _ h => ⟨rfl, h⟩

/-- What comes behind a failure is not done, so that sites after a failure must be in the last relation already. -/
theorem bind {b b' : Build ε α} {f f' : α → Build ε β} (hb : Tandem R P b b') (hf : ∀ a, Tandem P Q (f a) (f' a))
    (hPQ : ∀ s s', P s s' → Q s s') : Tandem R Q (b >>= f) (b' >>= f') := by
  intro s s' hs
  have h := hb s s' hs
  rw [Site.run_bind, Site.run_bind]
  generalize s.run b = r at h ⊢
  generalize s'.run b' = r' at h ⊢
  obtain ⟨x, t⟩ := r
  obtain ⟨x', t'⟩ := r'
  obtain ⟨rfl, ht⟩ := h
  cases x' with
  | error e => exact ⟨rfl, hPQ t t' ht⟩
  | ok a => exact hf a t t' ht

theorem get_bind {f f' : Site → Build ε β} (h : ∀ s s', R s s' → Tandem R Q (f s) (f' s')) :
    Tandem R Q (get >>= f) (get >>= f') := fun s s' hs => h s s' hs s s' hs

theorem adapt {b b' : Build ε α} (f : ε → ε') (h : Tandem R Q b b') :
    Tandem R Q (ExceptT.adapt f b : Build ε' α) (ExceptT.adapt f b') := by
  intro s s' hs
  rw [Site.run_adapt, Site.run_adapt, (h s s' hs).1]
  exact ⟨rfl, (h s s' hs).2⟩

theorem ends {b b' : Build ε α} (h : Tandem R Q b b') {s s' u u' : Site} {x x' : Except ε α} (hs : R s s')
    (hrun : s.run b = (x, u)) (hrun' : s'.run b' = (x', u')) : x' = x ∧ Q u u' := by
  have hend := h s s' hs
  rwa [hrun, hrun'] at hend

end Tandem

end Build

/-! ### Sites that show the same -/

namespace Site

open Build (Tandem)

variable {ε : Type} {t : Tree} {c : Config} {now now' : Moment} {s s' : Site} {path content : Text}

/-- The place of the output directory. -/
def outputPlace (t : Tree) (c : Config) : File.Place := t.place c.outputPath

/-- The sites show the same posts and agree around the output directory, for paths looked up as in a tree. -/
structure Alike (t : Tree) (c : Config) (now now' : Moment) (s s' : Site) : Prop where
  config : s.config = c ∧ s'.config = c
  now : s.now = now ∧ s'.now = now'
  deploys : s.handlersOf rendered = [.deploy] ∧ s'.handlersOf rendered = [.deploy]
  posts : s'.timeline.map Post.shown = s.timeline.map Post.shown
  slugs : ∀ p ∈ s.timeline, Path.IsName p.slug
  workDir : s.tree.workDir = t.workDir
  trees : Tree.AgreeAt (outputPlace t c) s.tree s'.tree

/-- The place of the feed. -/
def feedPlaceOf (t : Tree) (c : Config) : File.Place := outputPlace t c ++ feedPlace

/-- The trees of the sites agree around the output directory, but for the moments in the same feed. -/
def Ended (t : Tree) (c : Config) (now now' : Moment) (s s' : Site) : Prop :=
  ∃ posts, Tree.AgreeUpTo (outputPlace t c) (feedPlaceOf t c) ((Feed.ofPosts c posts c.feedLimit).rss now)
    ((Feed.ofPosts c posts c.feedLimit).rss now') s.tree s'.tree

theorem Alike.ended (h : Alike t c now now' s s') : Ended t c now now' s s' := ⟨[], Or.inl h.trees⟩

theorem tandem_note (e e' : Log.Entry) :
    Tandem (Alike t c now now') (Alike t c now now') (Build.note e : Build ε Unit) (Build.note e') := by
  intro s s' h
  rw [run_note, run_note, note_eq, note_eq]
  exact ⟨rfl, h.config, h.now, h.deploys, h.posts, h.slugs, h.workDir, h.trees⟩

theorem tandem_renderBodies : Tandem (Alike t c now now') (Alike t c now now') Build.renderBodies Build.renderBodies := by
  intro s s' h
  have hposts : ∀ ps : List Post, (ps.map renderBody).map Post.shown = (ps.map Post.shown).map renderBody := by
    intro ps
    rw [List.map_map, List.map_map]
    rfl
  refine ⟨rfl, h.config, h.now, h.deploys, ?_, ?_, h.workDir, h.trees⟩
  · show (s'.timeline.map renderBody).map Post.shown = (s.timeline.map renderBody).map Post.shown
    rw [hposts, hposts, h.posts]
  · intro p hp
    obtain ⟨q, hq, rfl⟩ := List.mem_map.mp hp
    exact h.slugs q hq

/-- The path is that of the output directory with proper names behind. -/
def Output (c : Config) (path : Text) : Prop :=
  ∃ names, names ≠ [] ∧ (∀ n ∈ names, Path.IsName n) ∧ path = Path.join (c.outputPath :: names)

namespace Output

theorem clean (h : Output c path) : Path.clean path = path := by
  obtain ⟨names, hne, hnames, rfl⟩ := h
  exact Path.clean_join hne fun n hn => (hnames n hn).1

theorem last (h : Output c path) : ∃ init n, Path.components path = init ++ [n] ∧ Path.IsName n := by
  obtain ⟨names, hne, hnames, rfl⟩ := h
  obtain ⟨init, n, rfl⟩ := (List.eq_nil_or_concat names).resolve_left hne
  rw [List.concat_eq_append] at hnames hne ⊢
  exact ⟨Path.components c.outputPath ++ init, n, by rw [Path.components_join hne hnames, List.append_assoc], hnames n (by simp)⟩

theorem around (h : Output c path) (t : Tree) : Tree.Around (outputPlace t c) (t.place path) := by
  obtain ⟨names, hne, hnames, rfl⟩ := h
  rw [t.place_join hne hnames]
  exact Or.inr (List.prefix_append _ _)

end Output

theorem Alike.around (h : Alike t c now now' s s') (hpath : Output c path) :
    Tree.Around (outputPlace t c) (s.tree.place path) := by
  rw [Tree.place_congr h.workDir]
  exact hpath.around t

/-- A file of the output that is saved on both sides. -/
theorem tandem_save (wrap : File.Error → ε) (hpath : Output c path) (content : Text) :
    Tandem (Alike t c now now') (Alike t c now now') (Build.save wrap path content) (Build.save wrap path content) := by
  intro s s' h
  obtain ⟨init, n, hlast, hn⟩ := hpath.last
  rw [run_save, run_save]
  obtain ⟨e, he, he'⟩ | ⟨u, u', hu, hdir, hsave, hsave'⟩ :=
    Tree.save_agree h.trees (h.around hpath) hpath.clean hlast hn content content
  · rw [he, he']
    exact ⟨rfl, h.config, h.now, h.deploys, h.posts, h.slugs, (s.tree.leftBySave_wrote path).workDir.trans h.workDir,
      h.trees.leftBySave (h.around hpath) hpath.clean hlast hn⟩
  · have hne : s.tree.place path ≠ [] := (s.tree.place_parent hpath.clean hlast hn).2 ▸ List.concat_ne_nil _ _
    rw [hsave, hsave']
    exact ⟨rfl, h.config, h.now, h.deploys, h.posts, h.slugs, hdir.trans h.workDir, hu.put hne nofun⟩

theorem output_postPath {p : Post} (h : Path.IsName p.slug) : Output c (postPath c p) :=
  ⟨postPlace p, List.cons_ne_nil _ _, isName_of_mem_postPlace h, rfl⟩

theorem output_indexPath : Output c (indexPath c) := ⟨indexPlace, List.cons_ne_nil _ _, by decide, rfl⟩

theorem output_scriptPath : Output c (scriptPath c) := ⟨scriptPlace, List.cons_ne_nil _ _, by decide, scriptPath_eq c⟩

theorem output_feedPath : Output c (feedPath c) := ⟨feedPlace, List.cons_ne_nil _ _, by decide, rfl⟩

theorem tandem_writePost (cancelled : Bool) {p q : Post} (hshown : q.shown = p.shown) (hslug : Path.IsName p.slug) :
    Tandem (Alike t c now now') (Alike t c now now') (Build.writePost Page.postTemplate cancelled p) (Build.writePost Page.postTemplate cancelled q) := by
  cases cancelled with
  | true => exact .throw _
  | false =>
    rw [writePost_eq, writePost_eq]
    refine .get_bind fun s s' h => ?_
    have hpath : postPath c q = postPath c p := by rw [postPath, postPath, Post.slug_eq_of_shown hshown]
    simp only [h.config.1, h.config.2, hpath, Page.post_eq_of_shown c hshown]
    exact .bind (tandem_save _ (output_postPath hslug) _) (fun _ => tandem_note _ _) fun _ _ h => h

theorem tandem_writePosts (cancelled : Bool) (hshown : posts'.map Post.shown = posts.map Post.shown)
    (hslugs : ∀ p ∈ posts, Path.IsName p.slug) :
    Tandem (Alike t c now now') (Alike t c now now') (posts.forM (Build.writePost Page.postTemplate cancelled))
      (posts'.forM (Build.writePost Page.postTemplate cancelled)) := by
  induction posts generalizing posts' with
  | nil =>
    obtain rfl := List.map_eq_nil_iff.mp hshown
    exact .pure ()
  | cons p posts ih =>
    obtain ⟨q, rest, rfl, hq, hrest⟩ := List.map_eq_cons_iff.mp hshown
    exact .bind (tandem_writePost cancelled hq (hslugs p List.mem_cons_self))
      (fun _ => ih hrest fun r hr => hslugs r (List.mem_cons_of_mem p hr)) fun _ _ h => h

/-- The feed is the last that is written, and the only file in which the sites may differ. -/
theorem tandem_deploy : Tandem (Alike t c now now') (Ended t c now now') Build.deploy Build.deploy := by
  refine .get_bind fun s s' h => ?_
  have hfeed : s.feed = (Feed.ofPosts c s.timeline c.feedLimit).rss now := by rw [feed, h.config.1, h.now.1]
  have hfeed' : s'.feed = (Feed.ofPosts c s.timeline c.feedLimit).rss now' := by
    rw [feed, h.config.2, h.now.2, Feed.ofPosts_eq_of_shown c _ h.posts]
  simp only [h.config.1, h.config.2, hfeed, hfeed']
  refine .bind (tandem_save _ output_scriptPath _) (fun _ => ?_) fun _ _ h => h.ended
  refine .bind (P := Ended t c now now') ?_ (fun _ => ?_) fun _ _ h => h
  · intro u u' hu
    obtain ⟨init, n, hlast, hn⟩ := output_feedPath (c := c).last
    have hplace : u.tree.place (feedPath c) = feedPlaceOf t c :=
      (Tree.place_congr hu.workDir _).trans (place_feedPath t c)
    rw [run_save, run_save]
    obtain ⟨e, he, he'⟩ | ⟨v, v', hv, -, hsave, hsave'⟩ :=
      Tree.save_agree hu.trees (hu.around output_feedPath) output_feedPath.clean hlast hn
        ((Feed.ofPosts c s.timeline c.feedLimit).rss now) ((Feed.ofPosts c s.timeline c.feedLimit).rss now')
    · rw [he, he']
      exact ⟨rfl, [], Or.inl (hu.trees.leftBySave (hu.around output_feedPath) output_feedPath.clean hlast hn)⟩
    · rw [hsave, hsave', hplace]
      exact ⟨rfl, s.timeline, Or.inr ⟨v, v', hv, rfl, rfl⟩⟩
  · intro u u' hu
    rw [run_note, run_note]
    obtain ⟨ps, hu⟩ := hu
    refine ⟨rfl, ps, ?_⟩
    rwa [note_tree, note_tree]

theorem tandem_emit_rendered :
    Tandem (Alike t c now now') (Ended t c now now') (Build.emit rendered) (Build.emit rendered) := by
  refine .get_bind fun s s' h => ?_
  simp only [h.deploys.1, h.deploys.2]
  refine .bind (tandem_note _ _) (fun _ => .adapt _ ?_) fun _ _ h => h.ended
  exact .bind tandem_deploy (fun _ => .pure ()) fun _ _ h => h

/-- Sites that show the same are written alike. -/
theorem tandem_render (cancelled : Bool) :
    Tandem (Alike t c now now') (Ended t c now now') (Build.render cancelled) (Build.render cancelled) := by
  rw [render_eq]
  refine .bind tandem_renderBodies (fun _ => .get_bind fun s s' h => ?_) fun _ _ h => h.ended
  refine .bind (tandem_writePosts cancelled h.posts h.slugs) (fun _ => ?_) fun _ _ h => h.ended
  simp only [h.config.1, h.config.2, Page.index_eq_of_shown c h.posts]
  refine .bind (tandem_save _ output_indexPath _) (fun _ => ?_) fun _ _ h => h.ended
  exact .bind (tandem_note _ _) (fun _ => tandem_emit_rendered) fun _ _ h => h.ended

end Site

end Marginalia
