import Mathlib
import Marginalia.Preview.Start
import Marginalia.Proofs.Preview.Render
import Marginalia.Proofs.Site.Tandem
import Marginalia.Proofs.Site.Timeline

/-!
The preview shows what a building writes. Where no link stands around the output directory, each file that is written
for a site holds in the end what was written to it, and the preview of the same site answers with the same octets. A link
there can make two files one, and then the file that was written first holds what belongs to the other.
-/

namespace Marginalia

open File (Tree)

namespace Text

theorem after?_append (p t : Text) : after? (p ++ t) p = some t := by
  induction p with
  | nil => cases t <;> rfl
  | cons c p ih => rw [List.cons_append, after?, beq_self_eq_true, if_pos rfl, ih]

end Text

namespace Site

variable {config : Config} {tree : Tree} {now : Moment} {schedule : Schedule} {cancelled : Bool} {s s' : Site}

/-! ### Files that were written -/

/-- The site with comments, as a building or the preview finds it, with its bodies rendered. -/
def shownWith (config : Config) (tree : Tree) (now : Moment) (found : List Post) : Site :=
  { withComments config tree with
    timeline := (found.map (commented tree)).map renderBody, slugPlaces := slugPlacesOf found, now }

theorem within_of_output {path : Text} (t : Tree) (h : Output config path) : t.Within (outputPlace t config) path :=
  h.clean ▸ Tree.within_clean (h.around t)

theorem output_of_mem_outputs (hslugs : ∀ p ∈ s.timeline, Path.IsName p.slug) {f : Text × Text} (hf : f ∈ s.outputs) :
    Output s.config f.1 := by
  obtain ⟨names, -, heq, hne, hnames⟩ := relative_of_mem_outputs hslugs hf
  exact ⟨names, hne, hnames, heq⟩

theorem mem_outputs_post {p : Post} (hp : p ∈ s.timeline) : (postPath s.config p, Page.post s.config p) ∈ s.outputs :=
  List.mem_append_left _ (List.mem_append_left _ (List.mem_map.mpr ⟨p, hp, rfl⟩))

theorem mem_outputs_index (s : Site) : (indexPath s.config, Page.index s.config s.timeline) ∈ s.outputs :=
  List.mem_append_left _ (List.mem_append_right _ (List.mem_singleton_self _))

theorem mem_outputs_feed (s : Site) : (feedPath s.config, s.feed) ∈ s.outputs :=
  List.mem_append_right _ (List.mem_cons_of_mem _ (List.mem_singleton_self _))

/-- What rendering writes can be read afterwards, be there links elsewhere. -/
theorem render_readFile (hlinks : s.tree.LinkFreeAt (outputPlace s.tree s.config)) (hhandlers : s.handlersOf rendered = [.deploy])
    (hnames : ∀ p ∈ s.timeline, Path.IsName p.slug) (hslugs : (s.timeline.map (·.slug)).Nodup)
    (h : s.run (Build.render cancelled) = (.ok (), s')) :
    ∀ f ∈ outputs { s with timeline := s.timeline.map renderBody }, s'.tree.readFile f.1 = .ok f.2 := by
  -- Without its links the tree is written in the same way, and there it is known what the files hold.
  have halike : Alike s.tree s.config s.now s.now s { s with tree := s.tree.unlinked } :=
    ⟨⟨rfl, rfl⟩, ⟨rfl, rfl⟩, ⟨hhandlers, hhandlers⟩, rfl, hnames, rfl, Tree.agreeAt_unlinked hlinks⟩
  generalize hrun : run { s with tree := s.tree.unlinked } (Build.render cancelled) = r
  obtain ⟨x, u⟩ := r
  obtain ⟨rfl, posts, hended⟩ := (tandem_render cancelled).ends halike h hrun
  have hbodied : ∀ p ∈ s.timeline.map renderBody, Path.IsName p.slug := by
    intro p hp
    obtain ⟨q, hq, rfl⟩ := List.mem_map.mp hp
    exact hnames q hq
  have hslugs' : ((s.timeline.map renderBody).map (·.slug)).Nodup := by
    rw [List.map_map]
    exact hslugs
  have hdistinct := nodup_outputPlaces
    (s := { s with tree := s.tree.unlinked, timeline := s.timeline.map renderBody }) hslugs'
  rw [← places_outputs hbodied] at hdistinct
  have hputs := Puts.render (s := { s with tree := s.tree.unlinked }) (Tree.unlinked_linkFree s.tree) hhandlers
    hdistinct hrun
  have hagree := hended.agreeAt (List.append_ne_nil_of_right_ne_nil _ (by decide))
  intro f hf
  have hdir : s'.tree.workDir = s.tree.workDir := hagree.workDir.symm.trans hputs.wrote.workDir
  have hwithin := (within_of_output s.tree (output_of_mem_outputs hbodied hf)).of_workDir hdir
  rw [← Tree.readFile_agree hagree hwithin]
  exact hputs.wrote.readFile (Tree.unlinked_linkFree s.tree) hf (clean_of_mem_outputs hbodied hf)

theorem build_readFile (hlinks : tree.LinkFreeAt (outputPlace tree config))
    (h : ({ withComments config tree with now, schedule } : Site).run (Build.build cancelled) = (.ok (), s')) :
    ∃ found, timelineOf tree config.postsPath = .ok found ∧
      ∀ f ∈ (shownWith config tree now found).outputs, s'.tree.readFile f.1 = .ok f.2 := by
  obtain ⟨_, t, hscan, hrender⟩ := run_bind_eq_ok.mp h
  obtain ⟨found, log, hfound, ht⟩ := scan_eq_ok rfl hscan
  obtain ⟨hfresh, hdistinct⟩ := timelineOf_fresh hfound
  have hconfig : t.config = config := by rw [ht]; rfl
  have htree : t.tree = tree := by rw [ht]; rfl
  have htimeline : t.timeline = found.map (commented tree) := by rw [ht]; rfl
  have houtputs : outputs { t with timeline := t.timeline.map renderBody } = (shownWith config tree now found).outputs := by
    rw [ht]
    rfl
  refine ⟨found, hfound, houtputs ▸ render_readFile (by rwa [htree, hconfig]) (by rw [ht]; rfl) ?_ ?_ hrender⟩
  · intro p hp
    rw [htimeline] at hp
    obtain ⟨q, hq, rfl⟩ := List.mem_map.mp hp
    exact Slug.isName_of_isSlug (hfresh q hq).slug
  · rw [htimeline, List.map_map]
    exact hdistinct

end Site

namespace Preview

open Site

variable {config : Config} {tree : Tree} {now now' : Moment} {schedule schedule' : Schedule} {cancelled : Bool}
  {s s' : Site} {slug : Text}

/-! ### Requests -/

/-- The answer to one who wants to get an address. -/
def answer (s : Site) (host : Text) (url : Url) : Response := (serve s host { url }).1

theorem answer_eq {url : Url} (host : Text) (route : Route) (h : lookUp "GET" url.path = .found route) :
    answer s host url = routeResponse s host { url } route := by
  simp only [answer, serve, h]

theorem component_slug (h : Path.separator ∉ slug) : component (slug ++ Text.ofString "/") = (slug, Text.ofString "/") := by
  have hall : ∀ c ∈ slug, (c != ('/' : UInt8)) = true := by
    rintro c hc
    refine bne_iff_ne.mpr ?_
    rintro rfl
    exact h hc
  rw [component, Text.span, List.takeWhile_append_of_pos hall, List.dropWhile_append_of_pos hall]
  simp [show Text.ofString "/" = [('/' : UInt8)] by decide]

/-- The address of a post leads to its page. -/
theorem lookUp_post (h : Path.separator ∉ slug) : lookUp "GET" ("/posts/" ++ slug ++ "/") = .found (.post slug) := by
  have hindex : fixedPath "/" .index ("/posts/" ++ slug ++ "/") = .unknown := rfl
  have hbelow : below? "/posts/" ("/posts/" ++ slug ++ "/") = some (slug ++ Text.ofString "/") := by
    rw [below?, List.append_assoc, Text.after?_append]
    refine Option.filter_eq_some_iff.mpr ⟨rfl, ?_⟩
    cases slug <;> rfl
  have hpost : postPath ("/posts/" ++ slug ++ "/") = .found (.post slug) := by
    simp only [postPath, hbelow, component_slug h]
    rfl
  rw [lookUp, if_pos (beq_self_eq_true _), hindex, hpost]
  rfl

/-! ### What the preview shows -/

/-- After its preparation the preview shows the posts that are found, with comments and bodies. -/
theorem prepare_eq_ok (h : prepare { withComments config tree with now, schedule } = (.ok (), s')) :
    ∃ found log, timelineOf tree config.postsPath = .ok found ∧
      s' = { shownWith config tree now found with schedule, log } := by
  obtain ⟨_, t, hscan, hbodies⟩ := run_bind_eq_ok.mp h
  obtain ⟨found, log, hfound, rfl⟩ := scan_eq_ok rfl hscan
  obtain rfl := (Prod.mk.inj hbodies).2
  exact ⟨found, log, hfound, rfl⟩

theorem shownWith_ordered {found : List Post} (now : Moment) (h : timelineOf tree config.postsPath = .ok found) :
    Ordered (shownWith config tree now found).timeline (shownWith config tree now found).slugPlaces := by
  have hposts := ordered_law.found h
  have hslugs : ((found.map (commented tree)).map renderBody).map (·.slug) = found.map (·.slug) := by
    rw [List.map_map, List.map_map]
    rfl
  refine ⟨?_, ?_, ?_, ?_⟩
  · exact (hposts.ascends.map (commented tree) fun _ _ hab => hab).map renderBody fun _ _ hab => hab
  · intro p hp
    obtain ⟨q, hq, rfl⟩ := List.mem_map.mp hp
    obtain ⟨r, hr, rfl⟩ := List.mem_map.mp hq
    exact hposts.proper r hr
  · exact hslugs ▸ hposts.distinct
  · exact hslugs ▸ hposts.placed

theorem items_ne_nil {posts : List Post} (c : Config) (h : ∃ p ∈ posts, p.comments.getD [] ≠ []) :
    (Feed.ofPosts c posts c.feedLimit).items ≠ [] := by
  have hentries : Feed.entries posts ≠ [] := by
    obtain ⟨p, hp, hcomments⟩ := h
    obtain ⟨comment, hcomment⟩ := List.exists_mem_of_ne_nil _ hcomments
    exact List.ne_nil_of_mem (List.mem_flatMap.mpr ⟨p, hp, List.mem_map_of_mem hcomment⟩)
  have hsorted : (Feed.entries posts).mergeSort FeedEntry.le ≠ [] := fun hnil =>
    hentries (List.nil_perm.mp (hnil ▸ List.mergeSort_perm (Feed.entries posts) FeedEntry.le))
  simp only [Feed.ofPosts, ne_eq, List.map_eq_nil_iff, Feed.selected]
  split
  · rename_i hlimit
    rw [List.take_eq_nil_iff, not_or]
    exact ⟨by omega, hsorted⟩
  · exact hsorted

/-- The preview answers with the files of a building: the list of posts, the page of each post, and the feed if there
are comments. There is no page for any other slug. -/
structure Agrees (config : Config) (built : Tree) (s : Site) : Prop where
  index : ∀ host (url : Url), url.path = "/" →
    (answer s host url).status = 200 ∧ built.readFile (indexPath config) = .ok (answer s host url).body
  post : ∀ host (url : Url), ∀ p ∈ s.timeline, url.path = "/posts/" ++ p.slug ++ "/" →
    (answer s host url).status = 200 ∧ built.readFile (Site.postPath config p) = .ok (answer s host url).body
  missing : ∀ host (url : Url) slug, Path.separator ∉ slug → (∀ p ∈ s.timeline, p.slug ≠ slug) →
    url.path = "/posts/" ++ slug ++ "/" → (answer s host url).status = 404
  feed : (∃ p ∈ s.timeline, p.comments.getD [] ≠ []) → ∀ host (url : Url), url.path = "/comments.xml" →
    (answer s host url).status = 200 ∧ built.readFile (feedPath config) = .ok (answer s host url).body

theorem agrees_of_files {built : Tree} {found : List Post} {log : List Log.Entry}
    (hfound : timelineOf tree config.postsPath = .ok found)
    (hfiles : ∀ f ∈ (shownWith config tree now found).outputs, built.readFile f.1 = .ok f.2) :
    Agrees config built { shownWith config tree now' found with schedule, log } := by
  have hordered := shownWith_ordered now' hfound
  have hsound : TimelineSound { shownWith config tree now' found with schedule, log } := Ordered.sound hordered
  have hindex := hfiles _ (mem_outputs_index _)
  have hposts := fun p hp => hfiles _ (mem_outputs_post (p := p) hp)
  have hfeed := hfiles _ (mem_outputs_feed _)
  constructor
  · intro host url hurl
    rw [answer_eq host .index (by rw [hurl]; rfl)]
    exact ⟨rfl, hindex.trans (congrArg _ (body_indexPage _ _).symm)⟩
  · intro host url p hp hurl
    have hslug := (Slug.isName_of_isSlug (Slug.isSlug_iff.mpr (hsound.proper p hp))).2.2.2
    rw [answer_eq host (.post p.slug) (by rw [hurl]; exact lookUp_post hslug)]
    have hfound := (hsound.found p.slug p).mpr ⟨hp, rfl⟩
    refine ⟨?_, (hposts p hp).trans (congrArg _ (body_postPage hfound).symm)⟩
    simp only [routeResponse, postPage, hfound, render]
  · intro host url slug hslug hnone hurl
    rw [answer_eq host (.post slug) (by rw [hurl]; exact lookUp_post hslug)]
    simp only [routeResponse, postPage, (hsound.missing slug).mpr hnone]
    rfl
  · intro hcomments host url hurl
    rw [answer_eq host .feed (by rw [hurl]; rfl)]
    refine ⟨rfl, hfeed.trans (congrArg _ ?_)⟩
    exact Feed.rss_eq_of_items (items_ne_nil config hcomments) now' now

/-- A building and a preview of the same configuration and files agree if no link stands around the output directory. -/
theorem preview_agrees (hlinks : tree.LinkFreeAt (outputPlace tree config))
    (hbuild : ({ withComments config tree with now, schedule } : Site).run (Build.build cancelled) = (.ok (), s))
    (hprepare : prepare { withComments config tree with now := now', schedule := schedule' } = (.ok (), s')) :
    Agrees config s.tree s' := by
  obtain ⟨found, hfound, hfiles⟩ := build_readFile hlinks hbuild
  obtain ⟨found', log, hfound', rfl⟩ := prepare_eq_ok hprepare
  obtain rfl := Except.ok.inj (hfound.symm.trans hfound')
  exact agrees_of_files hfound hfiles

/-- A post that stands elsewhere, and an old list of posts. -/
def linkedPost : Tree where
  entries :=
    [(["notes.txt"], .file "Hello."), (["posts"], .dir), (["posts", "a.md"], .link "../notes.txt"), (["output"], .dir),
      (["output", "index.html"], .file "old")]

theorem linkedPost_agrees :
    linkedPost.LinkFreeAt (outputPlace linkedPost {}) ∧
    ∃ s s', ({ withComments {} linkedPost with now := Moment.zero, schedule := [] } : Site).run (Build.build false) =
        (.ok (), s) ∧
      prepare { withComments {} linkedPost with now := Moment.zero, schedule := [] } = (.ok (), s') ∧
      s'.timeline.map (·.slug) = [Text.ofString "a"] ∧ Agrees {} s.tree s' := by
  have hlinks : linkedPost.LinkFreeAt (outputPlace linkedPost {}) := Tree.linkFreeAt_of_entries (by decide)
  have hbuild : (({ withComments {} linkedPost with now := Moment.zero, schedule := [] } : Site).run
      (Build.build false)).1 = .ok () := by decide +kernel
  have hprepare : (prepare { withComments {} linkedPost with now := Moment.zero, schedule := [] }).1 = .ok () := by
    decide +kernel
  refine ⟨hlinks, _, _, Prod.ext hbuild rfl, Prod.ext hprepare rfl, by decide +kernel, ?_⟩
  exact preview_agrees hlinks (Prod.ext hbuild rfl) (Prod.ext hprepare rfl)

/-- No posts, and a link where the list of posts is to be written. -/
def linkedIndex : Tree where
  entries := [(["posts"], .dir), (["output"], .dir), (["output", "index.html"], .link "comments.xml")]

/-- The list of posts is written through the link, and then the feed over it. -/
theorem linkedIndex_disagrees :
    ∃ s s', ({ withComments {} linkedIndex with now := Moment.zero, schedule := [] } : Site).run (Build.build false) =
        (.ok (), s) ∧
      prepare { withComments {} linkedIndex with now := Moment.zero, schedule := [] } = (.ok (), s') ∧
      ¬ Agrees {} s.tree s' := by
  have hbuild : (({ withComments {} linkedIndex with now := Moment.zero, schedule := [] } : Site).run
      (Build.build false)).1 = .ok () := by decide +kernel
  have hprepare : (prepare { withComments {} linkedIndex with now := Moment.zero, schedule := [] }).1 = .ok () := by
    decide +kernel
  refine ⟨_, _, Prod.ext hbuild rfl, Prod.ext hprepare rfl, fun hagrees => ?_⟩
  have hindex := (hagrees.index [] { path := "/" } rfl).2
  rw [answer_eq [] .index rfl, routeResponse, body_indexPage] at hindex
  revert hindex
  decide +kernel

end Preview

end Marginalia
