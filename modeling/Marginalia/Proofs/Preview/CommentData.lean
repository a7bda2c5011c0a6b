import Mathlib
import Marginalia.Proofs.Calendar.FreeForm
import Marginalia.Proofs.Json.Reading
import Marginalia.Proofs.Preview.Agreement
import Marginalia.Proofs.Site.Rebuilding

/-!
Comments as data. A program that asks for the comments of a post can read all that the page shows of them, in the same
order, as long as their dates can be written. One date for which there is no room leaves the answer empty, although the
loader has taken it and the page shows it.
-/

namespace Marginalia

namespace Preview

/-! ### What programs read -/

/-- A comment in data. What a reader wrote is not in it, but only its rendering. -/
def readComment? (v : Json.Value) : Option ThreadedComment := do
  let id ← v.text? "id"
  let author ← v.text? "author"
  let url ← v.textOrEmpty? "url"
  let date ← (v.text? "date").bind Moment.parseInternet?
  let replyingTo ← v.textOrEmpty? "replying_to_id"
  let html ← v.text? "html"
  let depth ← v.number? "depth"
  let parent ← v.number? "parent"
  if depth < 0 || parent < -1 then none
  else
    some
      { id, author, url, date, replyingTo, html, depth := depth.toNat
        parent := if parent < 0 then none else some parent.toNat }

/-- The comments of a post as a program gets them. -/
structure Listing where
  comments : List ThreadedComment
  count : Int
  post : Text

/-- Reads the comments of a post. -/
def readListing? (body : Text) : Option Listing := do
  let v ← Json.read? body
  let values ← v.list? "comments"
  let comments ← values.mapM readComment?
  let count ← v.number? "count"
  let post ← v.text? "post"
  return { comments, count, post }

/-- Reads what went wrong. -/
def readError? (body : Text) : Option Text := (Json.read? body).bind (·.text? "error")

/-- What there is to be read of a post. -/
def listing (p : Post) : Listing where
  comments := (p.comments.getD []).map fun c => { c with message := [] }
  count := p.commentCount
  post := p.slug

/-! ### One comment -/

variable {c : ThreadedComment} {t : Text}

/-- The texts of a comment that are given as data are well-formed. -/
structure WellFormedTexts (c : ThreadedComment) : Prop where
  id : c.id.isWellFormed = true
  author : c.author.isWellFormed = true
  url : c.url.isWellFormed = true
  replyingTo : c.replyingTo.isWellFormed = true
  html : c.html.isWellFormed = true

/-- A field that is left out if its text is empty. -/
def fieldValue? (name value : Text) : List (Text × Json.Value) := if value.isEmpty then [] else [(name, .string value)]

/-- A comment as it is read. -/
def commentValue (c : ThreadedComment) : Json.Value :=
  let who : List (Text × Json.Value) := [("id", .string c.id), ("author", .string c.author)]
  let said : List (Text × Json.Value) := [("date", .string c.date.internetText)]
  let place : List (Text × Json.Value) :=
    [("html", .string c.html), ("depth", .number c.depth), ("parent", .number (parentNumber c.parent))]
  .record (who ++ fieldValue? "url" c.url ++ said ++ fieldValue? "replying_to_id" c.replyingTo ++ place)

theorem dateData_eq_ok {m : Moment} {t : Text} : dateData m = .ok t ↔ m.Writable ∧ t = Json.string m.internetText := by
  unfold dateData
  split
  · rename_i hyear
    simp only [Bool.or_eq_true, decide_eq_true_eq] at hyear
    refine ⟨nofun, fun h => ?_⟩
    have := h.1.year
    omega
  · rename_i hyear
    simp only [Bool.or_eq_true, decide_eq_true_eq] at hyear
    split
    · rename_i hoffset
      exact ⟨nofun, fun h => absurd h.1.offset (Nat.not_lt_of_le hoffset)⟩
    · rename_i hoffset
      constructor
      · intro h
        exact ⟨⟨by omega, by omega⟩, (Except.ok.inj h).symm⟩
      · rintro ⟨-, rfl⟩
        rfl

theorem readsField_field? {name value : Text} (hname : name.isAscii = true) (h : value.isWellFormed = true) :
    List.Forall₂ Json.ReadsField (field? name value) (fieldValue? name value) := by
  unfold field? fieldValue?
  split
  · exact .nil
  · exact .cons (Json.readsField_of_reads _ hname (Json.reads_string h)) .nil

theorem writable_of_commentData (h : commentData c = .ok t) : c.date.Writable := by
  cases hdate : dateData c.date with
  | error e =>
    rw [commentData, hdate] at h
    cases h
  | ok date => exact (dateData_eq_ok.mp hdate).1

theorem commentData_reads (hdate : c.date.Writable) (htexts : WellFormedTexts c) :
    ∃ t, commentData c = .ok t ∧ Json.Reads t (commentValue c) := by
  have hwritten := dateData_eq_ok.mpr ⟨hdate, rfl⟩
  refine ⟨_, by rw [commentData, hwritten]; rfl, Json.reads_object ?_⟩
  have hfield : ∀ {name t : Text}, name.isAscii = true → t.isWellFormed = true →
      Json.ReadsField (name, Json.string t) (name, .string t) :=
    fun hname ht => Json.readsField_of_reads _ hname (Json.reads_string ht)
  have hnumber : ∀ {name : Text} (i : Int), name.isAscii = true →
      Json.ReadsField (name, Json.number i) (name, .number i) :=
    fun i hname => Json.readsField_of_reads _ hname (Json.reads_number i)
  refine List.rel_append (List.rel_append (List.rel_append (List.rel_append ?_ ?_) ?_) ?_) ?_
  · exact .cons (hfield rfl htexts.id) (.cons (hfield rfl htexts.author) .nil)
  · exact readsField_field? rfl htexts.url
  · exact .cons (hfield rfl (Text.isWellFormed_of_isAscii c.date.isAscii_internetText)) .nil
  · exact readsField_field? rfl htexts.replyingTo
  · exact .cons (hfield rfl htexts.html) (.cons (hnumber _ rfl) (.cons (hnumber _ rfl) .nil))

/-- A comment as its data tells it. -/
def toldComment (c : ThreadedComment) : ThreadedComment := { c with message := [], date := c.date.told }

theorem readComment?_commentValue (hdate : c.date.Writable) (hnano : c.date.nano < 1000000000) :
    readComment? (commentValue c) = some (toldComment c) := by
  obtain ⟨hid, hauthor, hurl, hsaid, hreply, hhtml, hdepth, hparent⟩ :
      (commentValue c).text? "id" = some c.id ∧ (commentValue c).text? "author" = some c.author ∧
      (commentValue c).textOrEmpty? "url" = some c.url ∧
      (commentValue c).text? "date" = some c.date.internetText ∧
      (commentValue c).textOrEmpty? "replying_to_id" = some c.replyingTo ∧
      (commentValue c).text? "html" = some c.html ∧ (commentValue c).number? "depth" = some (c.depth : Int) ∧
      (commentValue c).number? "parent" = some (parentNumber c.parent) := by
    unfold commentValue
    cases c.url <;> cases c.replyingTo <;> exact ⟨rfl, rfl, rfl, rfl, rfl, rfl, rfl, rfl⟩
  have hplaced : (decide ((c.depth : Int) < 0) || decide (parentNumber c.parent < -1)) = false := by
    rw [Bool.or_eq_false_iff, decide_eq_false_iff_not, decide_eq_false_iff_not]
    cases c.parent <;> simp only [parentNumber] <;> omega
  have hanswers : (if parentNumber c.parent < 0 then none else some (parentNumber c.parent).toNat) = c.parent := by
    cases c.parent with
    | none => rfl
    | some k => exact if_neg (by simp only [parentNumber]; omega)
  simp only [readComment?, hid, hauthor, hurl, hsaid, hreply, hhtml, hdepth, hparent, hplaced, hanswers,
    Moment.parseInternet?_internetText hdate hnano, Option.bind_eq_bind, Option.bind_some, Bool.false_eq_true, if_false,
    Int.toNat_natCast]
  rfl

/-! ### All comments of a post -/

variable {p : Post}

theorem mapM_map_eq_some {α β γ : Type} {v : α → β} {f : β → Option γ} {g : α → γ} {xs : List α}
    (h : ∀ x ∈ xs, f (v x) = some (g x)) : (xs.map v).mapM f = some (xs.map g) := by
  induction xs with
  | nil => rfl
  | cons x xs ih =>
    rw [List.map_cons, List.mapM_cons, h x List.mem_cons_self, ih fun y hy => h y (List.mem_cons_of_mem x hy)]
    rfl

/-- Where there is no room for a date, the comments are not given as data. -/
theorem commentsData_error (h : ∃ c ∈ p.comments.getD [], ¬c.date.Writable) : ∃ e, commentsData p = .error e := by
  obtain ⟨c, hc, hdate⟩ := h
  cases hcomments : (p.comments.getD []).mapM commentData with
  | error e => exact ⟨e, by rw [commentsData, hcomments]; rfl⟩
  | ok texts =>
    obtain ⟨t, -, ht⟩ := exists_of_mem_right (mapM_eq_ok_iff.mp hcomments).flip hc
    exact absurd (writable_of_commentData ht) hdate

theorem commentsData_reads (hdates : ∀ c ∈ p.comments.getD [], c.date.Writable ∧ c.date.nano < 1000000000)
    (htexts : ∀ c ∈ p.comments.getD [], WellFormedTexts c) (hslug : p.slug.isWellFormed = true) :
    ∃ body, commentsData p = .ok body ∧ readListing? body = some
      { listing p with comments := (p.comments.getD []).map toldComment } := by
  have hwritten := fun c hc => commentData_reads (hdates c hc).1 (htexts c hc)
  choose! text htext hreads using hwritten
  have hdata : (p.comments.getD []).mapM commentData = .ok ((p.comments.getD []).map text) :=
    mapM_eq_ok_iff.mpr (List.forall₂_map_right_iff.mpr (List.forall₂_same.mpr htext))
  have harray : Json.Reads (Json.array ((p.comments.getD []).map text)) (.list ((p.comments.getD []).map commentValue)) :=
    Json.reads_array (List.forall₂_map_left_iff.mpr (List.forall₂_map_right_iff.mpr (List.forall₂_same.mpr hreads)))
  have hbody := Json.read?_of_reads (Json.reads_object
    (.cons (Json.readsField_of_reads "comments" rfl harray)
      (.cons (Json.readsField_of_reads "count" rfl (Json.reads_number p.commentCount))
        (.cons (Json.readsField_of_reads "post" rfl (Json.reads_string hslug)) .nil))))
  refine ⟨_, by rw [commentsData, hdata]; rfl, ?_⟩
  have hcomments : ((p.comments.getD []).map commentValue).mapM readComment? =
      some ((p.comments.getD []).map toldComment) :=
    mapM_map_eq_some fun c hc => readComment?_commentValue (hdates c hc).1 (hdates c hc).2
  refine Option.bind_eq_some_iff.mpr ⟨_, hbody, ?_⟩
  refine Option.bind_eq_some_iff.mpr ⟨_, rfl, ?_⟩
  exact Option.bind_eq_some_iff.mpr ⟨_, hcomments, rfl⟩

end Preview

/-! ### Dates that were loaded -/

namespace Comment

theorem ofRecord_nano {r : Yaml.Record} {c : Comment} (h : ofRecord r = .ok c) : c.date.nano < 1000000000 := by
  rw [ofRecord_def] at h
  split at h
  · cases h
  split at h
  · cases h
  split at h
  · cases h
  split at h
  · cases h
  rename_i hdate
  obtain rfl := Except.ok.inj h
  exact Moment.parseFreeForm?_nano hdate

theorem parse_nano {source : Text} {c : Comment} (h : parse source = .ok c) : c.date.nano < 1000000000 := by
  rw [parse_def] at h
  split at h
  · cases h
  · cases h
  · exact ofRecord_nano h

theorem exists_source_of_load {tree : File.Tree} {path : Text} {c : Comment} (h : load tree path = .ok c) :
    ∃ source, parse source = .ok c := by
  rw [load_def] at h
  split at h
  · split at h
    · rename_i hparse
      exact ⟨_, Except.ok.inj h ▸ hparse⟩
    · cases h
  · split at h <;> cases h

end Comment

/-- Each comment of a post was read from a text. -/
theorem Post.exists_source_of_loadComments {tree : File.Tree} {p : Post} {ts : List ThreadedComment}
    (h : p.loadComments tree = .ok ts) : ∀ t ∈ ts, ∃ source, Comment.parse source = .ok t.toComment := by
  rw [Post.loadComments_def] at h
  split at h
  · cases h
  rename_i found hfound
  split at h
  · cases h
  rename_i hthread
  obtain rfl := Except.ok.inj h
  intro t ht
  have hmem := (Thread.isThread_of_thread hthread).2.mem_comments ht
  cases found with
  | none => cases hmem
  | some cs =>
    obtain ⟨paths, hpaths⟩ := Comment.exists_paths_of_loadDirectory hfound
    obtain ⟨path, -, hload⟩ := exists_of_mem_right hpaths hmem
    exact Comment.exists_source_of_load hload

namespace Site

/-- The fractions of the dates of all comments are less than a second. -/
def FractionsFine (posts : List Post) : Prop := ∀ p ∈ posts, ∀ c ∈ p.comments.getD [], c.date.nano < 1000000000

theorem fractionsFine_law : TimelineLaw fun posts _ => FractionsFine posts where
  nil := fun _ hp => nomatch hp
  found h p hp c hc := by
    rw [((timelineOf_fresh h).1 p hp).comments] at hc
    cases hc
  changed {posts posts' _} hposts hchanges q hq := by
    obtain ⟨p, hp, hchange⟩ := exists_of_mem_right hchanges hq
    cases hchange with
    | same => exact hposts _ hp
    | dropped => exact fun _ hc => nomatch hc
    | loaded _ hcs =>
      intro c hc
      obtain ⟨source, hsource⟩ := Post.exists_source_of_loadComments hcs c hc
      exact Comment.parse_nano hsource
    | rendered => exact hposts p hp

end Site

theorem Slug.Proper.isAscii {t : Text} (h : Proper t) : t.isAscii = true := by
  refine List.all_eq_true.mpr fun c hc => decide_eq_true ?_
  rcases h.2.1 c hc with ⟨-, hlast⟩ | ⟨-, hlast⟩ | rfl | rfl
  · exact UInt8.lt_of_le_of_lt hlast (by decide)
  · exact UInt8.lt_of_le_of_lt hlast (by decide)
  · decide
  · decide

namespace Preview

open Site

variable {s : Site} {p : Post} {slug : Text}

/-! ### Requests -/

theorem component_comments (h : Path.separator ∉ slug) :
    component (slug ++ Text.ofString "/comments") = (slug, Text.ofString "/comments") := by
  have hall : ∀ c ∈ slug, (c != ('/' : UInt8)) = true := by
    rintro c hc
    refine bne_iff_ne.mpr ?_
    rintro rfl
    exact h hc
  rw [component, Text.span, List.takeWhile_append_of_pos hall, List.dropWhile_append_of_pos hall]
  exact Prod.ext (List.append_nil slug) rfl

theorem lookUp_comments (h : Path.separator ∉ slug) :
    lookUp "GET" ("/api/posts/" ++ slug ++ "/comments") = .found (.comments slug) := by
  have hindex : fixedPath "/" .index ("/api/posts/" ++ slug ++ "/comments") = .unknown := rfl
  have hpost : postPath ("/api/posts/" ++ slug ++ "/comments") = .unknown := rfl
  have hbelow : below? "/api/posts/" ("/api/posts/" ++ slug ++ "/comments") = some (slug ++ Text.ofString "/comments") := by
    rw [below?, List.append_assoc, Text.after?_append]
    refine Option.filter_eq_some_iff.mpr ⟨rfl, ?_⟩
    cases slug <;> rfl
  have hcomments : commentsPath ("/api/posts/" ++ slug ++ "/comments") = .found (.comments slug) := by
    simp only [commentsPath, hbelow, component_comments h]
    rfl
  rw [lookUp, if_pos (beq_self_eq_true _), hindex, hpost, hcomments]
  rfl

/-- How a site answers programs that ask for comments. What they read of a post is all that there is, unless there is no
room for a date or its clock is not a whole number of minutes away from universal time. -/
structure CommentsServed (s : Site) : Prop where
  post : ∀ host (url : Url), ∀ p ∈ s.timeline, (∀ c ∈ p.comments.getD [], WellFormedTexts c) →
    url.path = "/api/posts/" ++ p.slug ++ "/comments" → (answer s host url).status = 200 ∧
    (readListing? (answer s host url).body = some (listing p) ↔ ∀ c ∈ p.comments.getD [], c.date.Portable) ∧
    ((∃ c ∈ p.comments.getD [], ¬c.date.Writable) → (answer s host url).body = [])
  missing : ∀ host (url : Url) slug, Path.separator ∉ slug → (∀ p ∈ s.timeline, p.slug ≠ slug) →
    url.path = "/api/posts/" ++ slug ++ "/comments" → (answer s host url).status = 404 ∧
    (readError? (answer s host url).body).isSome = true

theorem told_comments_iff (hdates : ∀ c ∈ p.comments.getD [], c.date.Writable) :
    { listing p with comments := (p.comments.getD []).map toldComment } = listing p ↔
      ∀ c ∈ p.comments.getD [], c.date.Portable := by
  have hone : ∀ c : ThreadedComment, toldComment c = { c with message := [] } ↔ 60 ∣ c.date.offset := by
    intro c
    rw [← Moment.told_eq_iff]
    exact ⟨fun h => congrArg (fun c => c.date) h, fun h => by rw [toldComment, h]⟩
  simp only [listing, Listing.mk.injEq, and_true, List.map_inj_left, hone]
  exact ⟨fun h c hc => ⟨hdates c hc, h c hc⟩, fun h c hc => (h c hc).minutes⟩

theorem commentsOf_post (hfound : s.post? slug = some p) (hslug : p.slug.isWellFormed = true)
    (htexts : ∀ c ∈ p.comments.getD [], WellFormedTexts c)
    (hnanos : ∀ c ∈ p.comments.getD [], c.date.nano < 1000000000) :
    (commentsOf s slug).status = 200 ∧
    (readListing? (commentsOf s slug).body = some (listing p) ↔ ∀ c ∈ p.comments.getD [], c.date.Portable) ∧
    ((∃ c ∈ p.comments.getD [], ¬c.date.Writable) → (commentsOf s slug).body = []) := by
  by_cases hdates : ∀ c ∈ p.comments.getD [], c.date.Writable
  · obtain ⟨body, hbody, hread⟩ := commentsData_reads (fun c hc => ⟨hdates c hc, hnanos c hc⟩) htexts hslug
    simp only [commentsOf, hfound, hbody, Response.json]
    refine ⟨trivial, ?_, fun ⟨c, hc, hdate⟩ => absurd (hdates c hc) hdate⟩
    rw [hread, Option.some.injEq, told_comments_iff hdates]
  · simp only [not_forall, exists_prop] at hdates
    obtain ⟨e, he⟩ := commentsData_error hdates
    obtain ⟨c, hc, hdate⟩ := hdates
    simp only [commentsOf, hfound, he, Response.json]
    exact ⟨trivial, ⟨nofun, fun h => absurd (h c hc).toWritable hdate⟩, fun _ => trivial⟩

/-- An answer that tells that a post is not there. -/
theorem readError?_missing :
    readError? (Json.object [("error", Json.string "post not found")]) = some ("post not found" : Text) := by
  have hbody := Json.read?_of_reads (Json.reads_object (.cons (Json.readsField_of_reads "error" rfl
    (Json.reads_string (Text.isWellFormed_of_isAscii (t := "post not found") rfl))) .nil))
  rw [readError?, hbody]
  rfl

/-- Whatever is done with a site, it answers programs that ask for comments. -/
theorem reached_comments_served (config : Config) (tree : File.Tree) (ops : List Operation) :
    CommentsServed (reached config tree ops) := by
  have hsound : TimelineSound (reached config tree ops) := (ordered_law.reached config tree ops).sound
  have hfine := fractionsFine_law.reached config tree ops
  constructor
  · intro host url p hp htexts hurl
    have hproper := hsound.proper p hp
    have hslug := (Slug.isName_of_isSlug (Slug.isSlug_iff.mpr hproper)).2.2.2
    rw [answer_eq host (.comments p.slug) (by rw [hurl]; exact lookUp_comments hslug)]
    exact commentsOf_post ((hsound.found p.slug p).mpr ⟨hp, rfl⟩) (Text.isWellFormed_of_isAscii hproper.isAscii) htexts
      (hfine p hp)
  · intro host url slug hslug hnone hurl
    rw [answer_eq host (.comments slug) (by rw [hurl]; exact lookUp_comments hslug)]
    simp only [routeResponse, commentsOf, (hsound.missing slug).mpr hnone, Response.json, readError?_missing]
    exact ⟨trivial, rfl⟩

/-! ### A clock that is a day ahead -/

/-- A comment of a reader whose clock is ahead. -/
def aheadSource (offset : Text) : Text := "_id: a\ndate: 2024-01-01T00:00:00+" ++ offset ++ "\nmessage: b"

open Yaml in
def aheadTokens (offset : Text) : TokenStream :=
  ⟨#[.blockMappingStart, .key, .scalar true "_id", .value, .scalar true "a", .key, .scalar true "date", .value,
    .scalar true ("2024-01-01T00:00:00+" ++ offset), .key, .scalar true "message", .value, .scalar true "b", .blockEnd,
    .streamEnd], false⟩

/-- The comment in its place. -/
def aheadComment (offset : Int) : ThreadedComment :=
  { id := "a", date := ⟨1704067200 - offset, 0, offset⟩, message := "b", html := "<p>b</p>\n" }

/-- Ahead by a day, and by a minute less. -/
def offsets : List (Text × Int) := [("24:00", 86400), ("23:59", 86340)]

theorem parse_aheadSource : ∀ o ∈ offsets, (Comment.parse (aheadSource o.1)).map (fun c => { c with html := [] }) =
    .ok { (aheadComment o.2).toComment with html := [] } := by
  have hday : Yaml.TokenStream.ofSource (Yaml.Source.ofText (aheadSource "24:00")) = aheadTokens "24:00" := by cbv
  have hless : Yaml.TokenStream.ofSource (Yaml.Source.ofText (aheadSource "23:59")) = aheadTokens "23:59" := by cbv
  refine List.forall_mem_cons.mpr ⟨?_, List.forall_mem_singleton.mpr ?_⟩
  · simp only [Comment.parse_def, Yaml.readRecord, Yaml.Document.ofText, hday]
    decide +kernel
  · simp only [Comment.parse_def, Yaml.readRecord, Yaml.Document.ofText, hless]
    decide +kernel

theorem renderMessage_letter : Comment.renderMessage "b" = "<p>b</p>\n" := by decide +kernel

/-- A post with one comment. -/
def aheadTree (offset : Text) : File.Tree where
  entries :=
    [(["posts"], .dir), (["posts", "a.md"], .file "Hello."), (["posts", "a.md.comments"], .dir),
      (["posts", "a.md.comments", "1.yml"], .file (aheadSource offset))]

def foundPost : Post := { sourcePath := "posts/a.md", title := "a", slug := "a", content := "Hello." }

/-- The post with its comment. -/
def aheadPost (offset : Int) : Post := { foundPost with comments := some [aheadComment offset] }

theorem timelineOf_aheadTree (offset : Text) : timelineOf (aheadTree offset) "posts" = .ok [foundPost] := by
  have hnames : (aheadTree offset).names ["posts"] = ["a.md", "a.md.comments"] :=
    Text.mergeSort_eq_of_perm (List.Perm.refl _) (by decide)
  have hpaths : findPosts (aheadTree offset) "posts" = .ok ["posts/a.md"] := by
    rw [findPosts_of_names (by rfl) hnames (n := 3) (by rfl)]
    rfl
  rw [timelineOf, readPosts, hpaths]
  cbv

theorem thread_singleton {c : Comment} (h : c.replyingTo = []) : thread [c] = .ok [{ c with depth := 0 }] := by
  have hreply : c.isReply = false := by rw [Comment.isReply, h]; rfl
  have hparents : Thread.parents [c] = #[none] := by simp [Thread.parents, hreply]
  have hduplicate : Thread.duplicate? [] [c] = none := rfl
  have hdangling : Thread.dangling? [c] = none := by simp [Thread.dangling?, hreply]
  have hcycle : Thread.cycle? #[none] = none := by decide
  simp only [thread, hduplicate, hdangling, hparents, hcycle]
  simp [Thread.ordered, Thread.children, Thread.sortPlaces, Thread.walk]

theorem loadComments_aheadTree {o : Text × Int} (ho : o ∈ offsets) :
    foundPost.loadComments (aheadTree o.1) = .ok [aheadComment o.2] := by
  have hfiles : ∀ o ∈ offsets, (aheadTree o.1).stat "posts/a.md.comments" = .ok .dir ∧
      (Comment.filePatterns.mapM fun pattern => (aheadTree o.1).glob? (Path.join ["posts/a.md.comments", pattern])) =
        some [[Text.ofString "posts/a.md.comments/1.yml"], []] ∧
      (aheadTree o.1).readFile "posts/a.md.comments/1.yml" = .ok (aheadSource o.1) := by decide +kernel
  obtain ⟨hdir, hglob, hread⟩ := hfiles o ho
  have hparse := parse_aheadSource o ho
  cases hcomment : Comment.parse (aheadSource o.1) with
  | error e =>
    rw [hcomment] at hparse
    cases hparse
  | ok c =>
    rw [hcomment] at hparse
    have hfields := Except.ok.inj hparse
    have hhtml : c.html = "<p>b</p>\n" := by
      rw [(Comment.parse_sound hcomment).html_eq, show c.message = "b" from congrArg Comment.message hfields,
        renderMessage_letter]
    have hc : c = (aheadComment o.2).toComment := by
      have hrendered := congrArg (fun d : Comment => { d with html := c.html }) hfields
      exact hrendered.trans (by rw [hhtml]; rfl)
    have hload : Comment.loadDirectory (aheadTree o.1) foundPost.commentsDir = .ok (some [c]) :=
      Comment.loadDirectory_of_path hdir hglob hread hcomment
    have hthread := thread_singleton (c := c) (by rw [hc]; rfl)
    rw [Post.loadComments_def, hload]
    simp only [Option.getD_some, hthread]
    rw [hc]
    rfl

/-- After a scan the post has its comment. -/
theorem timeline_aheadTree {o : Text × Int} (ho : o ∈ offsets) :
    (reached {} (aheadTree o.1) [.scan]).timeline = [aheadPost o.2] := by
  have hload := loadComments_aheadTree ho
  have hloadable : Loadable ({} : Config) (aheadTree o.1) [foundPost] :=
    Or.inr (List.forall_mem_singleton.mpr ⟨_, hload⟩)
  obtain ⟨log, hscan⟩ := run_scan_of_loadable (s := withComments {} (aheadTree o.1)) rfl (timelineOf_aheadTree o.1) hloadable
  rw [reached, List.foldl_cons, List.foldl_nil, perform, hscan]
  change [commented (aheadTree o.1) foundPost] = _
  rw [commented, hload]
  rfl

theorem wellFormedTexts_ahead (offset : Int) : ∀ c ∈ (aheadPost offset).comments.getD [], WellFormedTexts c := by
  refine List.forall_mem_singleton.mpr ?_
  constructor <;> exact Text.isWellFormed_of_isAscii rfl

/-- A comment with a date for which there is no room, although the loader has taken it, leaves the answer empty. -/
theorem day_ahead_unanswered :
    (reached {} (aheadTree "24:00") [.scan]).timeline = [aheadPost 86400] ∧
    (∀ c ∈ (aheadPost 86400).comments.getD [], WellFormedTexts c) ∧
    ∀ host (url : Url), url.path = "/api/posts/a/comments" →
      (answer (reached {} (aheadTree "24:00") [.scan]) host url).body = [] ∧
      readListing? (answer (reached {} (aheadTree "24:00") [.scan]) host url).body ≠ some (listing (aheadPost 86400)) := by
  have htimeline := timeline_aheadTree (o := ("24:00", 86400)) List.mem_cons_self
  refine ⟨htimeline, wellFormedTexts_ahead 86400, fun host url hurl => ?_⟩
  have hsound := (ordered_law.reached {} (aheadTree "24:00") [.scan]).sound
  have hfound := (hsound.found "a" (aheadPost 86400)).mpr ⟨htimeline ▸ List.mem_singleton_self _, rfl⟩
  have hroom : ¬(aheadComment 86400).date.Writable := fun h => absurd h.offset (by decide)
  obtain ⟨e, he⟩ := commentsData_error (p := aheadPost 86400) ⟨_, List.mem_singleton_self _, hroom⟩
  rw [answer_eq host (.comments "a") (by rw [hurl]; exact lookUp_comments (by decide))]
  simp only [routeResponse, commentsOf, hfound, he, Response.json]
  refine ⟨trivial, fun hread => ?_⟩
  cases hread

/-- On a clock that is a minute less ahead, all of the comment can be read. -/
theorem less_ahead_answered :
    (reached {} (aheadTree "23:59") [.scan]).timeline = [aheadPost 86340] ∧
    ∀ host (url : Url), url.path = "/api/posts/a/comments" →
      (answer (reached {} (aheadTree "23:59") [.scan]) host url).status = 200 ∧
      readListing? (answer (reached {} (aheadTree "23:59") [.scan]) host url).body = some (listing (aheadPost 86340)) := by
  have htimeline := timeline_aheadTree (o := ("23:59", 86340)) (List.mem_cons_of_mem _ List.mem_cons_self)
  refine ⟨htimeline, fun host url hurl => ?_⟩
  have hpost := (reached_comments_served {} (aheadTree "23:59") [.scan]).post host url (aheadPost 86340)
    (htimeline ▸ List.mem_singleton_self _) (wellFormedTexts_ahead 86340) hurl
  have hportable : (aheadComment 86340).date.Portable := ⟨⟨by decide +kernel, by decide⟩, by decide⟩
  exact ⟨hpost.1, hpost.2.1.mpr (List.forall_mem_singleton.mpr hportable)⟩

end Preview

end Marginalia
