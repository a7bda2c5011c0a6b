import Mathlib
import Marginalia.Proofs.Calendar.Civil
import Marginalia.Proofs.Orders
import Marginalia.Proofs.Preview.Agreement
import Marginalia.Proofs.Text.Numerals
import Marginalia.Proofs.Xml.Reading

/-!
The map of the site, as one reads it. Whatever the address of the site may be, the document is a list of the site and
then of each post in the order of the timeline, each with its address; and a post comes with the day on which something
was last said in it, in universal time, unless there is no date.
-/

namespace Marginalia

namespace Preview

open Xml (Node Shows IsTag)

variable {m : Moment} {ms : List Moment} {name t : Text} {c : UInt8} {nodes : List Node}

theorem hyphen_eq : Text.ofString "-" = ['-'.toUInt8] := by decide

/-! ### The last change -/

/-- One of some moments, with none of them after it. -/
def Latest (m : Moment) (ms : List Moment) : Prop := m ∈ ms ∧ ∀ d ∈ ms, d.order m ≠ .gt

theorem latest_iff : Latest m ms ↔ m ∈ ms ∧ ∀ d ∈ ms, d.instant ≤ m.instant := by
  simp only [Latest, (Moment.order_compares _ m).ne_gt]

theorem later_cases (a b : Moment) :
    later a b = b ∧ a.instant < b.instant ∨ later a b = a ∧ b.instant ≤ a.instant := by
  have horder := Moment.order_compares b a
  by_cases h : b.order a = .gt
  · exact Or.inl ⟨by simp [later, h], horder.eq_gt.mp h⟩
  · exact Or.inr ⟨by simp [later, h], horder.ne_gt.mp h⟩

/-- What is kept after each moment is the latest so far. -/
theorem latest_foldl (m : Moment) (ms : List Moment) : Latest (ms.foldl later m) (m :: ms) := by
  induction ms generalizing m with
  | nil => simp [latest_iff]
  | cons d ms ih =>
    obtain ⟨hmem, hall⟩ := latest_iff.mp (ih (later m d))
    rw [latest_iff]
    simp only [List.foldl_cons, List.mem_cons, forall_eq_or_imp] at hmem hall ⊢
    rcases later_cases m d with ⟨hlater, hlt⟩ | ⟨hlater, hle⟩
    all_goals rw [hlater] at hmem hall ⊢
    · exact ⟨Or.inr hmem, hlt.le.trans hall.1, hall.1, hall.2⟩
    · exact ⟨hmem.imp_right Or.inr, hall.1, hle.trans hall.1, hall.2⟩

/-- The date in universal time at a number of seconds, written with year, month and day. -/
def IsDate (seconds : Int) (t : Text) : Prop :=
  ∃ year month day, (1 ≤ month ∧ month ≤ 12) ∧ (1 ≤ day ∧ day ≤ Calendar.daysIn month year) ∧
    Calendar.dayNumber year month day = seconds / 86400 ∧
    t = Moment.yearText year ++ "-" ++ Text.padNat 2 month ++ "-" ++ Text.padNat 2 day

theorem isDate_dateText (m : Moment) : IsDate m.seconds m.utc.dateText := by
  have hday : m.utc.day = m.seconds / 86400 := by
    simp [Moment.day, Moment.utc, Int.fdiv_eq_ediv_of_nonneg]
  exact ⟨_, _, _, m.utc.civil_valid.month, m.utc.civil_valid.day, m.utc.dayNumber_civil.trans hday, rfl⟩

/-- What is said about a moment: its date, and nothing about the one that stands for no date. -/
def Dates (m : Moment) : Option Text → Prop
  | none => m.order Moment.zero = .eq
  | some t => m.order Moment.zero ≠ .eq ∧ IsDate m.seconds t

theorem order_zero_iff : m.order Moment.zero = .eq ↔ m.isZero = true := by
  simp [Moment.order, Moment.isZero, Ordering.then_eq_eq, Moment.zero]

/-- The date that the document has for a post. -/
def changed? (p : Post) : Option Text := if (lastChange p).isZero then none else some (lastChange p).utc.dateText

theorem dates_changed (p : Post) : Dates (lastChange p) (changed? p) := by
  cases hzero : (lastChange p).isZero with
  | true => simp [changed?, hzero, Dates, order_zero_iff]
  | false =>
    simp only [changed?, hzero, Bool.false_eq_true, if_false]
    exact ⟨by simp [order_zero_iff, hzero], isDate_dateText _⟩

/-- A date can be written as it is. -/
theorem escapeMarkup_dateText (m : Moment) : Xml.escapeMarkup m.dateText = m.dateText := by
  refine Xml.escapeMarkup_of_plain ?_
  have hdigit : ∀ c, Text.isDigit c = true → Xml.markupReference? c = none := by
    intro c hc
    unfold Xml.markupReference?
    split_ifs with hand hapostrophe hless hmore hquote
    case neg => rfl
    all_goals
      simp only [beq_iff_eq] at *
      subst c
      exact absurd hc (by decide)
  have hhyphen : ∀ c ∈ Text.ofString "-", Xml.markupReference? c = none := by
    simp only [hyphen_eq, List.mem_singleton, forall_eq]
    rfl
  intro c hc
  simp only [Moment.dateText, Moment.yearText, List.mem_append] at hc
  rcases hc with ((((hc | hc) | hc) | hc) | hc) | hc
  · split at hc
    · exact hhyphen c hc
    · cases hc
  · exact hdigit c (Text.isDigit_of_mem_padNat hc)
  · exact hhyphen c hc
  · exact hdigit c (Text.isDigit_of_mem_padNat hc)
  · exact hhyphen c hc
  · exact hdigit c (Text.isDigit_of_mem_padNat hc)

/-! ### What the document shows -/

/-- An element with nothing but a text. -/
def leaf (name t : Text) : Node := .element name [] [.text t]

/-- The list of posts, at its address. -/
def siteNode (siteUrl : Text) : Node :=
  .element "url" [] [leaf "loc" (siteUrl ++ "/"), leaf "changefreq" "daily", leaf "priority" "1.0"]

/-- A post at its address, with the date of its last change. -/
def postNode (address : Text) (changed : Option Text) : Node :=
  .element "url" [] ([leaf "loc" address] ++ changed.toList.map (leaf "lastmod") ++ [leaf "priority" "0.7"])

/-- A node tells of a post: where it is, and on which day something was last said in it. -/
def Tells (siteUrl : Text) (p : Post) (node : Node) : Prop :=
  ∃ latest changed, Latest latest (p.date :: (p.comments.getD []).map (·.date)) ∧ Dates latest changed ∧
    node = postNode (siteUrl ++ "/posts/" ++ p.slug ++ "/") changed

theorem tells_post (siteUrl : Text) (p : Post) : Tells siteUrl p (postNode (siteUrl ++ p.url) (changed? p)) := by
  refine ⟨lastChange p, changed? p, latest_foldl _ _, dates_changed p, ?_⟩
  simp [Post.url]

/-! ### Lines and entries -/

/-- The line of an element with nothing but a text. -/
def line (name t : Text) : Text := "    " ++ Xml.tagged name [] (Xml.escapeMarkup t) ++ "\n"

/-- An entry around its lines. -/
def entryAround (lines : Text) : Text := "  " ++ Xml.tagged "url" [] ("\n" ++ lines ++ "  ") ++ "\n"

/-- The entry of the list of posts. -/
def siteEntry (siteUrl : Text) : Text :=
  entryAround (line "loc" (siteUrl ++ "/") ++ line "changefreq" "daily" ++ line "priority" "1.0")

theorem shows_line (hname : IsTag name []) (hc : c ∈ t) (hspace : Text.isSpace c = false) :
    Shows (line name t) [leaf name t] :=
  (Xml.shows_leaf hname hc hspace).between "    " "\n" rfl rfl

theorem shows_loc (t : Text) : Shows (line "loc" (t ++ "/")) [leaf "loc" (t ++ "/")] :=
  shows_line (c := '/') (by decide) (List.mem_append_right t (by decide)) rfl

theorem shows_entryAround (h : Shows t nodes) : Shows (entryAround t) [.element "url" [] nodes] :=
  ((h.between "\n" "  " rfl rfl).tagged (by decide)).between "  " "\n" rfl rfl

theorem entry_begins : Text.ofString "  <url>\n    <loc>" =
    "  " ++ ("<" ++ Text.ofString "url") ++ ">" ++ "\n" ++ "    " ++ ("<" ++ Text.ofString "loc") ++ ">" := by
  decide

theorem sitemapEntry_eq (siteUrl : Text) (p : Post) : sitemapEntry siteUrl p =
    entryAround (line "loc" (siteUrl ++ p.url) ++ ((changed? p).toList.flatMap (line "lastmod")) ++
      line "priority" "0.7") := by
  have hloc : Text.ofString "</loc>\n" = "<" ++ (Text.ofString "/" ++ Text.ofString "loc") ++ ">" ++ "\n" := by decide
  have hbegins : Text.ofString "    <lastmod>" = "    " ++ ("<" ++ Text.ofString "lastmod") ++ ">" := by decide
  have hlastmod : Text.ofString "</lastmod>\n" =
      "<" ++ (Text.ofString "/" ++ Text.ofString "lastmod") ++ ">" ++ "\n" := by decide
  have hends : Text.ofString "    <priority>0.7</priority>\n  </url>\n" =
      line "priority" "0.7" ++ "  " ++ ("<" ++ (Text.ofString "/" ++ Text.ofString "url")) ++ ">" ++ "\n" := by
    decide
  rw [sitemapEntry, entry_begins, hloc, hends, hbegins, hlastmod, entryAround, line.eq_1 "loc"]
  cases hzero : (lastChange p).isZero with
  | true => simp [changed?, hzero, Text.onlyIf, Xml.tagged]
  | false => simp [changed?, hzero, Text.onlyIf, Xml.tagged, line.eq_1 "lastmod", escapeMarkup_dateText]

theorem shows_site (siteUrl : Text) : Shows (siteEntry siteUrl) [siteNode siteUrl] := by
  have hfrequency : Shows (line "changefreq" "daily") [leaf "changefreq" "daily"] :=
    shows_line (c := 'd') (by decide) (by decide) rfl
  have hpriority : Shows (line "priority" "1.0") [leaf "priority" "1.0"] :=
    shows_line (c := '1') (by decide) (by decide) rfl
  exact shows_entryAround (((shows_loc siteUrl).append hfrequency).append hpriority)

theorem shows_changed (p : Post) :
    Shows ((changed? p).toList.flatMap (line "lastmod")) ((changed? p).toList.map (leaf "lastmod")) := by
  cases hzero : (lastChange p).isZero with
  | true =>
    simp only [changed?, hzero, if_true]
    exact Shows.space rfl
  | false =>
    have hhyphen : '-'.toUInt8 ∈ (lastChange p).utc.dateText := by simp [Moment.dateText, hyphen_eq]
    have hline : Shows (line "lastmod" (lastChange p).utc.dateText) [leaf "lastmod" (lastChange p).utc.dateText] :=
      shows_line (by decide) hhyphen rfl
    simpa [changed?, hzero] using hline

theorem shows_post (siteUrl : Text) (p : Post) :
    Shows (sitemapEntry siteUrl p) [postNode (siteUrl ++ p.url) (changed? p)] := by
  have hpriority : Shows (line "priority" "0.7") [leaf "priority" "0.7"] :=
    shows_line (c := '0') (by decide) (by decide) rfl
  have haddress : siteUrl ++ p.url = siteUrl ++ "/posts/" ++ p.slug ++ "/" := by simp [Post.url]
  rw [sitemapEntry_eq, haddress]
  exact shows_entryAround (((shows_loc _).append (shows_changed p)).append hpriority)

/-! ### The document -/

/-- What the tag of the document says behind its name. -/
def setAttributes : Text := " xmlns=\"http://www.sitemaps.org/schemas/sitemap/0.9\""

/-- The document before the tag of its list. -/
def declaration : Text := "<?xml version=\"1.0\" encoding=\"UTF-8\"?"

theorem sitemap_eq (siteUrl : Text) (posts : List Post) : sitemap siteUrl posts =
    declaration ++ (">" ++ ("\n" ++ Xml.tagged "urlset" setAttributes
      ("\n" ++ (siteEntry siteUrl ++ posts.flatMap (sitemapEntry siteUrl))))) := by
  have hbegins : Text.ofString
      "<?xml version=\"1.0\" encoding=\"UTF-8\"?>\n<urlset xmlns=\"http://www.sitemaps.org/schemas/sitemap/0.9\">\n" =
        declaration ++ ">" ++ "\n" ++ ("<" ++ (Text.ofString "urlset" ++ setAttributes)) ++ ">" ++ "\n" := by
    decide
  have hsite : Text.ofString "/</loc>\n    <changefreq>daily</changefreq>\n    <priority>1.0</priority>\n  </url>\n" =
      Xml.escapeMarkup "/" ++ ("<" ++ (Text.ofString "/" ++ Text.ofString "loc")) ++ ">" ++ "\n" ++
        line "changefreq" "daily" ++ line "priority" "1.0" ++
        "  " ++ ("<" ++ (Text.ofString "/" ++ Text.ofString "url")) ++ ">" ++ "\n" := by
    decide
  have hends : Text.ofString "</urlset>" = "<" ++ (Text.ofString "/" ++ Text.ofString "urlset") ++ ">" := by decide
  rw [sitemap, hbegins, entry_begins, hsite, hends, siteEntry, entryAround, line.eq_1 "loc"]
  simp [Xml.tagged, Xml.escapeMarkup_append]

/-- Whatever the address of the site, its map is read as a list of the site and then of each post. -/
theorem sitemap_reads (s : Site) (host : Text) (url : Url) : ∃ entries,
    Xml.read? (answer s host { url with path := "/sitemap.xml" }).body =
      some [.element "urlset" setAttributes (siteNode s.config.siteUrl :: entries)] ∧
    List.Forall₂ (Tells s.config.siteUrl) s.timeline entries := by
  have hanswer : (answer s host { url with path := "/sitemap.xml" }).body = sitemap s.config.siteUrl s.timeline := by
    rw [answer_eq host .sitemap rfl]
    rfl
  have htag : IsTag "urlset" setAttributes := ⟨by decide, by decide, rfl, by decide⟩
  have hentries := (shows_site s.config.siteUrl).append
    (Xml.shows_flatMap (shows_post s.config.siteUrl) s.timeline)
  have hset := (Shows.space (t := "\n") rfl).append (((Shows.space (t := "\n") rfl).append hentries).tagged htag)
  refine ⟨s.timeline.map fun p => postNode (s.config.siteUrl ++ p.url) (changed? p), ?_, ?_⟩
  · rw [hanswer, sitemap_eq]
    exact hset.read? rfl (by decide)
  · rw [List.forall₂_map_right_iff]
    exact List.forall₂_same.mpr fun p _ => tells_post s.config.siteUrl p

end Preview

end Marginalia
