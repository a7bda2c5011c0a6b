import Mathlib
import Marginalia.Preview.Serve
import Marginalia.Proofs.Orders
import Marginalia.Proofs.Page.Template

/-!
The pages that the preview renders. It assembles all pages once and writes each for what all pages are given, what the page
itself is given, and the path that is asked for. A page names no path, and what it is given itself has all that every page
is given, so that it is the page that a building writes.
-/

namespace Marginalia

open Template (Data Value)

namespace Page

variable {name : Text}

/-- What a page is given itself stands over what all pages are given. -/
theorem merge_pageData (c : Config) (title : Text) (v : Value) :
    (pageData c []).merge ((pageData c title).set name v) = (pageData c title).set name v := by
  have hpage : (pageData c []).merge (pageData c title) = pageData c title := by
    funext n
    by_cases htitle : n = "SiteTitle" ∨ n = "Title" ∨ n = "FormAction"
    · obtain rfl | rfl | rfl := htitle <;> rfl
    · obtain ⟨hsite, hown, hform⟩ := not_or.mp htitle |>.imp_right not_or.mp
      simp [Data.merge, pageData, Data.ofFields, List.lookup, beq_false_of_ne, hsite, hown, hform]
  funext n
  rw [Data.merge, Data.set]
  split
  · rfl
  · exact congrFun hpage n

theorem postTemplate_names (n : Text) (h : n ∈ postTemplate.names) : n ≠ "CurrentPath" := by
  revert n
  decide

theorem indexTemplate_names (n : Text) (h : n ∈ indexTemplate.names) : n ≠ "CurrentPath" := by
  revert n
  decide

end Page

namespace Preview

variable {s : Site} {r : Request} {page slug : Text} {t : Template} {own : Data} {p : Post}

theorem templates?_eq : templates? =
    some [(Text.ofString "error.html", Page.errorTemplate), (Text.ofString "index.html", Page.indexTemplate),
      (Text.ofString "post.html", Page.postTemplate)] := by
  have hnames : ((Page.pages.map (·.1)).mergeSort fun a b => Text.order a b != .gt) =
      [Text.ofString "error.html", Text.ofString "index.html", Text.ofString "post.html"] :=
    Text.mergeSort_eq_of_perm (by decide) (by decide)
  rw [templates?, hnames]
  rfl

/-- The path that is asked for does not show where the template does not name it. -/
theorem body_render (status : Nat) (hpage : (templates?.bind fun templates => templates.lookup page) = some t)
    (hnames : ∀ n ∈ t.names, n ≠ "CurrentPath") (hown : (Page.pageData s.config []).merge own = own) :
    (render s r status page own).body = t.execute own := by
  show ((Option.bind _ _).map _).getD _ = _
  rw [hpage]
  refine Template.execute_congr fun n hn => ?_
  rw [requestData, hown, Data.set, if_neg (by simpa using hnames n hn)]
  exact .refl _

/-- The list of posts is that of a building. -/
theorem body_indexPage (s : Site) (r : Request) : (indexPage s r).body = Page.index s.config s.timeline :=
  body_render 200 (by rw [templates?_eq]; rfl) Page.indexTemplate_names (Page.merge_pageData s.config _ _)

/-- The page of a post is that of a building. -/
theorem body_postPage (h : s.post? slug = some p) : (postPage s r slug).body = Page.post s.config p := by
  simp only [postPage, h]
  exact body_render 200 (by rw [templates?_eq]; rfl) Page.postTemplate_names (Page.merge_pageData s.config _ _)

end Preview

end Marginalia
