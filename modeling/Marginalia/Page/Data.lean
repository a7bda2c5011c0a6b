import Marginalia.Config
import Marginalia.Page.Sources

/-!
What pages are written for. A page of a site has the title of the site, its own title and the place to which comments are
sent; the page of a post has the post too, and the list of posts all of them.
-/

namespace Marginalia

namespace Page

open Template (Data)

/-- What all pages are written for. -/
def pageData (c : Config) (title : Text) : Data :=
  .ofFields [("SiteTitle", .text c.siteTitle), ("Title", .text title), ("FormAction", .text c.formAction)]

/-- What the page of a post is written for. -/
def postData (c : Config) (p : Post) : Data := (pageData c p.title).set "Post" (.post p)

/-- What the list of posts is written for. -/
def indexData (c : Config) (posts : List Post) : Data := (pageData c []).set "Posts" (.posts posts)

/-- The template of a page, assembled from its sources; nothing if there is no such page. -/
def template? (page : Text) : Option Template := (pageSources? page).map (Template.assemble page)

end Page

end Marginalia
