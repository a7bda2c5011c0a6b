import Marginalia.Page.Template

/-!
The sources of the pages: the list of posts, a post with its comments, and a page that tells of an error, with the layout
that is around them all.
-/

namespace Marginalia

namespace Page

open Template (Body Expr Source)

/-- The lines of a text, each ended by a line feed. -/
def lines (ls : List Text) : Text := ls.flatMap fun l => l ++ "\n"

/-! ### The layout -/

/-- The style of all pages. -/
def style : Text := lines [
  "<style>",
  ".comment \x7b border-left: 2px solid #ddd; padding: 0 0 0 .75em; margin-bottom: 1em; \x7d",
  ".comment-meta \x7b color: #666; font-size: .9em; \x7d",
  ".video-container iframe \x7b width: 100%; aspect-ratio: 16 / 9; \x7d",
  "</style>"]

/-- A page around its content. -/
def layoutBody : Body :=
  .literal (lines ["<!DOCTYPE html>", "<html lang=\"en\">", "<head>", "<meta charset=\"utf-8\">",
    "<meta name=\"viewport\" content=\"width=device-width, initial-scale=1\">"] ++ "<title>") <|
  .branch (.field "Title") (.print .text (.field "Title") <| .literal " | " .stop) .stop <|
  .print .text (.field "SiteTitle") <|
  .literal "</title>\n<link rel=\"alternate\" type=\"application/rss+xml\" title=\"" <|
  .print .attribute (.field "SiteTitle") <|
  .literal (" comments\" href=\"/comments.xml\">\n" ++ style ++ lines ["</head>", "<body>"] ++ "<header><a href=\"/\">") <|
  .print .text (.field "SiteTitle") <|
  .literal (lines ["</a></header>", "<main>"]) <|
  .call "content" <|
  .literal ("\n" ++ lines ["</main>", "<script src=\"/assets/js/staticman_comments.js\" defer></script>", "</body>",
    "</html>"]) .stop

def layoutSource : Source where
  body := .literal "\n" .stop
  defined := [("layout", layoutBody)]

/-- The source of a page in the layout. -/
def inLayout (content : Body) : Source where
  body := .call "layout" <| .literal "\n" <| .literal "\n" .stop
  defined := [("content", content)]

/-- A date as an element. -/
def dateElement (date : Expr) (next : Body) : Body :=
  .literal "<time datetime=\"" <|
  .print .attribute (.apply .isoDate date) <|
  .literal "\">" <|
  .print .text (.apply .formatDate date) <|
  .literal "</time>" next

/-! ### The list of posts -/

/-- One line of the list. -/
def listItem : Body :=
  .literal "\n  <li><a href=\"" <|
  .print .link (.field "URL") <|
  .literal "\">" <|
  .print .text (.field "Title") <|
  .literal "</a>" <|
  .branch (.apply .not (.field "Date" ["IsZero"])) (.literal " " <| dateElement (.field "Date") .stop) .stop <|
  .literal " <span>(" <|
  .print .text (.field "CommentCount") <|
  .literal " comments)</span></li>\n" .stop

def indexSource : Source := inLayout <|
  .literal "\n<ul class=\"posts\">\n" <|
  .each (.field "Posts") listItem <|
  .literal "\n</ul>\n" .stop

/-! ### A post -/

def postSource : Source := inLayout <|
  .literal "\n<article>\n<h1>" <|
  .print .text (.field "Post" ["Title"]) <|
  .literal "</h1>\n" <|
  .branch (.apply .not (.field "Post" ["Date", "IsZero"]))
    (.literal "<p>" <| dateElement (.field "Post" ["Date"]) <| .literal "</p>" .stop) .stop <|
  .literal "\n" <|
  .print .text (.field "Post" ["Body"]) <|
  .literal "\n</article>\n" <|
  .call "comments" <|
  .literal "\n" .stop

/-- The name of the author of a comment, with a link if there is one. -/
def authorElement (next : Body) : Body :=
  .branch (.field "URL")
    (.literal "<a href=\"" <|
      .print .link (.field "URL") <|
      .literal "\" rel=\"nofollow noopener\">" <|
      .print .text (.field "Author") <|
      .literal "</a>" .stop)
    (.literal "<span>" <| .print .text (.field "Author") <| .literal "</span>" .stop) next

/-- A comment, indented by its depth. -/
def commentBlock : Body :=
  .literal "\n<div class=\"comment comment-depth-" <|
  .print .attribute (.field "Depth") <|
  .literal "\" id=\"" <|
  .print .attribute (.field "Anchor") <|
  .literal "\" data-depth=\"" <|
  .print .attribute (.field "Depth") <|
  .literal "\" style=\"margin-left: " <|
  .print .style (.apply .indent (.field "Depth")) <|
  .literal (lines ["\">", "  <div class=\"comment-meta\">"] ++ "    ") <|
  authorElement <|
  .literal "\n    <a href=\"#" <|
  .print .anchor (.field "Anchor") <|
  .literal "\">" <|
  dateElement (.field "Date") <|
  .literal (lines ["</a>", "  </div>"] ++ "  <div class=\"comment-body\">") <|
  .print .text (.field "HTML") <|
  .literal ("</div>\n  <a href=\"#respond\" class=\"comment-reply\" data-anchor=\"") <|
  .print .attribute (.field "Anchor") <|
  .literal "\" data-comment-id=\"" <|
  .print .attribute (.field "ID") <|
  .literal (lines ["\">Reply</a>", "</div>"]) .stop

/-- The form for new comments. -/
def commentForm : Body :=
  .literal ("\n" ++ lines ["<div id=\"respond\">"] ++ "<form id=\"comment-form\" method=\"post\" action=\"") <|
  .print .link (.field "FormAction") <|
  .literal (lines ["\">", "<fieldset id=\"comments-fieldset\">"]
    ++ "  <input type=\"hidden\" name=\"options[slug]\" value=\"") <|
  .print .attribute (.field "Post" ["Slug"]) <|
  .literal (lines ["\">",
    "  <input type=\"hidden\" id=\"comment-replying-to-uid\" name=\"fields[replying_to_id]\" value=\"\">",
    "  <label>Name <input type=\"text\" name=\"fields[author]\" required></label>",
    "  <label>Website <input type=\"url\" name=\"fields[url]\"></label>",
    "  <label>Comment <textarea id=\"comment-form-message\" name=\"fields[message]\" rows=\"6\" required></textarea></label>",
    "  <button type=\"submit\" id=\"comment-form-submit\">Submit comment</button>",
    "  <a href=\"#respond\" id=\"cancel-comment-reply-link\" style=\"display: none\">Cancel reply</a>",
    "</fieldset>",
    "<p id=\"comment-form-status\"></p>",
    "</form>",
    "</div>"]) .stop

/-- The comments of a post, and the form if there is a place to send it to. -/
def commentsBody : Body :=
  .literal "\n<section id=\"comments\">\n<h2>" <|
  .print .text (.apply .len (.field "Post" ["Comments"])) <|
  .literal " comments</h2>\n" <|
  .each (.field "Post" ["Comments"]) commentBlock <|
  .literal "\n" <|
  .branch (.field "FormAction") commentForm .stop <|
  .literal "\n</section>\n" .stop

def commentsSource : Source where
  body := .literal "\n" .stop
  defined := [("comments", commentsBody)]

/-! ### An error -/

def errorSource : Source := inLayout <|
  .literal "\n<p class=\"error\">" <|
  .print .text (.field "Error") <|
  .literal "</p>\n" .stop

/-! ### Pages -/

/-- The sources by the names of their files. -/
def sources : List (Text × Source) :=
  [("comments.html", commentsSource), ("error.html", errorSource), ("index.html", indexSource),
    ("layout.html", layoutSource), ("post.html", postSource)]

/-- The files from which a page is assembled; the first has the page itself. -/
def pages : List (Text × List Text) :=
  [("index.html", ["index.html", "layout.html"]), ("post.html", ["post.html", "layout.html", "comments.html"]),
    ("error.html", ["error.html", "layout.html"])]

/-- The sources of a page in order, if there is such a page. -/
def pageSources? (page : Text) : Option (List Source) := (pages.lookup page).bind fun files => files.mapM fun file => sources.lookup file

end Page

end Marginalia
