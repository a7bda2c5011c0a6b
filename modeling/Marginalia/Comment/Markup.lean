import Marginalia.Html.Enhance
import Marginalia.Html.Sanitize
import Marginalia.Markdown.Render
import Marginalia.RenderCache

/-!
The messages of comments and the bodies of posts as HTML.
-/

namespace Marginalia

/-- The message of a comment as HTML. Readers write it, so only what is harmless is kept. -/
def Comment.renderMessage (source : Text) : Text :=
  Html.enhance (Html.sanitize (Markdown.render .comment source))

/-- The message of a comment as HTML, by way of the cache: from there if it is kept, and kept there otherwise. -/
def Comment.renderThrough (source : Text) : StateM RenderCache Text := modifyGet (·.through renderMessage source)

end Marginalia
