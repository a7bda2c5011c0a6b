import Marginalia.Html.Document
import Marginalia.Video

/-!
Comments as they are shown: images are loaded late and tell their server nothing, and a paragraph that
is nothing but a link to a video becomes a player.
-/

namespace Marginalia

namespace Html

/-- Attributes with one set to a value: the first one of the name, or a new one at the end. -/
def setAttribute (name value : Text) : List Attribute → List Attribute
  | [] => [⟨name, value⟩]
  | a :: more => if a.name == name then ⟨name, value⟩ :: more else a :: setAttribute name value more

/-- What an image is given. -/
def imageAttributes : List Attribute :=
  [⟨"referrerpolicy", "no-referrer"⟩, ⟨"loading", "lazy"⟩, ⟨"decoding", "async"⟩]

/-- The player of a video. -/
def player (id : Text) : Node :=
  .element ⟨"div", .html, [⟨"class", "video-container"⟩]⟩
    [.element ⟨"iframe", .html,
      [⟨"src", "https://www.youtube-nocookie.com/embed/" ++ id⟩, ⟨"frameborder", "0"⟩, ⟨"allowfullscreen", ""⟩,
        ⟨"loading", "lazy"⟩,
        ⟨"allow", "accelerometer; clipboard-write; encrypted-media; gyroscope; picture-in-picture"⟩]⟩ []]

/-- The video to which a paragraph is nothing but a link: its only element is a link, and all its text
is the address. -/
def videoOf? (children : List Node) : Option Text :=
  match children.filter Node.isElement with
  | [only] =>
    let text := Text.trim (Node.allTexts children)
    if only.isNamed "a" && Text.startsWith text "http" && !text.contains ' ' then
      let id := Video.id text
      if id.isEmpty then none else some id
    else none
  | _ => none

mutual

/-- A node as it is shown. -/
def Node.enhance : Node → Node
  | .element l cs =>
    match (if l.name == "p" then videoOf? cs else none) with
    | some id => player id
    | none =>
      let attributes :=
        if l.name == "img" then
          imageAttributes.foldl (fun as a => setAttribute a.name a.value as) l.attributes
        else l.attributes
      .element { l with attributes } (enhanceAll cs)
  | n => n

/-- Nodes as they are shown. -/
def enhanceAll : List Node → List Node
  | [] => []
  | n :: ns => n.enhance :: enhanceAll ns

end

/-- HTML as it is shown: the content of its body or, where that is nothing, the whole document. -/
def enhance (t : Text) : Text :=
  if t.isEmpty then []
  else
    let nodes := enhanceAll (parse t)
    let body := ((Node.findIn? "body" nodes).map fun b => writeEach b.children).getD []
    if body.isEmpty then writeEach nodes else body

end Html

end Marginalia
