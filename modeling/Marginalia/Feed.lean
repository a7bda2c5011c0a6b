import Marginalia.Calendar.Format
import Marginalia.Config
import Marginalia.Post
import Marginalia.Xml

/-!
The feed of the latest comments of a site: newest first, those of one instant by id, those of one id by the
slug of the post.
-/

namespace Marginalia

/-- A comment with the post it belongs to. -/
structure FeedEntry where
  post : Post
  comment : ThreadedComment
deriving DecidableEq, Repr

namespace FeedEntry

/-- The order of a feed. -/
def order (a b : FeedEntry) : Ordering :=
  (b.comment.date.order a.comment.date).then
    ((Text.order a.comment.id b.comment.id).then (Text.order a.post.slug b.post.slug))

/-- Does one entry come no later than another? -/
def le (a b : FeedEntry) : Bool := a.order b != .gt

end FeedEntry

/-- One entry of a feed as it is published. -/
structure FeedItem where
  id : Text
  title : Text
  link : Text
  author : Text
  description : Text
  created : Moment
deriving DecidableEq, Repr

/-- A feed. It has the date of its first item, and none if it has no items. -/
structure Feed where
  title : Text
  link : Text
  description : Text
  created : Option Moment
  items : List FeedItem
deriving DecidableEq, Repr

namespace Feed

/-- The comments of all posts. -/
def entries (posts : List Post) : List FeedEntry :=
  posts.flatMap fun p => (p.comments.getD []).map fun c => ⟨p, c⟩

/-- The entries in the order of the feed, at most `limit` of them if that is positive. -/
def selected (posts : List Post) (limit : Int) : List FeedEntry :=
  let sorted := (entries posts).mergeSort FeedEntry.le
  if 0 < limit then sorted.take limit.toNat else sorted

/-- The item of an entry. -/
def item (config : Config) (e : FeedEntry) : FeedItem :=
  let link := config.siteUrl ++ e.post.url ++ "#" ++ e.comment.anchor
  { id := link, link
    title := e.comment.author ++ " on " ++ e.post.title
    author := e.comment.author
    description := e.comment.html
    created := e.comment.date }

/-- The feed of a site. -/
def ofPosts (config : Config) (posts : List Post) (limit : Int) : Feed :=
  let chosen := selected posts limit
  { title := config.siteTitle ++ " comments"
    link := config.siteUrl ++ "/"
    description := "Latest comments on " ++ config.siteTitle
    created := chosen.head?.map (·.comment.date)
    items := chosen.map (item config) }

/-- A date as it stands in a feed; nothing if there is none. -/
def dateText (m : Moment) : Text := if m.isZero then [] else m.mailText

/-- An item as RSS. -/
def FeedItem.rss (i : FeedItem) : Text :=
  Xml.around 2 "item" (Xml.element 3 "title" i.title ++ Xml.element 3 "link" i.link
    ++ Xml.element 3 "description" i.description ++ Xml.element? 3 "author" i.author
    ++ Xml.element? 3 "guid" i.id ++ Xml.element? 3 "pubDate" (dateText i.created))

/-- A feed as RSS; one without items bears the moment at which it is written. -/
def rss (f : Feed) (now : Moment) : Text :=
  "<?xml version=\"1.0\" encoding=\"UTF-8\"?>"
    ++ "<rss version=\"2.0\" xmlns:content=\"http://purl.org/rss/1.0/modules/content/\">"
    ++ Xml.around 1 "channel" (Xml.element 2 "title" f.title ++ Xml.element 2 "link" f.link
      ++ Xml.element 2 "description" f.description ++ Xml.element? 2 "pubDate" (dateText (f.created.getD now))
      ++ f.items.flatMap FeedItem.rss)
    ++ "\n</rss>"

end Feed

end Marginalia
