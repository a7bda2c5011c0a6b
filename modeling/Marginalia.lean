import Marginalia.Calendar.Basic
import Marginalia.Calendar.DateReading
import Marginalia.Calendar.Format
import Marginalia.Calendar.FreeForm
import Marginalia.Calendar.Internet
import Marginalia.Calendar.Layout
import Marginalia.Calendar.Sketch
import Marginalia.Calendar.TimeReading
import Marginalia.Command.Basic
import Marginalia.Command.Completion
import Marginalia.Command.Flag
import Marginalia.Command.Help
import Marginalia.Command.Invocation
import Marginalia.Command.Run
import Marginalia.Comment.Basic
import Marginalia.Comment.Directory
import Marginalia.Comment.Markup
import Marginalia.Comment.Source
import Marginalia.Comment.Thread
import Marginalia.Config
import Marginalia.Digest
import Marginalia.EnvFile
import Marginalia.Feed
import Marginalia.File.Path
import Marginalia.File.Pattern
import Marginalia.File.Tree
import Marginalia.FrontMatter
import Marginalia.Html.Body
import Marginalia.Html.Document
import Marginalia.Html.Draft
import Marginalia.Html.Enhance
import Marginalia.Html.Modes
import Marginalia.Html.NamedCharacters
import Marginalia.Html.Node
import Marginalia.Html.Reference
import Marginalia.Html.Sanitize
import Marginalia.Html.Token
import Marginalia.Json
import Marginalia.Log
import Marginalia.Main
import Marginalia.Markdown.Address
import Marginalia.Markdown.Block
import Marginalia.Markdown.Cursor
import Marginalia.Markdown.Emphasis
import Marginalia.Markdown.Inline
import Marginalia.Markdown.RawTag
import Marginalia.Markdown.Reference
import Marginalia.Markdown.Render
import Marginalia.Markdown.Spans
import Marginalia.Markdown.Structure
import Marginalia.Markdown.Table
import Marginalia.Markdown.Writing
import Marginalia.Page.Data
import Marginalia.Page.Escape
import Marginalia.Page.Indent
import Marginalia.Page.Script
import Marginalia.Page.Sources
import Marginalia.Page.Template
import Marginalia.Post
import Marginalia.Preview.Documents
import Marginalia.Preview.RequestLog
import Marginalia.Preview.Response
import Marginalia.Preview.Route
import Marginalia.Preview.Serve
import Marginalia.Preview.Start
import Marginalia.Proofs.Cache.History
import Marginalia.Proofs.Cache.Recency
import Marginalia.Proofs.Calendar.Civil
import Marginalia.Proofs.Calendar.FreeForm
import Marginalia.Proofs.Calendar.Internet
import Marginalia.Proofs.Comment.Directory
import Marginalia.Proofs.Comment.Gathering
import Marginalia.Proofs.Comment.Loading
import Marginalia.Proofs.Comment.Sharing
import Marginalia.Proofs.Feed.Links
import Marginalia.Proofs.Feed.Order
import Marginalia.Proofs.File.Erasure
import Marginalia.Proofs.File.Growth
import Marginalia.Proofs.File.Path
import Marginalia.Proofs.File.Pattern
import Marginalia.Proofs.File.Places
import Marginalia.Proofs.File.Region
import Marginalia.Proofs.File.Saving
import Marginalia.Proofs.FrontMatter
import Marginalia.Proofs.Html.Enhancement
import Marginalia.Proofs.Html.Fallback
import Marginalia.Proofs.Html.Player
import Marginalia.Proofs.Html.Reading
import Marginalia.Proofs.Html.Root
import Marginalia.Proofs.Html.Tokens
import Marginalia.Proofs.Html.VideoLink
import Marginalia.Proofs.Json.Reading
import Marginalia.Proofs.Orders
import Marginalia.Proofs.Page.Template
import Marginalia.Proofs.Pool.Outcome
import Marginalia.Proofs.Preview.Agreement
import Marginalia.Proofs.Preview.CommentData
import Marginalia.Proofs.Preview.Render
import Marginalia.Proofs.Preview.Sitemap
import Marginalia.Proofs.Site.Course
import Marginalia.Proofs.Site.Degradation
import Marginalia.Proofs.Site.Discovery
import Marginalia.Proofs.Site.Finding
import Marginalia.Proofs.Site.Interruption
import Marginalia.Proofs.Site.Lifecycle
import Marginalia.Proofs.Site.Operations
import Marginalia.Proofs.Site.Output
import Marginalia.Proofs.Site.Rebuilding
import Marginalia.Proofs.Site.Replacement
import Marginalia.Proofs.Site.Rescanning
import Marginalia.Proofs.Site.Tandem
import Marginalia.Proofs.Site.Timeline
import Marginalia.Proofs.Text.Lines
import Marginalia.Proofs.Text.Numerals
import Marginalia.Proofs.Thread.Addition
import Marginalia.Proofs.Thread.Ascent
import Marginalia.Proofs.Thread.Chains
import Marginalia.Proofs.Thread.Cycles
import Marginalia.Proofs.Thread.Lineage
import Marginalia.Proofs.Thread.Outcome
import Marginalia.Proofs.Thread.Permutation
import Marginalia.Proofs.Thread.Placement
import Marginalia.Proofs.Thread.References
import Marginalia.Proofs.Thread.Refusal
import Marginalia.Proofs.Url
import Marginalia.Proofs.Video
import Marginalia.Proofs.Watch.Awareness
import Marginalia.Proofs.Watch.Changes
import Marginalia.Proofs.Watch.Deeds
import Marginalia.Proofs.Watch.Launch
import Marginalia.Proofs.Watch.Looking
import Marginalia.Proofs.Watch.Relevance
import Marginalia.Proofs.Watch.Session
import Marginalia.Proofs.Watch.Sources
import Marginalia.Proofs.Xml.Reading
import Marginalia.RenderCache
import Marginalia.Site.Comments
import Marginalia.Site.Course
import Marginalia.Site.Deploy
import Marginalia.Site.Error
import Marginalia.Site.Pool
import Marginalia.Site.Publish
import Marginalia.Site.Scan
import Marginalia.Site.Signal
import Marginalia.Site.State
import Marginalia.Slug
import Marginalia.Text.Basic
import Marginalia.Text.Digits
import Marginalia.Text.Fold
import Marginalia.Text.Letters
import Marginalia.Text.Printable
import Marginalia.Text.Punctuation
import Marginalia.Text.Quoted
import Marginalia.Text.Romanize
import Marginalia.Text.Romanize.Han
import Marginalia.Text.Romanize.Scripts
import Marginalia.Text.Symbols
import Marginalia.Url
import Marginalia.Video
import Marginalia.Watch
import Marginalia.Watch.Deed
import Marginalia.Watch.Launch
import Marginalia.Watch.Session
import Marginalia.Xml
import Marginalia.Yaml.Node
import Marginalia.Yaml.Record
import Marginalia.Yaml.Scalar
import Marginalia.Yaml.Source
import Marginalia.Yaml.Token
import Marginalia.Yaml.TokenStream
