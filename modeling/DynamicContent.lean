import DynamicContent.Attribute.Json
import DynamicContent.Main
import DynamicContent.Program.Json
import DynamicContent.Proofs.Element.Uniform
import DynamicContent.Proofs.Engine.Likeness
import DynamicContent.Proofs.Engine.Congruence
import DynamicContent.Proofs.Engine.Disallowed
import DynamicContent.Proofs.Engine.PurePass
import DynamicContent.Proofs.Engine.Setup
import DynamicContent.Proofs.Engine.Watched
import DynamicContent.Proofs.Function.Allowlist
import DynamicContent.Proofs.Shortcode.Segmentation
import DynamicContent.Toml.Printer
import DynamicContent.Proofs.Shortcode.Spelling
import DynamicContent.Proofs.Shortcode.Written
import DynamicContent.Proofs.Html.Strip
import DynamicContent.Proofs.Html.PlainText
import DynamicContent.Proofs.Engine.PlainAnswer
import DynamicContent.Proofs.Json.ReadBack
import DynamicContent.Proofs.Cache.ReadBack
import DynamicContent.Proofs.Element.Remembered
import DynamicContent.Proofs.Element.PlainAttributes
import DynamicContent.Proofs.Engine.ServedAgain
import DynamicContent.Proofs.Format.ReadBack
import DynamicContent.Proofs.Cache.Key
import DynamicContent.Proofs.Cache.Ledger
import DynamicContent.Proofs.Cache.Place
import DynamicContent.Proofs.Cache.Facade
import DynamicContent.Proofs.Cache.Groups
import DynamicContent.Proofs.Cache.Interchange
import DynamicContent.Proofs.Cache.Faults
import DynamicContent.Proofs.Text.Utf8
import DynamicContent.Proofs.Engine.Screens
import DynamicContent.Proofs.Directive.Scan
import DynamicContent.Proofs.Engine.Untouched
import DynamicContent.Proofs.Engine.Reports
import DynamicContent.Proofs.Engine.Quiet
import DynamicContent.Proofs.Engine.Bracketed
import DynamicContent.Proofs.Number.Shortest
import DynamicContent.Proofs.Number.MarkedText
import DynamicContent.Proofs.Number.GroupedText
import DynamicContent.Proofs.Json.Telling
import DynamicContent.Proofs.Query.Key
import DynamicContent.Proofs.Calendar.Stamp
import DynamicContent.Proofs.Record.ReadBack
import DynamicContent.Proofs.Site.Posts
import DynamicContent.Proofs.Query.Memo
import DynamicContent.Proofs.Cache.Part
import DynamicContent.Proofs.Cache.Neighbours
import DynamicContent.Proofs.Directive.Grammar
import DynamicContent.Proofs.Directive.Located
import DynamicContent.Proofs.Format.Grammar
import DynamicContent.Proofs.Cache.Script
import DynamicContent.Proofs.Cache.Clients
import DynamicContent.Proofs.Cache.Course
import DynamicContent.Proofs.Engine.Grants
import DynamicContent.Proofs.Site.Numbered
import DynamicContent.Proofs.Site.Reordered
import DynamicContent.Proofs.Site.Paging
import DynamicContent.Proofs.Engine.Resolved
import DynamicContent.Proofs.Text.Casing
import DynamicContent.Proofs.Element.OwnPage
import DynamicContent.Proofs.Cache.Lookups
import DynamicContent.Proofs.Cache.Expiry
import DynamicContent.Proofs.Cache.Recency
import DynamicContent.Proofs.Cache.Disk
import DynamicContent.Proofs.Cache.Namespace
import DynamicContent.Proofs.Cache.Carried
import DynamicContent.Proofs.Handler.FailedLookup
import DynamicContent.Proofs.Calendar.Instants
import DynamicContent.Proofs.Record.Published
import DynamicContent.Proofs.Text.Cutting
import DynamicContent.Proofs.Url.Percent
import DynamicContent.Proofs.Url.Reading
import DynamicContent.Proofs.Url.Punycode
import DynamicContent.Proofs.Url.DomainName
import DynamicContent.Proofs.Url.IpAddress
import DynamicContent.Proofs.Url.Hosts
import DynamicContent.Proofs.Url.Segments
import DynamicContent.Proofs.Url.ReadBack
import DynamicContent.Proofs.Program.Bases
import DynamicContent.Proofs.Element.BlockedMedia
import DynamicContent.Proofs.Attribute.OrderedMap
import DynamicContent.Proofs.Engine.Normalized
import DynamicContent.Proofs.Element.TagAttributes
import DynamicContent.Proofs.Html.StyleFilter
import DynamicContent.Proofs.Attribute.TextForm
import DynamicContent.Proofs.Query.WellFormed
import DynamicContent.Proofs.Engine.Registered
