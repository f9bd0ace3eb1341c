import ForumDigest.Base64
import ForumDigest.Binary64.Basic
import ForumDigest.Binary64.Shortest
import ForumDigest.Binary64.Written
import ForumDigest.Calendar.Date
import ForumDigest.Calendar.Instant
import ForumDigest.Calendar.Rfc3339
import ForumDigest.Client.Authentication
import ForumDigest.Client.Basic
import ForumDigest.Client.Fetch
import ForumDigest.CommandLine.Arguments
import ForumDigest.CommandLine.Run
import ForumDigest.Config.Basic
import ForumDigest.Config.Json
import ForumDigest.Config.Load
import ForumDigest.Config.Toml
import ForumDigest.Config.Validation
import ForumDigest.Credential
import ForumDigest.Endpoints
import ForumDigest.Failure.Basic
import ForumDigest.Failure.Wording
import ForumDigest.Feed
import ForumDigest.FileTree
import ForumDigest.Http.Reply
import ForumDigest.Http.Request
import ForumDigest.Http.Status
import ForumDigest.Identity
import ForumDigest.Json.Decode
import ForumDigest.Json.Error
import ForumDigest.Json.Lexical
import ForumDigest.Json.Skip
import ForumDigest.Json.Write
import ForumDigest.Listing.Basic
import ForumDigest.Listing.Json
import ForumDigest.Listing.Posts
import ForumDigest.Main
import ForumDigest.Notice
import ForumDigest.Post.Basic
import ForumDigest.Post.Engagement
import ForumDigest.Post.Json
import ForumDigest.Query
import ForumDigest.Sort
import ForumDigest.Template
import ForumDigest.Text.Blank
import ForumDigest.Text.CharSet
import ForumDigest.Text.Entity
import ForumDigest.Text.EntityTable
import ForumDigest.Text.Printable
import ForumDigest.Text.Quoted
import ForumDigest.Text.Substitution
import ForumDigest.Text.Utf8
import ForumDigest.Toml.Decode
import ForumDigest.Toml.Document
import ForumDigest.Toml.Lexical
import ForumDigest.Toml.Value
import ForumDigest.Url.Address
import ForumDigest.Url.Basic
import ForumDigest.Url.Domain
import ForumDigest.Url.Domain.Direction
import ForumDigest.Url.Domain.Joiner
import ForumDigest.Url.Domain.Mapping
import ForumDigest.Url.Domain.Normal
import ForumDigest.Url.Form
import ForumDigest.Url.Parser
import ForumDigest.Url.Percent
import ForumDigest.Url.Printer
import ForumDigest.Url.Punycode
import ForumDigest.Proofs.Client.Exchange
import ForumDigest.Proofs.Http.Request
import ForumDigest.Proofs.Client.Authentication
import ForumDigest.Proofs.Client.Fetch
import ForumDigest.Proofs.Session.Basic
import ForumDigest.Proofs.Session.Grants
import ForumDigest.Proofs.Session.Expiry
import ForumDigest.Proofs.Session.Secrecy
import ForumDigest.Proofs.Feed.Basic
import ForumDigest.Proofs.Feed.Protocol
import ForumDigest.Proofs.Session.Renewal
import ForumDigest.Proofs.Binary64.Size
import ForumDigest.Proofs.Binary64.Order
import ForumDigest.Proofs.Binary64.Rounding
import ForumDigest.Proofs.Binary64.Packing
import ForumDigest.Proofs.Binary64.Arithmetic
import ForumDigest.Proofs.Binary64.Monotone
import ForumDigest.Proofs.Post.Order
import ForumDigest.Proofs.Post.Rating
import ForumDigest.Proofs.Post.Activity
import ForumDigest.Proofs.Feed.Selection
import ForumDigest.Proofs.Url.Path
import ForumDigest.Proofs.Url.Web
import ForumDigest.Proofs.Query.Location
import ForumDigest.Proofs.Query.Subreddit
import ForumDigest.Proofs.Json.Grammar
import ForumDigest.Proofs.Json.Lexical
import ForumDigest.Proofs.Json.Skip
import ForumDigest.Proofs.Json.Reader
import ForumDigest.Proofs.Json.Record
import ForumDigest.Proofs.Json.Null
import ForumDigest.Proofs.Listing.Null
import ForumDigest.Proofs.Query.Host
import ForumDigest.Proofs.Text.Trim
import ForumDigest.Proofs.Toml.Keys
import ForumDigest.Proofs.Toml.Reader
import ForumDigest.Proofs.Config.Normal
import ForumDigest.Proofs.Config.Acceptance
import ForumDigest.Proofs.Client.Locality
import ForumDigest.Proofs.CommandLine.Visit
import ForumDigest.Proofs.CommandLine.Digest
import ForumDigest.Proofs.CommandLine.Isolation
import ForumDigest.Proofs.CommandLine.Selection
import ForumDigest.Proofs.Json.Written
import ForumDigest.Proofs.Json.Constant
import ForumDigest.Proofs.Json.Real
import ForumDigest.Proofs.Config.RoundTrip
import ForumDigest.Proofs.Listing.RoundTrip
import ForumDigest.Proofs.Calendar.Date
import ForumDigest.Proofs.Calendar.Rfc3339
import ForumDigest.Proofs.Post.RoundTrip
import ForumDigest.Proofs.Client.Answer
import ForumDigest.Proofs.Client.Atomicity
import ForumDigest.Proofs.Config.Repetition
import ForumDigest.Proofs.Listing.Posts
import ForumDigest.Proofs.Http.Response
import ForumDigest.Proofs.Client.Classification
import ForumDigest.Proofs.Text.Utf8
import ForumDigest.Proofs.Url.Form
import ForumDigest.Proofs.Url.Undivided
import ForumDigest.Proofs.Query.Search
import ForumDigest.Proofs.Client.Timeout
import ForumDigest.Proofs.Base64
import ForumDigest.Proofs.Client.TokenRequest
import ForumDigest.Proofs.Text.Substitution
import ForumDigest.Proofs.Template
import ForumDigest.Proofs.Query.Proxy
