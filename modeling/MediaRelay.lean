import MediaRelay.Arrival
import MediaRelay.Bot
import MediaRelay.Command.Basic
import MediaRelay.Command.Builtin
import MediaRelay.Command.Cooldown
import MediaRelay.Command.Gate
import MediaRelay.Command.Registry
import MediaRelay.Command.Uptime
import MediaRelay.Config.Basic
import MediaRelay.Config.Json
import MediaRelay.Config.Store
import MediaRelay.Config.Toml
import MediaRelay.Daemon.Basic
import MediaRelay.Daemon.Failure
import MediaRelay.Daemon.Lifecycle
import MediaRelay.Dashboard.Page
import MediaRelay.Dashboard.Routes
import MediaRelay.Decimal.Range
import MediaRelay.Decimal.Tenths
import MediaRelay.Decimal.Unsigned
import MediaRelay.Download
import MediaRelay.Error
import MediaRelay.Extract.Douyin
import MediaRelay.Extract.Facebook
import MediaRelay.Extract.Instagram
import MediaRelay.Extract.Page
import MediaRelay.Extract.PostId
import MediaRelay.Extract.Shortcode
import MediaRelay.Extract.Tiktok
import MediaRelay.Extract.VideoUrl
import MediaRelay.Fetch
import MediaRelay.Json.Basic
import MediaRelay.Json.Decode
import MediaRelay.Json.Reader
import MediaRelay.Json.Writer
import MediaRelay.Log.Buffer
import MediaRelay.Main
import MediaRelay.Media.Item
import MediaRelay.Message.Invocation
import MediaRelay.Message.Link
import MediaRelay.Outbox
import MediaRelay.Pipeline
import MediaRelay.Platform.Host
import MediaRelay.Platform.Registry
import MediaRelay.Proofs.Arrival
import MediaRelay.Proofs.Command.History
import MediaRelay.Proofs.Daemon.Stranded
import MediaRelay.Proofs.Download
import MediaRelay.Proofs.Outbox.Uploads
import MediaRelay.Proofs.Outbox.Report
import MediaRelay.Proofs.Pipeline.Accounting
import MediaRelay.Proofs.Retry
import MediaRelay.Proofs.Telegram.Album
import MediaRelay.Proofs.Telegram.Delivery
import MediaRelay.Proofs.Text.Chunk
import MediaRelay.Proofs.Text.Lower
import MediaRelay.Proofs.World
import MediaRelay.Rehearsal.BotApi
import MediaRelay.Rehearsal.Field
import MediaRelay.Rehearsal.Mask
import MediaRelay.Rehearsal.Page
import MediaRelay.Rehearsal.Reader
import MediaRelay.Rehearsal.Script
import MediaRelay.Rehearsal.Stage
import MediaRelay.Rehearsal.Tape
import MediaRelay.Retry
import MediaRelay.Schedule.Cron
import MediaRelay.Shared
import MediaRelay.Telegram.Album
import MediaRelay.Telegram.Basic
import MediaRelay.Telegram.Failure
import MediaRelay.Telegram.Session
import MediaRelay.Telegram.Update
import MediaRelay.Text.Blank
import MediaRelay.Text.Case
import MediaRelay.Text.Case.Table
import MediaRelay.Text.Chunk
import MediaRelay.Text.Digit
import MediaRelay.Text.Quote
import MediaRelay.Text.Quote.Table
import MediaRelay.Text.Search
import MediaRelay.Text.Utf8
import MediaRelay.Toml.Basic
import MediaRelay.Toml.Entry
import MediaRelay.Toml.Quoted
import MediaRelay.Toml.Reader
import MediaRelay.Toml.Scalar
import MediaRelay.Toml.Writer
import MediaRelay.Transport.Attachment
import MediaRelay.Transport.Basic
import MediaRelay.Web.Cookie
import MediaRelay.Web.Draft
import MediaRelay.Web.Exchange
import MediaRelay.Web.Host
import MediaRelay.Web.Host.Address
import MediaRelay.Web.Host.Data
import MediaRelay.Web.Host.Domain
import MediaRelay.Web.Host.Normal
import MediaRelay.Web.Host.Punycode
import MediaRelay.Web.Host.Table.Composition
import MediaRelay.Web.Host.Table.Direction
import MediaRelay.Web.Host.Table.Joining
import MediaRelay.Web.Host.Table.Mapping
import MediaRelay.Web.MediaType
import MediaRelay.Web.Percent
import MediaRelay.Web.Redirect
import MediaRelay.Web.Status
import MediaRelay.Web.Url
import MediaRelay.Word
import MediaRelay.World
import MediaRelay.Proofs.Outbox.Message
import MediaRelay.Proofs.Telegram.Message
import MediaRelay.Proofs.Command.Overlap
import MediaRelay.Proofs.Toml.Quoted
import MediaRelay.Proofs.Toml.Scalar
import MediaRelay.Proofs.Toml.Document
import MediaRelay.Proofs.Config.Toml
import MediaRelay.Proofs.Dashboard.Settings
import MediaRelay.Proofs.Platform.Token
import MediaRelay.Proofs.Outbox.Token
import MediaRelay.Proofs.Pipeline.Token
import MediaRelay.Proofs.Json.Text
import MediaRelay.Proofs.Dashboard.Echo
import MediaRelay.Proofs.Dashboard.Secrecy
import MediaRelay.Proofs.Web.Url
import MediaRelay.Proofs.Platform.Host
import MediaRelay.Proofs.Calls
import MediaRelay.Proofs.Platform.Extraction
import MediaRelay.Proofs.Outbox.Budget
import MediaRelay.Proofs.Outbox.Oversized
import MediaRelay.Proofs.Pipeline.Limits
import MediaRelay.Proofs.Bot.Handle
import MediaRelay.Proofs.Bot.Quiet
import MediaRelay.Proofs.Command.Builtin
import MediaRelay.Proofs.Bot.Confined
import MediaRelay.Proofs.Daemon.Reload
import MediaRelay.Proofs.Web.Body
import MediaRelay.Proofs.Text.Window
import MediaRelay.Proofs.Rehearsal.Course
import MediaRelay.Proofs.Fetch.Hop
import MediaRelay.Proofs.Download.Pool
import MediaRelay.Proofs.Download.OneByOne
import MediaRelay.Proofs.Telegram.Grouping
import MediaRelay.Proofs.Outbox.SharedBudget
import MediaRelay.Proofs.Text.Words
import MediaRelay.Proofs.Command.Say
import MediaRelay.Proofs.Bot.Summary
import MediaRelay.Proofs.Text.Search
import MediaRelay.Proofs.Text.Spaced
import MediaRelay.Proofs.Message.Invocation
import MediaRelay.Proofs.Extract.VideoUrl
import MediaRelay.Proofs.Extract.Tiktok
import MediaRelay.Proofs.Extract.Address
import MediaRelay.Proofs.Platform.Routing
import MediaRelay.Proofs.Log.Newest
import MediaRelay.Proofs.Web.Path
import MediaRelay.Proofs.Extract.Shortcode
import MediaRelay.Proofs.Extract.Patience
import MediaRelay.Proofs.Retry.Growth
import MediaRelay.Proofs.Message.Link
import MediaRelay.Proofs.Extract.PostId
