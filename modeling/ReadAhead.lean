import ReadAhead.Buffer.Basic
import ReadAhead.Buffer.Session
import ReadAhead.Bytes
import ReadAhead.Cache.Basic
import ReadAhead.Cache.Block
import ReadAhead.Cache.Edit
import ReadAhead.Cache.Eviction
import ReadAhead.Cache.Geometry
import ReadAhead.Cache.Recency
import ReadAhead.Cache.Span
import ReadAhead.Cache.Table
import ReadAhead.Config.Basic
import ReadAhead.Config.Document
import ReadAhead.Config.Record
import ReadAhead.Failure
import ReadAhead.Fetch.ContentRange
import ReadAhead.Fetch.Head
import ReadAhead.Fetch.Request
import ReadAhead.Fetch.Window
import ReadAhead.Http.Chunked
import ReadAhead.Http.Client
import ReadAhead.Http.Field
import ReadAhead.Http.Framing
import ReadAhead.Http.Origin
import ReadAhead.Http.Playback
import ReadAhead.Http.Preamble
import ReadAhead.Http.Reading
import ReadAhead.Http.Reply
import ReadAhead.Http.Transfer
import ReadAhead.Json.Basic
import ReadAhead.Json.Parser
import ReadAhead.Json.Printer
import ReadAhead.Runner.Basic
import ReadAhead.Runner.Script
import ReadAhead.Source.Disk
import ReadAhead.Source.File
import ReadAhead.Source.Open
import ReadAhead.Source.Read
import ReadAhead.Source.Remote
import ReadAhead.Text.Blank
import ReadAhead.Text.CodeTable
import ReadAhead.Text.Composition
import ReadAhead.Text.Decimal
import ReadAhead.Text.Direction
import ReadAhead.Text.Folding
import ReadAhead.Text.Hexadecimal
import ReadAhead.Text.Joining
import ReadAhead.Text.Mark
import ReadAhead.Text.Parts
import ReadAhead.Text.Utf8
import ReadAhead.Url.Address
import ReadAhead.Url.Basic
import ReadAhead.Url.Domain
import ReadAhead.Url.Label
import ReadAhead.Url.Parser
import ReadAhead.Url.Percent
import ReadAhead.Url.Punycode
import ReadAhead.Proofs.Cache.Contents
import ReadAhead.Proofs.Cache.Ingestion
import ReadAhead.Proofs.Cache.Eviction
import ReadAhead.Proofs.Cache.Recency
import ReadAhead.Proofs.Cache.Memory
import ReadAhead.Proofs.Buffer.Step
import ReadAhead.Proofs.Buffer.Contiguity
import ReadAhead.Proofs.Buffer.Fidelity
import ReadAhead.Proofs.Buffer.Reader
import ReadAhead.Proofs.Buffer.Restart
import ReadAhead.Proofs.Buffer.Memory
import ReadAhead.Proofs.Runner.Tasks
import ReadAhead.Proofs.Runner.Timers
import ReadAhead.Proofs.Source.Ledger
import ReadAhead.Proofs.Source.Accounting
import ReadAhead.Proofs.Source.Service
import ReadAhead.Proofs.Source.Wakeup
import ReadAhead.Proofs.Source.Trace
import ReadAhead.Proofs.Source.Fidelity
import ReadAhead.Proofs.Buffer.Transfers
import ReadAhead.Proofs.Runner.Posted
import ReadAhead.Proofs.Buffer.Notices
import ReadAhead.Proofs.Source.Docket
import ReadAhead.Proofs.Source.Opening
import ReadAhead.Proofs.Source.Closing
import ReadAhead.Proofs.Source.Waiting
import ReadAhead.Proofs.Buffer.ErrorAnswer
import ReadAhead.Proofs.Buffer.NoticeOrder
import ReadAhead.Proofs.Runner.Plain
import ReadAhead.Proofs.File.Course
import ReadAhead.Proofs.File.Settling
import ReadAhead.Proofs.File.Lifecycle
import ReadAhead.Proofs.Http.Delivery
import ReadAhead.Proofs.Http.Honesty
import ReadAhead.Proofs.Buffer.Repetition
import ReadAhead.Proofs.Cache.Extent
import ReadAhead.Proofs.Buffer.Copying
import ReadAhead.Proofs.Buffer.Storing
import ReadAhead.Proofs.Cache.Tracker
import ReadAhead.Proofs.Cache.Course
import ReadAhead.Proofs.Cache.Shedding
import ReadAhead.Proofs.Cache.Splitting
import ReadAhead.Proofs.Buffer.Chunking
import ReadAhead.Proofs.Text.Blank
import ReadAhead.Proofs.Text.Decimal
import ReadAhead.Proofs.Fetch.ContentRange
import ReadAhead.Proofs.File.Reading
import ReadAhead.Runner.Journal
import ReadAhead.Proofs.Runner.Stages
import ReadAhead.Proofs.Runner.Scheduling
import ReadAhead.Proofs.Runner.Turns
import ReadAhead.Proofs.Runner.History
import ReadAhead.Proofs.Text.Utf8
import ReadAhead.Proofs.Json.Grammar
import ReadAhead.Proofs.Json.Reading
import ReadAhead.Proofs.Json.Writing
import ReadAhead.Proofs.Config.Members
import ReadAhead.Proofs.Config.Overlay
import ReadAhead.Proofs.Config.RoundTrip
import ReadAhead.Proofs.Source.Places
import ReadAhead.Proofs.Buffer.BlockIds
import ReadAhead.Proofs.Cache.Lifetimes
