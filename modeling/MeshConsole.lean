import MeshConsole.CommandLine.Invocation
import MeshConsole.CommandLine.Program
import MeshConsole.CommandLine.Schedule
import MeshConsole.CommandLine.Settings
import MeshConsole.CommandLine.Usage
import MeshConsole.Console.Action
import MeshConsole.Console.Basic
import MeshConsole.Console.Probe
import MeshConsole.Console.Session
import MeshConsole.Dashboard.Basic
import MeshConsole.Dashboard.Branch
import MeshConsole.Dashboard.Document
import MeshConsole.Dashboard.Load
import MeshConsole.Dashboard.Update
import MeshConsole.Decimal.Layout
import MeshConsole.Decimal.Reader
import MeshConsole.Decimal.Shortest
import MeshConsole.Http.Message
import MeshConsole.Http.Status
import MeshConsole.Http.Target
import MeshConsole.Json.Basic
import MeshConsole.Json.Number
import MeshConsole.Json.Printer
import MeshConsole.Json.Quoted
import MeshConsole.Json.Reader
import MeshConsole.Json.Record
import MeshConsole.Main
import MeshConsole.Node.Delivery
import MeshConsole.Node.Endpoint
import MeshConsole.Node.Fetch
import MeshConsole.Page.Basic
import MeshConsole.Page.Markup
import MeshConsole.Page.Pane
import MeshConsole.Page.Table
import MeshConsole.Payload.Answers
import MeshConsole.Payload.Record
import MeshConsole.Payload.Scalar
import MeshConsole.Payload.Status
import MeshConsole.Radio
import MeshConsole.Tab
import MeshConsole.Table.Basic
import MeshConsole.Table.NaturalOrder
import MeshConsole.Table.Render
import MeshConsole.Table.Sort
import MeshConsole.Text.Blank
import MeshConsole.Text.Lowercase
import MeshConsole.Text.Order
import MeshConsole.Text.Split
import MeshConsole.Text.Utf8
import MeshConsole.Trace
import MeshConsole.Url.Basic
import MeshConsole.Url.Domain
import MeshConsole.Url.Form
import MeshConsole.Url.Host
import MeshConsole.Url.Parser
import MeshConsole.Url.Path
import MeshConsole.Url.Percent
import MeshConsole.Url.Punycode
import MeshConsole.Versions
import MeshConsole.Proofs.Text.Lines
import MeshConsole.Proofs.Text.Order
import MeshConsole.Proofs.Table.Sorting
import MeshConsole.Proofs.Table.NaturalKey
import MeshConsole.Proofs.Table.ChunkReader
import MeshConsole.Proofs.Table.Resorting
import MeshConsole.Proofs.Dashboard.Answered
import MeshConsole.Proofs.Dashboard.Isolation
import MeshConsole.Proofs.Dashboard.Reached
import MeshConsole.Proofs.Dashboard.Requests
import MeshConsole.Proofs.Concurrency.Calls
import MeshConsole.Proofs.Concurrency.Overlap
import MeshConsole.Proofs.Concurrency.Confluence
import MeshConsole.Proofs.Concurrency.Traces
import MeshConsole.Proofs.Page.Delimiters
import MeshConsole.Proofs.Json.Passing
import MeshConsole.Proofs.Json.RecordText
import MeshConsole.Proofs.Json.Tokens
import MeshConsole.Proofs.Json.Canonical
import MeshConsole.Proofs.Json.Layouts
import MeshConsole.Proofs.Dashboard.Document
import MeshConsole.Proofs.Json.Inspection
import MeshConsole.Proofs.Payload.Lenient
import MeshConsole.Proofs.Payload.Counts
import MeshConsole.Proofs.Page.Attributes
import MeshConsole.Proofs.Page.Ids
import MeshConsole.Proofs.Page.Notices
import MeshConsole.Proofs.Session.History
import MeshConsole.Proofs.Session.Record
import MeshConsole.Proofs.Session.Tables
import MeshConsole.Proofs.Trace.HttpError
import MeshConsole.Proofs.Trace.Printed
import MeshConsole.Proofs.Console.Verdict
import MeshConsole.Proofs.Dashboard.Failures
import MeshConsole.Proofs.Dashboard.Refresh
import MeshConsole.Proofs.Session.TraceRegion
import MeshConsole.Proofs.Session.TableShape
import MeshConsole.Proofs.Console.Effects
import MeshConsole.Proofs.Console.TraceTab
import MeshConsole.Proofs.Console.ProbeOutcome
import MeshConsole.Proofs.Versions.Entries
import MeshConsole.Proofs.Table.Elements
import MeshConsole.Proofs.Table.Hostnames
import MeshConsole.Proofs.Dashboard.Warning
import MeshConsole.Proofs.Text.Utf8
import MeshConsole.Proofs.Radio.Megahertz
import MeshConsole.Proofs.Url.FormCoding
import MeshConsole.Proofs.Http.FormRequest
import MeshConsole.Proofs.Console.Footprint
import MeshConsole.Proofs.Console.TraceTarget
import MeshConsole.Proofs.Page.Places
import MeshConsole.Proofs.Page.ActiveTab
