import StaticHttp.Text.CodePoint
import StaticHttp.Text.Utf8
import StaticHttp.Text.Printable
import StaticHttp.Text.Digit
import StaticHttp.Text.Word
import StaticHttp.Text.Quoted
import StaticHttp.Text.Capital
import StaticHttp.Number.Binary64
import StaticHttp.Number.Shortest
import StaticHttp.Number.Rounded
import StaticHttp.Number.Reading
import StaticHttp.Value
import StaticHttp.Json.Fault
import StaticHttp.Failure
import StaticHttp.Json.Reading
import StaticHttp.Files.Path
import StaticHttp.Files.Tree
import StaticHttp.Http.MediaType
import StaticHttp.Http.Response
import StaticHttp.Http.Request
import StaticHttp.Log.Entry
import StaticHttp.Log.Calendar
import StaticHttp.Log.Layout
import StaticHttp.Log.Pattern
import StaticHttp.Log.Console
import StaticHttp.Log.File
import StaticHttp.Log.Logger
import StaticHttp.History
import StaticHttp.Run
import StaticHttp.Connection
import StaticHttp.Http.Head
import StaticHttp.Router
import StaticHttp.Handler
import StaticHttp.Config
import StaticHttp.Options.Declaration
import StaticHttp.Options.Help
import StaticHttp.Options.Reading
import StaticHttp.Server.Outside
import StaticHttp.Server.Site
import StaticHttp.Server.AcceptLoop
import StaticHttp.Server.LifeCycle
import StaticHttp.Log.Journal
import StaticHttp.Program
import StaticHttp.Main
import StaticHttp.Proofs.Text.Written
import StaticHttp.Proofs.Text.Escaping
import StaticHttp.Proofs.Outcome
import StaticHttp.Proofs.Http.Search
import StaticHttp.Proofs.Http.Reception
import StaticHttp.Proofs.Http.Words
import StaticHttp.Proofs.Http.MediaType
import StaticHttp.Proofs.Text.Legible
import StaticHttp.Proofs.Http.Framing
import StaticHttp.Proofs.Serving.Routing
import StaticHttp.Proofs.Serving.Steps
import StaticHttp.Proofs.Serving.Course
import StaticHttp.Proofs.Serving.Protocol
import StaticHttp.Proofs.Serving.Payload
import StaticHttp.Proofs.Serving.Effects
import StaticHttp.Proofs.Serving.Agreement
import StaticHttp.Proofs.Serving.Answering
import StaticHttp.Proofs.Serving.Conduct
import StaticHttp.Proofs.Server.Passage
import StaticHttp.Proofs.Server.Halting
import StaticHttp.Proofs.Server.Orderly
import StaticHttp.Proofs.Server.Rounds
import StaticHttp.Proofs.Server.Accepting
import StaticHttp.Proofs.Server.Accounting
import StaticHttp.Proofs.Server.Ledger
import StaticHttp.Proofs.Server.Binding
import StaticHttp.Proofs.Server.LifeCycle
import StaticHttp.Proofs.Server.Upholding
import StaticHttp.Proofs.Server.Heeding
import StaticHttp.Proofs.Server.Calm
import StaticHttp.Proofs.Server.Account
import StaticHttp.Proofs.Server.Releasing
import StaticHttp.Proofs.Server.Attending
import StaticHttp.Proofs.Program.Signals
import StaticHttp.Proofs.Program.Refusal
import StaticHttp.Proofs.Settings.Members
import StaticHttp.Proofs.Settings.LastWrite
import StaticHttp.Proofs.Options.Spelled
import StaticHttp.Proofs.Program.Precedence
import StaticHttp.Proofs.Log.Wrapping
import StaticHttp.Proofs.Log.Reconfiguring
import StaticHttp.Proofs.Http.Recovery
import StaticHttp.Proofs.Http.Receipts
import StaticHttp.Proofs.Serving.Classification
import StaticHttp.Proofs.Serving.RequestLine
import StaticHttp.Proofs.Text.OneLine
import StaticHttp.Proofs.Files.Refusals
import StaticHttp.Proofs.Serving.Plainspoken
import StaticHttp.Proofs.Serving.LogLines
import StaticHttp.Proofs.Json.Nesting
import StaticHttp.Proofs.Settings.Loading
import StaticHttp.Proofs.Files.Appending
import StaticHttp.Proofs.Log.Delivery
import StaticHttp.Proofs.Log.Uncolored
import StaticHttp.Proofs.Files.Passable
import StaticHttp.Proofs.Log.Unopened
import StaticHttp.Proofs.Log.Levels
