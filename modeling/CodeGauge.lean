import CodeGauge.Chat.Failure
import CodeGauge.Chat.Gemini
import CodeGauge.Chat.Groq
import CodeGauge.Chat.Opinion
import CodeGauge.Chat.Prompt
import CodeGauge.Chat.Reply
import CodeGauge.Chat.Retry
import CodeGauge.Features
import CodeGauge.Field
import CodeGauge.Growth
import CodeGauge.Http.AnalyzeRequest
import CodeGauge.Http.Api
import CodeGauge.Http.Message
import CodeGauge.Http.Origin
import CodeGauge.Http.SizeGate
import CodeGauge.Json.Access
import CodeGauge.Json.Basic
import CodeGauge.Json.Display
import CodeGauge.Json.Equality
import CodeGauge.Json.Reader
import CodeGauge.Json.Writer
import CodeGauge.Label
import CodeGauge.Log
import CodeGauge.Main
import CodeGauge.Number.Binary64
import CodeGauge.Number.Notation
import CodeGauge.Number.Numeral
import CodeGauge.Number.Round
import CodeGauge.Number.Shortest
import CodeGauge.Pattern.Basic
import CodeGauge.Pattern.Build
import CodeGauge.Pattern.Cursor
import CodeGauge.Pattern.Scan
import CodeGauge.Proofs.Chat.Attempts
import CodeGauge.Proofs.Chat.Fenced
import CodeGauge.Proofs.Chat.Gemini
import CodeGauge.Proofs.Chat.Groq
import CodeGauge.Proofs.Chat.Opinion
import CodeGauge.Proofs.Chat.Pause
import CodeGauge.Proofs.Chat.Prose
import CodeGauge.Proofs.Chat.Refusal
import CodeGauge.Proofs.Chat.Reply
import CodeGauge.Proofs.Chat.Usage
import CodeGauge.Proofs.Except
import CodeGauge.Proofs.Features
import CodeGauge.Proofs.Http.Analyze
import CodeGauge.Proofs.Http.AnalyzeByModel
import CodeGauge.Proofs.Http.Announced
import CodeGauge.Proofs.Http.Faults
import CodeGauge.Proofs.Http.Handle
import CodeGauge.Proofs.Http.Origin
import CodeGauge.Proofs.Http.SizeGate
import CodeGauge.Proofs.Json.Append
import CodeGauge.Proofs.Json.Consume
import CodeGauge.Proofs.Json.Document
import CodeGauge.Proofs.Json.Nesting
import CodeGauge.Proofs.Json.Start
import CodeGauge.Proofs.Json.Writable
import CodeGauge.Proofs.Json.Written
import CodeGauge.Proofs.Label.Markup
import CodeGauge.Proofs.Number.Numeral
import CodeGauge.Proofs.Number.Order
import CodeGauge.Proofs.Pattern.Case
import CodeGauge.Proofs.Pattern.Ends
import CodeGauge.Proofs.Pattern.Finds
import CodeGauge.Proofs.Pattern.Frame
import CodeGauge.Proofs.Pattern.Occurs
import CodeGauge.Proofs.Pattern.Position
import CodeGauge.Proofs.Pattern.Reach
import CodeGauge.Proofs.Pattern.Seam
import CodeGauge.Proofs.Pattern.Search
import CodeGauge.Proofs.Pattern.Simulation
import CodeGauge.Proofs.Pattern.Trim
import CodeGauge.Proofs.Rating
import CodeGauge.Proofs.Rating.Monotone
import CodeGauge.Proofs.Review.Actions
import CodeGauge.Proofs.Review.File
import CodeGauge.Proofs.Review.Grouping
import CodeGauge.Proofs.Review.Pieces
import CodeGauge.Proofs.Review.Report
import CodeGauge.Proofs.Review.Run
import CodeGauge.Proofs.Review.Sources
import CodeGauge.Proofs.Review.Summary
import CodeGauge.Proofs.Review.Tree
import CodeGauge.Proofs.Signal.Case
import CodeGauge.Proofs.Signal.Count
import CodeGauge.Proofs.Signal.Definitions
import CodeGauge.Proofs.Signal.Divisor
import CodeGauge.Proofs.Signal.Halving
import CodeGauge.Proofs.Signal.Head
import CodeGauge.Proofs.Signal.HeadName
import CodeGauge.Proofs.Signal.LoopBody
import CodeGauge.Proofs.Signal.Loops
import CodeGauge.Proofs.Signal.NestedLoop
import CodeGauge.Proofs.Signal.Seam
import CodeGauge.Proofs.Signal.Trim
import CodeGauge.Proofs.Signal.Variable
import CodeGauge.Proofs.Signal.Word
import CodeGauge.Proofs.Text.Blank
import CodeGauge.Proofs.Text.CodePoint
import CodeGauge.Proofs.Text.Encoding
import CodeGauge.Proofs.Text.Fold
import CodeGauge.Proofs.Text.Parts
import CodeGauge.Review.Chunk
import CodeGauge.Review.CommandLine
import CodeGauge.Review.File
import CodeGauge.Review.Merge
import CodeGauge.Review.Recording
import CodeGauge.Review.Report
import CodeGauge.Review.Run
import CodeGauge.Review.Summary
import CodeGauge.Review.Tree
import CodeGauge.Server
import CodeGauge.Settings
import CodeGauge.Signal.Call
import CodeGauge.Signal.Container
import CodeGauge.Signal.Halving
import CodeGauge.Signal.Loop
import CodeGauge.Text.Blank
import CodeGauge.Text.Case
import CodeGauge.Text.Case.Table
import CodeGauge.Text.Charset
import CodeGauge.Text.CodePoint
import CodeGauge.Text.Control
import CodeGauge.Text.Digit
import CodeGauge.Text.Encoding
import CodeGauge.Text.Newline
import CodeGauge.Text.Printable
import CodeGauge.Text.Ranges
import CodeGauge.Text.Word
import CodeGauge.Verdict
