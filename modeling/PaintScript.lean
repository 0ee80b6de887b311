import PaintScript.Main
import PaintScript.Proofs.Binary64.Value
import PaintScript.Proofs.CommandLine.Outcome
import PaintScript.Proofs.Document.Agreement
import PaintScript.Proofs.Document.AnyValue
import PaintScript.Proofs.Document.Coercion
import PaintScript.Proofs.Document.Damage
import PaintScript.Proofs.Document.FirstFault
import PaintScript.Proofs.Document.Float
import PaintScript.Proofs.Document.Image
import PaintScript.Proofs.Document.Layout
import PaintScript.Proofs.Document.Map
import PaintScript.Proofs.Document.NumberText
import PaintScript.Proofs.Document.Path
import PaintScript.Proofs.Document.Replace
import PaintScript.Proofs.Document.Represents
import PaintScript.Proofs.Document.RoundTrip
import PaintScript.Proofs.Document.Strictness
import PaintScript.Proofs.Document.Update
import PaintScript.Proofs.Document.Visit
import PaintScript.Proofs.Document.Wire
import PaintScript.Proofs.Instant.RoundTrip
import PaintScript.Proofs.Json.Agreement
import PaintScript.Proofs.Json.Arrangement
import PaintScript.Proofs.Json.Canonical
import PaintScript.Proofs.Json.Extent
import PaintScript.Proofs.Json.Grammar
import PaintScript.Proofs.Json.Layout
import PaintScript.Proofs.Json.Numeral
import PaintScript.Proofs.Json.Passes
import PaintScript.Proofs.Json.Printed
import PaintScript.Proofs.Json.PrintsAs
import PaintScript.Proofs.Json.ReadBack
import PaintScript.Proofs.Json.Reads
import PaintScript.Proofs.Json.Record
import PaintScript.Proofs.Json.Refusal
import PaintScript.Proofs.Json.Skip
import PaintScript.Proofs.Json.Token
import PaintScript.Proofs.Json.Value
import PaintScript.Proofs.Markup.Accounting
import PaintScript.Proofs.Markup.Concatenation
import PaintScript.Proofs.Markup.Events
import PaintScript.Proofs.Markup.Image
import PaintScript.Proofs.Markup.Meaning
import PaintScript.Proofs.Markup.Noise
import PaintScript.Proofs.Markup.RoundTrip
import PaintScript.Proofs.Markup.Statement
import PaintScript.Proofs.Markup.Token
import PaintScript.Proofs.Pipeline.BadToken
import PaintScript.Proofs.Pipeline.Compile
import PaintScript.Proofs.Pipeline.Entry
import PaintScript.Proofs.Pipeline.Job
import PaintScript.Proofs.Pipeline.Lines
import PaintScript.Proofs.Pipeline.Replay
import PaintScript.Proofs.Pipeline.Run
import PaintScript.Proofs.Pipeline.Stages
import PaintScript.Proofs.Text.Decimal
import PaintScript.Proofs.Text.Utf8
