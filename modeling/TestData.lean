import TestData.Engine.Check
import TestData.Output.Run
import TestData.Proofs.Evaluation.Exec
import TestData.Proofs.Evaluation.Visit
import TestData.Proofs.Evaluation.Frame
import TestData.Proofs.Evaluation.Depth
import TestData.Proofs.Evaluation.Nested
import TestData.Proofs.Evaluation.Settled
import TestData.Proofs.Evaluation.Answer
import TestData.Proofs.Evaluation.Lasting
import TestData.Proofs.Evaluation.Fit
import TestData.Proofs.Check.Report
import TestData.Proofs.Output.Continued
import TestData.Proofs.Output.Checked
import TestData.Proofs.Resolution.Limit
import TestData.Proofs.Resolution.Dotted
import TestData.Proofs.Resolution.Scoping
import TestData.Proofs.Schema.Forest
import TestData.Proofs.Schema.Owners
import TestData.Proofs.Schema.Closure
import TestData.Proofs.Session.Failure
import TestData.Proofs.Session.Row
import TestData.Proofs.Session.Sequence
import TestData.Proofs.Session.Steady
import TestData.Proofs.Session.Coupling
import TestData.Proofs.Session.Order
import TestData.Proofs.Session.Record
import TestData.Proofs.Table.Kept
import TestData.Proofs.Table.Recency
import TestData.Proofs.Check.Sampled
import TestData.Proofs.Session.Missing
import TestData.Proofs.Evaluation.Created
import TestData.Proofs.Session.Clock
import TestData.Proofs.Session.Apart
import TestData.Proofs.Schema.Written
import TestData.Proofs.Decimal.Arithmetic
import TestData.Proofs.Evaluation.Weighted
import TestData.Proofs.Evaluation.Span
import TestData.Proofs.Value.Alike
import TestData.Proofs.Value.Fields
import TestData.Proofs.Session.Bounds
import TestData.Proofs.Session.Integer
import TestData.Proofs.Template.Quoted
import TestData.Proofs.Session.Keys
import TestData.Proofs.Session.Names
import TestData.Proofs.Session.Data
import TestData.Proofs.Session.Pipe
import TestData.Proofs.Calendar.Offset
import TestData.Proofs.Calendar.Duration
import TestData.Proofs.Session.Stock
import TestData.Proofs.Check.Complete
import TestData.Proofs.Schema.Decimals
