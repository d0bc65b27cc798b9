import IntegerProgram.Attempt
import IntegerProgram.CommandLine.Arguments
import IntegerProgram.CommandLine.FileTree
import IntegerProgram.CommandLine.Log
import IntegerProgram.CommandLine.Path
import IntegerProgram.CommandLine.Run
import IntegerProgram.Config
import IntegerProgram.Constraint
import IntegerProgram.Datum
import IntegerProgram.Document
import IntegerProgram.Document.Reader
import IntegerProgram.Fault
import IntegerProgram.Implication
import IntegerProgram.Json.Basic
import IntegerProgram.Json.Printer
import IntegerProgram.Json.Reader
import IntegerProgram.LinearForm
import IntegerProgram.LinearForm.Evaluation
import IntegerProgram.Main
import IntegerProgram.Model
import IntegerProgram.Model.Check
import IntegerProgram.Model.Point
import IntegerProgram.Number.Basic
import IntegerProgram.Number.Binary64
import IntegerProgram.Number.Decimal
import IntegerProgram.Number.Decimal.Arithmetic
import IntegerProgram.Number.Measure
import IntegerProgram.Number.Numeral
import IntegerProgram.Number.Places
import IntegerProgram.Number.Residue
import IntegerProgram.Number.Rounding
import IntegerProgram.Number.Shortest
import IntegerProgram.Outcome
import IntegerProgram.Program.Engine
import IntegerProgram.Program.Gated
import IntegerProgram.Program.Gated.Point
import IntegerProgram.Program.Rows
import IntegerProgram.Program.Rows.Point
import IntegerProgram.Proofs.Answer
import IntegerProgram.Proofs.Attempt
import IntegerProgram.Proofs.CommandLine.Exit
import IntegerProgram.Proofs.Document
import IntegerProgram.Proofs.Document.Assignment
import IntegerProgram.Proofs.Document.Build
import IntegerProgram.Proofs.Document.Grammar
import IntegerProgram.Proofs.Document.Malformed
import IntegerProgram.Proofs.Document.Replay
import IntegerProgram.Proofs.Document.Report
import IntegerProgram.Proofs.Document.Sense
import IntegerProgram.Proofs.Document.Short
import IntegerProgram.Proofs.Fault
import IntegerProgram.Proofs.Gate
import IntegerProgram.Proofs.Gated
import IntegerProgram.Proofs.Gated.Exact
import IntegerProgram.Proofs.Implication
import IntegerProgram.Proofs.Implication.Exact
import IntegerProgram.Proofs.Implication.Refusal
import IntegerProgram.Proofs.Integer
import IntegerProgram.Proofs.Json
import IntegerProgram.Proofs.Key
import IntegerProgram.Proofs.Layered
import IntegerProgram.Proofs.LinearForm
import IntegerProgram.Proofs.Model
import IntegerProgram.Proofs.Model.Growth
import IntegerProgram.Proofs.Model.Operation
import IntegerProgram.Proofs.Refusal
import IntegerProgram.Proofs.Registry
import IntegerProgram.Proofs.Registry.History
import IntegerProgram.Proofs.Report
import IntegerProgram.Proofs.Rows
import IntegerProgram.Proofs.Rows.Limit
import IntegerProgram.Proofs.Rows.ReadBack
import IntegerProgram.Proofs.Session
import IntegerProgram.Proofs.Session.Conclusion
import IntegerProgram.Proofs.Session.Handle
import IntegerProgram.Proofs.Session.History
import IntegerProgram.Proofs.Session.Holders
import IntegerProgram.Proofs.Session.Numbers
import IntegerProgram.Proofs.Session.Optimum
import IntegerProgram.Proofs.Session.Refusal
import IntegerProgram.Proofs.Session.Run
import IntegerProgram.Proofs.Session.Solution
import IntegerProgram.Proofs.Session.Solve
import IntegerProgram.Proofs.Session.Structure
import IntegerProgram.Proofs.Verification
import IntegerProgram.Proofs.WeightedSum
import IntegerProgram.Registry
import IntegerProgram.Relation
import IntegerProgram.Report
import IntegerProgram.Report.Json
import IntegerProgram.Search.Box
import IntegerProgram.Search.Rule
import IntegerProgram.Search.Solver
import IntegerProgram.Session
import IntegerProgram.Session.Request
import IntegerProgram.Text.Blank
import IntegerProgram.Text.Digit
import IntegerProgram.Text.Obstacle
import IntegerProgram.Text.Printable
import IntegerProgram.Text.Quoted
import IntegerProgram.Text.Unit
import IntegerProgram.Valuation
import IntegerProgram.Value.Arithmetic
import IntegerProgram.Value.Basic
import IntegerProgram.Value.Conversion
import IntegerProgram.Value.Grid
import IntegerProgram.Value.Handle
import IntegerProgram.Value.Integer
import IntegerProgram.Value.Key
import IntegerProgram.Value.Order
import IntegerProgram.Value.Relation
import IntegerProgram.Value.Text
import IntegerProgram.Variable
import IntegerProgram.WeightedSum
import IntegerProgram.WeightedSum.Parallel
