import SatFrontend.Backend.Batch
import SatFrontend.Backend.Command
import SatFrontend.Backend.Counter
import SatFrontend.Backend.Failure
import SatFrontend.Backend.ModelStream
import SatFrontend.Backend.Witness
import SatFrontend.CommandLine.Arguments
import SatFrontend.CommandLine.Banner
import SatFrontend.CommandLine.Program
import SatFrontend.CommandLine.Run
import SatFrontend.CommandLine.Session
import SatFrontend.CommandLine.Solve
import SatFrontend.Config.Roles
import SatFrontend.Config.Settings
import SatFrontend.Config.Update
import SatFrontend.Decimal.Binary64
import SatFrontend.Decimal.Notation
import SatFrontend.Decimal.Shortest
import SatFrontend.Dimacs.Encoder
import SatFrontend.Dimacs.Header
import SatFrontend.Dimacs.Reader
import SatFrontend.Dimacs.Source
import SatFrontend.Dimacs.Writer
import SatFrontend.Files
import SatFrontend.Formula
import SatFrontend.Kernel.Cat
import SatFrontend.Kernel.Machine
import SatFrontend.Kernel.Process
import SatFrontend.Kernel.Signal
import SatFrontend.Literal
import SatFrontend.Main
import SatFrontend.Notice
import SatFrontend.Operation
import SatFrontend.Pattern.Compiled
import SatFrontend.Pattern.Expression
import SatFrontend.Pattern.Program
import SatFrontend.Pattern.Reader
import SatFrontend.Pattern.Search
import SatFrontend.Pattern.Size
import SatFrontend.Proofs.Backend.Blame
import SatFrontend.Proofs.Backend.Counter
import SatFrontend.Proofs.Backend.Custody
import SatFrontend.Proofs.Backend.Deliveries
import SatFrontend.Proofs.Backend.Invocation
import SatFrontend.Proofs.Backend.ModelLine
import SatFrontend.Proofs.Backend.ModelStream
import SatFrontend.Proofs.Backend.Transcript
import SatFrontend.Proofs.Backend.Verdict
import SatFrontend.Proofs.Backend.Witness
import SatFrontend.Proofs.CommandLine.Arguments
import SatFrontend.Proofs.CommandLine.Counting
import SatFrontend.Proofs.CommandLine.Loading
import SatFrontend.Proofs.CommandLine.Output
import SatFrontend.Proofs.CommandLine.Printed
import SatFrontend.Proofs.CommandLine.Witness
import SatFrontend.Proofs.Config.Updates
import SatFrontend.Proofs.Dimacs.Acceptance
import SatFrontend.Proofs.Dimacs.Chunks
import SatFrontend.Proofs.Dimacs.DigitCheck
import SatFrontend.Proofs.Dimacs.Encoder
import SatFrontend.Proofs.Dimacs.Grammar
import SatFrontend.Proofs.Dimacs.Limits
import SatFrontend.Proofs.Dimacs.LineNumbers
import SatFrontend.Proofs.Dimacs.Lockstep
import SatFrontend.Proofs.Dimacs.Notices
import SatFrontend.Proofs.Dimacs.Prefix
import SatFrontend.Proofs.Dimacs.Progress
import SatFrontend.Proofs.Dimacs.Registers
import SatFrontend.Proofs.Dimacs.RoundTrip
import SatFrontend.Proofs.Dimacs.Simulation
import SatFrontend.Proofs.Formula.Layout
import SatFrontend.Proofs.Formula.Refinement
import SatFrontend.Proofs.Operation.Addition
import SatFrontend.Proofs.Operation.Loading
import SatFrontend.Proofs.Operation.Nothing
import SatFrontend.Proofs.Operation.Recorded
import SatFrontend.Proofs.Operation.Simulation
import SatFrontend.Proofs.Pattern.Follow
import SatFrontend.Proofs.Pattern.ResultLine
import SatFrontend.Proofs.Receiver.Adding
import SatFrontend.Proofs.Receiver.Simulation
import SatFrontend.Proofs.Solver.Agreement
import SatFrontend.Proofs.Solver.Answers
import SatFrontend.Proofs.Solver.Calls
import SatFrontend.Proofs.Solver.Contract
import SatFrontend.Proofs.Solver.Enumeration
import SatFrontend.Proofs.Solver.Loading
import SatFrontend.Proofs.Solver.Models
import SatFrontend.Proofs.Solver.Satisfy
import SatFrontend.Proofs.Solver.SearchEngine
import SatFrontend.Proofs.Solver.Standing
import SatFrontend.Proofs.Text.Decimal
import SatFrontend.Proofs.Text.Integer
import SatFrontend.Proofs.Text.Lines
import SatFrontend.Proofs.Text.Utf8
import SatFrontend.Receiver
import SatFrontend.Shell.Arithmetic
import SatFrontend.Shell.Builtin.Directory
import SatFrontend.Shell.Builtin.Input
import SatFrontend.Shell.Builtin.Jobs
import SatFrontend.Shell.Builtin.Options
import SatFrontend.Shell.Builtin.Print
import SatFrontend.Shell.Builtin.Signals
import SatFrontend.Shell.Builtin.Test
import SatFrontend.Shell.Builtin.Variables
import SatFrontend.Shell.Execute
import SatFrontend.Shell.Expand
import SatFrontend.Shell.Host
import SatFrontend.Shell.Lookup
import SatFrontend.Shell.Reader
import SatFrontend.Shell.Redirect
import SatFrontend.Shell.Session
import SatFrontend.Shell.State
import SatFrontend.Shell.Syntax
import SatFrontend.Shell.Token
import SatFrontend.Shell.Wildcard
import SatFrontend.Solver.Coding
import SatFrontend.Solver.Engine
import SatFrontend.Solver.Enumeration
import SatFrontend.Solver.Incremental
import SatFrontend.Solver.Learning
import SatFrontend.Solver.Order
import SatFrontend.Solver.Recorder
import SatFrontend.Solver.Refutation
import SatFrontend.Solver.Search
import SatFrontend.Solver.SearchEngine
import SatFrontend.Text.Blank
import SatFrontend.Text.Bytes
import SatFrontend.Text.Numeral
import SatFrontend.Text.Scanning
import SatFrontend.Text.Similarity
import SatFrontend.Text.Split
import SatFrontend.Toml.Reader
import SatFrontend.Toml.Value
import SatFrontend.Unicode.Age
import SatFrontend.Unicode.Binary
import SatFrontend.Unicode.Category
import SatFrontend.Unicode.CharSet
import SatFrontend.Unicode.Folding
import SatFrontend.Unicode.Lookup
import SatFrontend.Unicode.Script
