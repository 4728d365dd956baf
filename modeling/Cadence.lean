import Cadence.Number.Binary64
import Cadence.Number.Shortest
import Cadence.Json.Basic
import Cadence.Json.Read
import Cadence.Json.Write
import Cadence.Time.Duration
import Cadence.Text.Printable
import Cadence.Text.Letters
import Cadence.Text.Quoted
import Cadence.Log.Level
import Cadence.Fault
import Cadence.Loop.Iteration
import Cadence.Loop.Note
import Cadence.Loop.Exit
import Cadence.Loop.Terminator
import Cadence.Loop.Strategy
import Cadence.Loop.Handle
import Cadence.Config.Basic
import Cadence.Loop.Builder
import Cadence.Cancel.Tokens
import Cadence.Scenario.Scene
import Cadence.Scenario.Run
import Cadence.Json.Real
import Cadence.Decode.Error
import Cadence.Decode.Json
import Cadence.Yaml.Error
import Cadence.Yaml.Token
import Cadence.Yaml.Token.Lexer
import Cadence.Yaml.Event
import Cadence.Yaml.Document
import Cadence.Yaml.Scalar
import Cadence.Decode.Yaml
import Cadence.Files.Tree
import Cadence.Config.Load
import Cadence.Error
import Cadence.Text.Similarity
import Cadence.Text.Styled
import Cadence.Text.Regex.Syntax
import Cadence.Text.Regex.Parse
import Cadence.Text.Regex.Charset
import Cadence.Text.Regex.Expr
import Cadence.Text.Regex.Compile
import Cadence.Text.Regex.Automaton
import Cadence.Text.Regex.Report
import Cadence.Text.Regex
import Cadence.Cli.Spec
import Cadence.Cli.Help
import Cadence.Cli.Failure
import Cadence.Cli.Parse
import Cadence.App.Command
import Cadence.Log.Filter
import Cadence.Log.Record
import Cadence.App.World
import Cadence.App.Trouble
import Cadence.App.Program
import Cadence.Main
import Cadence.Proofs.Loop.Pacing
import Cadence.Proofs.Loop.Trace
import Cadence.Proofs.Loop.Script
import Cadence.Proofs.Scenario.Frame
import Cadence.Proofs.Loop.Handle
import Cadence.Proofs.LastGoodValue
import Cadence.Proofs.Cancel.Flags
import Cadence.Proofs.Agreement
import Cadence.Proofs.Loop.Along
import Cadence.Proofs.Scenario.Untouched
import Cadence.Proofs.Uncancelled
import Cadence.Proofs.Cancellation
import Cadence.Proofs.LastCallWins
import Cadence.Proofs.Cancel.Shares
import Cadence.Proofs.Settlement
import Cadence.Proofs.Loop.Words
import Cadence.Proofs.CheckOrder
import Cadence.Proofs.Intervals
import Cadence.Proofs.ConfigLoading
import Cadence.Proofs.Deadlines
import Cadence.Proofs.CounterRun
import Cadence.Proofs.Json.ReadBack
import Cadence.Proofs.Json.Views
import Cadence.Proofs.ExitEncoding
import Cadence.Proofs.RunSequence
