import BracketBalance.Position
import BracketBalance.Kind
import BracketBalance.Token
import BracketBalance.Lexer.Mode
import BracketBalance.Lexer
import BracketBalance.Rules
import BracketBalance.Checker
import BracketBalance.Replay
import BracketBalance.Operation
import BracketBalance.Report
import BracketBalance.Text.Utf8
import BracketBalance.Text.CodePoints
import BracketBalance.Text.Blank
import BracketBalance.Text.Alphanumeric
import BracketBalance.Text.Plain
import BracketBalance.Text.Likeness
import BracketBalance.Text.Graphic
import BracketBalance.Text.Quoted
import BracketBalance.Pattern.Room
import BracketBalance.Pattern.Flags
import BracketBalance.Pattern.Atom
import BracketBalance.Pattern.Nesting
import BracketBalance.Pattern.Reading
import BracketBalance.Log.Level
import BracketBalance.Log.Event
import BracketBalance.Log.Field
import BracketBalance.Log.Directive
import BracketBalance.Log.Filter
import BracketBalance.FileTree
import BracketBalance.Log.Recorder
import BracketBalance.CommandLine.Platform
import BracketBalance.CommandLine.Arguments
import BracketBalance.CommandLine.Standard
import BracketBalance.CommandLine.Run
import BracketBalance.Main
import BracketBalance.Proofs.Balanced
import BracketBalance.Proofs.Reduction
import BracketBalance.Proofs.Calls
import BracketBalance.Proofs.Recognition
import BracketBalance.Proofs.Drain
import BracketBalance.Proofs.Ledger
import BracketBalance.Proofs.Accounts
import BracketBalance.Proofs.Grammar
import BracketBalance.Proofs.Tiling
import BracketBalance.Proofs.WellFormed
import BracketBalance.Proofs.Places
import BracketBalance.Proofs.Layout
import BracketBalance.Proofs.Marks
import BracketBalance.Proofs.Unmatched
import BracketBalance.Proofs.Guard
import BracketBalance.Proofs.Repair
import BracketBalance.Proofs.Neutral
import BracketBalance.Proofs.Context
import BracketBalance.Proofs.LineBreaks
import BracketBalance.Proofs.Beginnings
import BracketBalance.Proofs.Quotes
import BracketBalance.Proofs.Runs
import BracketBalance.Proofs.Foreign
import BracketBalance.Proofs.Cursor
import BracketBalance.Proofs.Safety
import BracketBalance.Proofs.Labels
import BracketBalance.Proofs.Culprits
import BracketBalance.Proofs.Continuation
import BracketBalance.Proofs.Restart
import BracketBalance.Proofs.Erasure
import BracketBalance.Proofs.Conduct
import BracketBalance.Proofs.Patience
import BracketBalance.Proofs.Progress
import BracketBalance.Proofs.Imitation
import BracketBalance.Proofs.Reports
import BracketBalance.Proofs.Openers
import BracketBalance.Proofs.Logs
import BracketBalance.Proofs.Standing
import BracketBalance.Proofs.Walks
import BracketBalance.Proofs.WithinLine
