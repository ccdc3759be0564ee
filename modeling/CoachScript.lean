import CoachScript.Builtin.Advice
import CoachScript.Builtin.Condition
import CoachScript.Builtin.Instances
import CoachScript.Builtin.Memory
import CoachScript.Builtin.Merit
import CoachScript.Builtin.Report
import CoachScript.Builtin.Run
import CoachScript.Builtin.Survey
import CoachScript.CommandLine
import CoachScript.Config
import CoachScript.Decimal
import CoachScript.Engine
import CoachScript.Eval.Command
import CoachScript.Eval.Evaluate
import CoachScript.Eval.Fault
import CoachScript.Eval.Pass
import CoachScript.Eval.World
import CoachScript.Files
import CoachScript.Host.Answer
import CoachScript.Host.Basic
import CoachScript.Host.Coach
import CoachScript.Host.Fixture
import CoachScript.Json.Basic
import CoachScript.Json.Decode
import CoachScript.Json.Read
import CoachScript.Main
import CoachScript.Proofs.Builtin.Alike
import CoachScript.Proofs.Builtin.Arrays
import CoachScript.Proofs.Builtin.Asking
import CoachScript.Proofs.Builtin.Atomic
import CoachScript.Proofs.Builtin.Beside
import CoachScript.Proofs.Builtin.Comparison
import CoachScript.Proofs.Builtin.Effect
import CoachScript.Proofs.Builtin.Respecting
import CoachScript.Proofs.Builtin.Selected
import CoachScript.Proofs.Builtin.Visibility
import CoachScript.Proofs.Cache.Entries
import CoachScript.Proofs.Cache.Queue
import CoachScript.Proofs.Cache.Reading
import CoachScript.Proofs.Decimal
import CoachScript.Proofs.Engine.Built
import CoachScript.Proofs.Engine.Collected
import CoachScript.Proofs.Engine.Forgotten
import CoachScript.Proofs.Engine.Grown
import CoachScript.Proofs.Engine.Preparing
import CoachScript.Proofs.Engine.Questions
import CoachScript.Proofs.Engine.Reachable
import CoachScript.Proofs.Engine.Reevaluation
import CoachScript.Proofs.Engine.Summarised
import CoachScript.Proofs.Engine.Transcript
import CoachScript.Proofs.Engine.Visible
import CoachScript.Proofs.Engine.Withdrawn
import CoachScript.Proofs.Eval.Agreement
import CoachScript.Proofs.Eval.CallByValue
import CoachScript.Proofs.Eval.Calls
import CoachScript.Proofs.Eval.Congruence
import CoachScript.Proofs.Eval.Invariant
import CoachScript.Proofs.Eval.Moments
import CoachScript.Proofs.Eval.Reentry
import CoachScript.Proofs.Eval.Rules
import CoachScript.Proofs.Grammar.Boundary
import CoachScript.Proofs.Grammar.Composition
import CoachScript.Proofs.Grammar.Expression
import CoachScript.Proofs.Grammar.Kinds
import CoachScript.Proofs.Grammar.Layout
import CoachScript.Proofs.Grammar.Lexemes
import CoachScript.Proofs.Grammar.Line
import CoachScript.Proofs.Grammar.Numbers
import CoachScript.Proofs.Grammar.Offending
import CoachScript.Proofs.Grammar.Parser
import CoachScript.Proofs.Grammar.Pattern
import CoachScript.Proofs.Grammar.Progress
import CoachScript.Proofs.Grammar.Rendering
import CoachScript.Proofs.Grammar.Reported
import CoachScript.Proofs.Grammar.Script
import CoachScript.Proofs.Grammar.Segments
import CoachScript.Proofs.Grammar.Spelling
import CoachScript.Proofs.Grammar.Tiling
import CoachScript.Proofs.Grammar.Unfolding
import CoachScript.Proofs.Pass.Accumulating
import CoachScript.Proofs.Pass.Advice
import CoachScript.Proofs.Pass.Books
import CoachScript.Proofs.Pass.Branch
import CoachScript.Proofs.Pass.Coached
import CoachScript.Proofs.Pass.Course
import CoachScript.Proofs.Pass.Editing
import CoachScript.Proofs.Pass.Listed
import CoachScript.Proofs.Pass.Owning
import CoachScript.Proofs.Pass.Replacing
import CoachScript.Proofs.Pass.Reverting
import CoachScript.Proofs.Pass.Scoring
import CoachScript.Proofs.Pass.Tasks
import CoachScript.Proofs.State.Alike
import CoachScript.Proofs.State.Awards
import CoachScript.Proofs.State.Contributions
import CoachScript.Proofs.State.Enlisted
import CoachScript.Proofs.State.Forest
import CoachScript.Proofs.State.Grounded
import CoachScript.Proofs.State.Handles
import CoachScript.Proofs.State.History
import CoachScript.Proofs.State.Keyed
import CoachScript.Proofs.State.Lasting
import CoachScript.Proofs.State.Named
import CoachScript.Proofs.State.Namesakes
import CoachScript.Proofs.State.Open
import CoachScript.Proofs.State.Subtree
import CoachScript.Proofs.State.Summary
import CoachScript.Proofs.State.Unreported
import CoachScript.Proofs.State.View
import CoachScript.Proofs.State.Writes
import CoachScript.Proofs.Text.AsciiCase
import CoachScript.Proofs.Text.Blank
import CoachScript.Proofs.Text.Digits
import CoachScript.Proofs.Text.ElementList
import CoachScript.Proofs.Text.LetterCase
import CoachScript.Proofs.Text.Lowercase
import CoachScript.Proofs.Text.Numeral
import CoachScript.Proofs.Text.Owner
import CoachScript.Proofs.Text.Words
import CoachScript.Script.Expr
import CoachScript.Script.Grammar
import CoachScript.Script.Lexeme
import CoachScript.Script.ListingCache
import CoachScript.Script.Parser
import CoachScript.Script.Position
import CoachScript.Script.Reading
import CoachScript.Script.Scan
import CoachScript.Script.Segment
import CoachScript.Script.Token
import CoachScript.Script.Value
import CoachScript.State.Badges
import CoachScript.State.ByName
import CoachScript.State.Context
import CoachScript.State.Contexts
import CoachScript.State.Fault
import CoachScript.State.Hidden
import CoachScript.State.Lineage
import CoachScript.State.Recommendations
import CoachScript.State.Scores
import CoachScript.State.Snapshot
import CoachScript.State.Variables
import CoachScript.Text.Alphabetic
import CoachScript.Text.Blank
import CoachScript.Text.CaseTables
import CoachScript.Text.ElementList
import CoachScript.Text.Invisible
import CoachScript.Text.Lowercase
import CoachScript.Text.Numeric
import CoachScript.Text.Pieces
import CoachScript.Text.Quoted
import CoachScript.Text.Ranges
