import FrameScript.Chain
import FrameScript.Cli.Arguments
import FrameScript.Cli.Log
import FrameScript.Cli.Request
import FrameScript.Cli.Session
import FrameScript.Cli.Template
import FrameScript.Console.Action
import FrameScript.Console.Layout
import FrameScript.Console.Markup
import FrameScript.Console.Pictogram
import FrameScript.Console.PictogramTable
import FrameScript.Console.Style
import FrameScript.Console.Table
import FrameScript.Decimal.Binary
import FrameScript.Decimal.Fixed
import FrameScript.Decimal.Literal
import FrameScript.Decimal.Nearest
import FrameScript.Decimal.Quantity
import FrameScript.Decimal.Shortest
import FrameScript.Disk.Basic
import FrameScript.Disk.Change
import FrameScript.Disk.Path
import FrameScript.Disk.Walk
import FrameScript.Expression.Fault
import FrameScript.Expression.Grammar
import FrameScript.Expression.Grammar.Basic
import FrameScript.Expression.Grammar.Call
import FrameScript.Expression.Grammar.Collection
import FrameScript.Expression.Grammar.Lambda
import FrameScript.Expression.Grammar.Operand
import FrameScript.Expression.Lexer
import FrameScript.Expression.Number
import FrameScript.Expression.Parse
import FrameScript.Expression.Quotation
import FrameScript.Expression.Reader
import FrameScript.Expression.Token
import FrameScript.Expression.Tree
import FrameScript.Expression.Value
import FrameScript.Failure
import FrameScript.Input.CodeSet
import FrameScript.Input.Compiler
import FrameScript.Input.Delta
import FrameScript.Input.Event
import FrameScript.Journal
import FrameScript.Main
import FrameScript.Playback.Quick
import FrameScript.Playback.Rehearsal
import FrameScript.Playback.Report
import FrameScript.Playback.Rig
import FrameScript.Playback.Scheduler
import FrameScript.Playback.Timed
import FrameScript.Playback.Timeline
import FrameScript.Proofs.Agreement
import FrameScript.Proofs.Annotation
import FrameScript.Proofs.Cli.Check
import FrameScript.Proofs.Count.Faults
import FrameScript.Proofs.Count.Filing
import FrameScript.Proofs.Count.Gutter
import FrameScript.Proofs.Count.Isolation
import FrameScript.Proofs.Count.Memo
import FrameScript.Proofs.Count.Opening
import FrameScript.Proofs.Count.Plain
import FrameScript.Proofs.Count.Rounds
import FrameScript.Proofs.Disk.Alike
import FrameScript.Proofs.Disk.Written
import FrameScript.Proofs.Halting
import FrameScript.Proofs.Inclusion
import FrameScript.Proofs.Input.Bounds
import FrameScript.Proofs.Input.Clash
import FrameScript.Proofs.Input.Compiling
import FrameScript.Proofs.Input.Control
import FrameScript.Proofs.Input.Rearranged
import FrameScript.Proofs.Input.Sparing
import FrameScript.Proofs.Nesting
import FrameScript.Proofs.Outline.Counting
import FrameScript.Proofs.Outline.Errors
import FrameScript.Proofs.Outline.Grammar
import FrameScript.Proofs.Outline.Marking
import FrameScript.Proofs.Outline.Numbering
import FrameScript.Proofs.Outline.Pass
import FrameScript.Proofs.Outline.Readers
import FrameScript.Proofs.Outline.Silence
import FrameScript.Proofs.Outline.Steps
import FrameScript.Proofs.Outline.Unrolling
import FrameScript.Proofs.Outline.Walking
import FrameScript.Proofs.Playback.Accounts
import FrameScript.Proofs.Playback.Ahead
import FrameScript.Proofs.Playback.Beats
import FrameScript.Proofs.Playback.Cancelling
import FrameScript.Proofs.Playback.Devices
import FrameScript.Proofs.Playback.Exclusive
import FrameScript.Proofs.Playback.Handle
import FrameScript.Proofs.Playback.History
import FrameScript.Proofs.Playback.Parity
import FrameScript.Proofs.Playback.Process
import FrameScript.Proofs.Playback.Rate
import FrameScript.Proofs.Playback.Refusal
import FrameScript.Proofs.Playback.Replay
import FrameScript.Proofs.Playback.Stepping
import FrameScript.Proofs.Playback.Ticks
import FrameScript.Proofs.Playback.Traffic
import FrameScript.Proofs.Playback.Watching
import FrameScript.Proofs.Reading
import FrameScript.Proofs.Script.Aliases
import FrameScript.Proofs.Script.Bare
import FrameScript.Proofs.Script.Calls
import FrameScript.Proofs.Script.Columns
import FrameScript.Proofs.Script.Cycles
import FrameScript.Proofs.Script.Excess
import FrameScript.Proofs.Script.Filing
import FrameScript.Proofs.Script.Header
import FrameScript.Proofs.Script.InMemory
import FrameScript.Proofs.Script.Inlined
import FrameScript.Proofs.Script.Matching
import FrameScript.Proofs.Script.Memo
import FrameScript.Proofs.Script.Opening
import FrameScript.Proofs.Script.Origins
import FrameScript.Proofs.Script.Padding
import FrameScript.Proofs.Script.Pattern
import FrameScript.Proofs.Script.Placeholders
import FrameScript.Proofs.Script.Plain
import FrameScript.Proofs.Script.Provenance
import FrameScript.Proofs.Script.Rearranged
import FrameScript.Proofs.Script.Rendering
import FrameScript.Proofs.Script.Rounds
import FrameScript.Proofs.Script.Split
import FrameScript.Proofs.Script.Unrolled
import FrameScript.Proofs.Script.Untouched
import FrameScript.Proofs.Script.Written
import FrameScript.Proofs.Store.Growth
import FrameScript.Proofs.Store.Once
import FrameScript.Proofs.Store.Opening
import FrameScript.Proofs.Store.Sessions
import FrameScript.Proofs.Text.Margins
import FrameScript.Proofs.Trail
import FrameScript.Script.Count
import FrameScript.Script.Field
import FrameScript.Script.Format
import FrameScript.Script.Frame
import FrameScript.Script.Gutter
import FrameScript.Script.Header
import FrameScript.Script.Key
import FrameScript.Script.Line
import FrameScript.Script.Load
import FrameScript.Script.Outline
import FrameScript.Script.Parse
import FrameScript.Script.Store
import FrameScript.Setting
import FrameScript.Settings
import FrameScript.Text.Alphanumeric
import FrameScript.Text.Basic
import FrameScript.Text.Blank
import FrameScript.Text.Case
import FrameScript.Text.Cased
import FrameScript.Text.Digit
import FrameScript.Text.Identifier
import FrameScript.Text.Lines
import FrameScript.Text.Name
import FrameScript.Text.NameTable
import FrameScript.Text.Numeral
import FrameScript.Text.Printable
import FrameScript.Text.Quoted
import FrameScript.Text.Utf8
import FrameScript.Text.Width
