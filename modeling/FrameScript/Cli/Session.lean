import FrameScript.Cli.Request
import FrameScript.Console.Table
import FrameScript.Playback.Rehearsal
import FrameScript.Script.Gutter
import FrameScript.Script.Load

/-!
# Sessions on the command line

A request is carried out on a disk: the answer is an exit code and the lines to print. A failure
that belongs to scripts is printed with its code; any other failure is passed on, and so is a
number that is too long to be printed.

The commands know of the console only what a `Printer` does. Where the tables and the texts stand on
it, and what can be laid out at all, is for the printer to say.
-/

namespace FrameScript.Cli

/-- What a session leaves: the exit code, the lines that were printed, the offset that was in
force, and the journal, oldest entry first, as far as the chosen level lets it through. -/
structure Outcome where
  code : Nat
  lines : List Text
  offset : Offset
  journal : List Journal.Entry

/-- What a command answers: an exit code and lines. -/
abbrev Reply := Nat × List Text

/-! ## Printing -/

/-- How texts come onto a console. -/
structure Printer where
  /-- A text as it shows when it is quoted in a message. -/
  quoted : Text → Text
  /-- A text without marks as it shows. -/
  visible : Text → Text
  /-- The lines of a text as it shows, if it can be laid out. -/
  fold? : Text → Option (List Text)
  /-- The lines of a table, if it can be laid out. -/
  table? : Console.Table → Option (List Text)
  /-- The lines of a message whose marks count. -/
  marked : Text → Except Failure (List Text)

/-- The lines of a message on the console. -/
def markedLines (message : Text) : Except Failure (List Text) :=
  match Console.Markup.read message with
  | .error fault => .error (.markup fault)
  | .ok message =>
    match Console.foldLines message.text with
    | none => .error .uncut
    | some lines =>
      match message.fault? lines with
      | some fault => .error (.markup fault)
      | none => .ok lines

/-- The printer of the console. -/
def Printer.console : Printer where
  quoted := Console.Markup.quoted
  visible := Console.Markup.visible
  fold? := Console.foldLines
  table? := Console.Table.lines
  marked := markedLines

/-! ## Commands -/

section Commands

variable (printer : Printer)

/-- The digits of a number that is to be printed. -/
def printed (n : Int) : Reading Text :=
  if Numeral.isWritable n then pure (Text.ofInt n) else throw .longNumber

/-- A count, or the word for a missing one. -/
def countText : Option Nat → Reading Text
  | none => pure "indeterminate".toList
  | some n => printed n

/-- The lines of what has been laid out on the console. -/
def drawn : Option (List Text) → Reading (List Text)
  | none => throw .uncut
  | some lines => pure lines

/-- The counts of files. A file that cannot be read has its code for a count. -/
def countRows (disk : Disk) : List Text → Reading (Nat × List (List Text))
  | [] => pure (0, [])
  | file :: rest => fun store =>
    match Count.countFile disk (Location.read file) store with
    | .ok count store =>
      (do
        let shown ← countText count
        let (code, rows) ← countRows disk rest
        pure (code, [printer.quoted file, shown] :: rows) : Reading _) store
    | .error failure store =>
      match failure.kind? with
      | none => .error failure store
      | some kind =>
        (do
          let (_, rows) ← countRows disk rest
          pure (1, [printer.quoted file, kind.code.toList] :: rows) : Reading _) store

/-- Prints the counts of files. -/
def runCount (disk : Disk) (files : List Text) : Reading Reply := do
  let (code, rows) ← countRows printer disk files
  let heading := ["File".toList, "Frames".toList]
  pure (code, ← drawn (printer.table? ⟨[.left, .right], heading :: rows⟩))

/-- A table of names and values. -/
def pairTable (rows : List (String × Text)) : Reading (List Text) :=
  drawn (printer.table? ⟨[.left, .left], rows.map fun e => [e.1.toList, e.2]⟩)

/-- Loads and compiles a script and prints what it holds. -/
def runCheck (disk : Disk) (compiler : Compiler) (typed : Bool) (file : Text) :
    Reading Reply := do
  let there := Location.read file
  let script ← Script.load disk there typed
  let deltas ← Script.compileTold compiler script.frames
  let count ← Count.countFile disk there
  let counted ← countText count
  match mouseBounds script.frames with
  | .error failure => throw failure
  | .ok bounds =>
    let boundsText := match bounds with
      | none => ['-']
      | some (x, y) => Text.ofInt x ++ " x ".toList ++ Text.ofInt y
    let lines ← pairTable printer [
      ("File", printer.quoted (script.source.getD [])),
      ("Type", (script.header.kind.map ScriptKind.text).getD ['-']),
      ("Instructions", Text.ofNat script.frames.length),
      ("Frames", counted),
      ("Effective", Text.ofNat (deltas.countP (!·.isEmpty))),
      ("Mouse bounds", boundsText)]
    pure (0, lines ++ ["OK".toList])

/-- The width of the gutter. -/
def gutterWidth : Nat := 6

/-- A line with its mark, as it is printed. -/
def gutterLines (mark : Mark) (line : Text) : Reading (List Text) :=
  if mark.isWritable then
    drawn (printer.fold?
      (printer.visible (Text.padLeft gutterWidth mark.label ++ " | ".toList ++ line)))
  else throw .longNumber

/-- Prints a text with its gutter. -/
def runAnnotate (disk : Disk) (file : Text) : Reading Reply := do
  let there := Location.read file
  let p ← Store.resolve disk there
  match disk.sourceAt there with
  | .error fault => throw (.unreadable file there.text fault)
  | .ok text =>
    let lines := Text.lines text
    let marks ← Gutter.ofLines disk p.parent.location lines
    let printed ← (marks.zip lines).mapM fun e => gutterLines printer e.1 e.2
    pure (0, printed.flatten)

/-- Codes, or a dash if there are none. -/
def codesText (codes : CodeSet) : Text :=
  if codes.isEmpty then ['-'] else Text.join [' '] (codes.codes.map Text.ofInt)

/-- The first members of a list: so many, or all if no number or zero is given; a negative number
leaves out as many at the end. -/
def limited {α : Type} (limit : Given Int) (l : List α) : List α :=
  match limit with
  | .value n =>
    if n = 0 then l
    else if n < 0 then l.take (l.length - n.natAbs)
    else l.take n.toNat
  | _ => l

/-- The row of a frame and what is held after it. -/
def previewRow (e : Nat × Held) : Reading (List Text) := do
  let mouse ← match e.2.mouse with
    | none => pure ['-']
    | some (x, y) => do pure ((← printed x) ++ ',' :: (← printed y))
  pure [Text.ofNat e.1, mouse, codesText e.2.buttons, codesText e.2.keys]

/-- Prints what is held after each frame. -/
def runPreview (disk : Disk) (compiler : Compiler) (typed : Bool) (file : Text)
    (limit : Given Int) : Reading Reply := do
  let script ← Script.load disk (Location.read file) typed
  let deltas ← Script.compileTold compiler script.frames
  let states := limited limit (Delta.preview deltas)
  let heading := ["Frame".toList, "Mouse".toList, "Buttons".toList, "Keys".toList]
  let rows ← ((List.range' 1 states.length).zip states).mapM previewRow
  pure (0, ← drawn (printer.table? ⟨[.right, .left, .left, .left], heading :: rows⟩))

/-- A truth value as a word. -/
def flagText (b : Bool) : Text :=
  if b then "True".toList else "False".toList

/-- The figures of a report by name. -/
def figureRows (figures : Report.Figures) : List (String × Text) := [
  ("mode", figures.mode.toList), ("total", Text.ofNat figures.total),
  ("ticks", Text.ofNat figures.ticks), ("applied", Text.ofNat figures.applied),
  ("failed", Text.ofNat figures.failed), ("cancelled", flagText figures.cancelled),
  ("elapsed_seconds", figures.elapsedSeconds.text), ("max_drift_ms", figures.maxDriftMs.text),
  ("mean_interval_ms", (figures.meanIntervalMs.map Quantity.text).getD ['-'])]

/-- The outcome of playing deltas on a rig that only takes notice, and the entries that it makes.
Such a rig can fail if it `writes` what it notices. -/
def rehearse (compiler : Compiler) (period : Quantity) (quick writes : Bool)
    (deltas : List Delta) : Except Failure (Report Float) × List Journal.Entry :=
  let scheduler : Scheduler (Rehearsal.World Float) Float :=
    ⟨(Rehearsal.smooth writes).rig, compiler, Period.ofQuantity? period⟩
  let desk : Desk (Rehearsal.World Float) := ⟨false, .start (Timeline.ofNat 0) []⟩
  let instructions := deltas.map Instruction.delta
  let told (desk : Desk (Rehearsal.World Float)) := desk.world.notices.map Notice.entry
  if quick then
    match scheduler.runQuick instructions desk with
    | .ok report desk => (.ok report, told desk)
    | .error failure desk => (.error failure, told desk)
  else
    match scheduler.start instructions desk with
    | .ok run desk => (run.outcome, told desk)
    | .error failure desk => (.error failure, told desk)

/-- What a session has that a command does not name: the compiler, the period of its settings,
whether scripts have to declare their kind, and whether events are written to the log. -/
structure Context where
  compiler : Compiler
  period : Int
  typed : Bool
  verbose : Bool

/-- The period of a replay. -/
def Context.periodFor (context : Context) : Given Int → Reading Quantity
  | .absent => pure (.whole context.period)
  | .blank => throw (.blank .period)
  | .value n => pure (.whole n)

/-- Plays a script on a rig that only takes notice, and prints how that went. -/
def runReplay (disk : Disk) (context : Context) (file : Text) (period : Given Int)
    (quick : Bool) : Reading Reply := do
  let script ← Script.load disk (Location.read file) context.typed
  let deltas ← Script.compileTold context.compiler script.frames
  let period ← context.periodFor period
  let (outcome, told) := rehearse context.compiler period quick context.verbose deltas
  modify fun store => { store with journal := told ++ store.journal }
  match outcome with
  | .error failure => throw failure
  | .ok report =>
    let lines ← pairTable printer (figureRows (report.mapTime Quantity.real).figures)
    pure (if report.failed = 0 then 0 else 1, lines)

/-- Carries out a command. -/
def Command.run (disk : Disk) (context : Context) : Command → Reading Reply
  | count files => runCount printer disk files
  | check file => runCheck printer disk context.compiler context.typed file
  | annotate file => runAnnotate printer disk file
  | preview file limit => runPreview printer disk context.compiler context.typed file limit
  | replay file period quick => runReplay printer disk context file period quick

/-! ## Requests -/

/-- Prints a failure that belongs to scripts, with a word to the journal. -/
def failed (name : Name) (failure : Failure) : Reading Reply :=
  match failure.kind? with
  | none => throw failure
  | some kind => do
    Store.tell .debug "Command failed"
      [("command", .text name.text), ("error_code", .text kind.code.toList)]
    let message := printer.quoted (": ".toList ++ failure.message.toList)
    pure (1, ← drawn (printer.fold? (kind.code.toList ++ message)))

/-- One part of the offset that a request puts in force. -/
def Given.offset (default : Int) : Given Int → Except Failure Int
  | absent => .ok default
  | blank => .error (.blank .offset)
  | value n => .ok n

/-- The offset that a request puts in force. -/
def Request.offset (request : Request) (settings : Settings) : Except Failure Offset := do
  let x ← request.xOffset.offset settings.xOffset
  let y ← request.yOffset.offset settings.yOffset
  pure ⟨x, y⟩

/-- The level of a request, as it is written. -/
def Request.level (request : Request) (settings : Settings) : Except Failure Text :=
  match request.logLevel with
  | .absent => .ok settings.logLevel
  | .blank => .error (.blank .level)
  | .value level => .ok level

/-- The answer to a level that is not known: a message with the marks that are in the level. -/
def refuseLevel (level : Text) (settings : Settings) : Except Failure Outcome := do
  let complaint := "Error: " ++ Journal.Level.unknownMessage level
  let lines ← printer.marked (s!"[red]{complaint}[/red]").toList
  pure ⟨2, lines, settings.offset, []⟩

/-- Carries out a request, with a printer for the answer. -/
def Request.runOn (request : Request) (settings : Settings) (disk : Disk) :
    Except Failure Outcome := do
  let written ← request.level settings
  match Journal.Level.read? written with
  | none => refuseLevel printer written settings
  | some level =>
    let offset ← request.offset settings
    let context : Context :=
      { compiler := settings.compiler offset, period := settings.framePeriod
        typed := request.typed, verbose := level.rank ≤ Journal.Level.debug.rank }
    let command := request.command.run printer disk context
    let reading := tryCatch command (failed printer request.command.name)
    match reading Store.empty with
    | .error failure _ => .error failure
    | .ok (code, lines) store =>
      .ok ⟨code, lines, offset, (Journal.atLeast level.rank store.journal).reverse⟩

end Commands

/-- Carries out a request on the console. -/
def Request.run (request : Request) (settings : Settings) (disk : Disk) :
    Except Failure Outcome :=
  request.runOn .console settings disk

end FrameScript.Cli
