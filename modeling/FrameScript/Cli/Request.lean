import FrameScript.Cli.Arguments
import FrameScript.Cli.Template
import FrameScript.Settings

/-!
# Requests

What the command line asks for: options for the whole session, and one of five commands with its
files and options. Words are acted on from the left, so the first fault is the one that counts,
and help is given if it is asked for before any fault. The help on the whole program shows the
level from the settings in a template, and cannot be given if that spoils the template.
-/

namespace FrameScript.Cli

/-- The value of an option: the option is not there, it is there without a value, or it has
one. -/
inductive Given (α : Type) where
  | absent
  | blank
  | value (a : α)
  deriving DecidableEq

/-- The commands. -/
inductive Command where
  | count (files : List Text)
  | check (file : Text)
  | annotate (file : Text)
  | preview (file : Text) (limit : Given Int)
  | replay (file : Text) (period : Given Int) (quick : Bool)
  deriving DecidableEq

/-- What a command line asks for. -/
structure Request where
  xOffset : Given Int
  yOffset : Given Int
  typed : Bool
  logLevel : Given Text
  jsonLogs : Bool
  command : Command
  deriving DecidableEq

/-- Why there is no request: help was asked for, and perhaps it cannot be given, or the command
line is not in order; there may be a complaint about one of its values. -/
inductive Refusal where
  | help
  | noHelp (fault : Template.Fault)
  | usage (complaint : Option String)
  deriving DecidableEq

/-- What the switches stand for. -/
inductive Key where
  | help
  | xOffset
  | yOffset
  | typed
  | logLevel
  | jsonLogs
  | limit
  | period
  | quick
  deriving DecidableEq

/-- How the commands are called. -/
inductive Name where
  | count
  | check
  | annotate
  | preview
  | replay
  deriving DecidableEq

/-! ## Grammars -/

/-- A switch with one spelling of two dashes. -/
def long (key : Key) (name : String) (takesValue : Bool) : Switch Key :=
  ⟨key, [("--" ++ name).toList], takesValue⟩

/-- The switch that asks for help. -/
def helpSwitch : Switch Key :=
  ⟨.help, ["-h".toList, "--help".toList], false⟩

/-- The grammar of the whole command line. -/
def mainGrammar : Grammar Key :=
  { switches := [helpSwitch, long .xOffset "x-offset" true, long .yOffset "y-offset" true,
      long .typed "typed" false, long .logLevel "log-level" true,
      long .jsonLogs "json-logs" false]
    operands := .command }

/-- The name of a command as it is written. -/
def Name.text : Name → Text
  | count => "count".toList
  | check => "check".toList
  | annotate => "annotate".toList
  | preview => "preview".toList
  | replay => "replay".toList

/-- The command that is called so. -/
def Name.read? (s : Text) : Option Name :=
  [count, check, annotate, preview, replay].find? fun name => name.text = s

/-- The grammar of what follows the name of a command. -/
def Name.grammar : Name → Grammar Key
  | count => ⟨[helpSwitch], .many⟩
  | check | annotate => ⟨[helpSwitch], .one⟩
  | preview => ⟨[helpSwitch, long .limit "limit" true], .one⟩
  | replay => ⟨[helpSwitch, long .period "period" true, long .quick "quick" false], .one⟩

/-! ## Acting on what was taken -/

/-- What is known so far. A period rules out a quick run unless it repeats a small default. -/
structure Draft where
  xOffset : Given Int
  yOffset : Given Int
  typed : Bool
  logLevel : Given Text
  jsonLogs : Bool
  limit : Given Int
  period : Given Int
  paced : Bool
  quick : Bool
  words : List Text

/-- What is known before anything is taken. -/
def Draft.start (settings : Settings) : Draft :=
  { xOffset := .absent, yOffset := .absent, typed := false, logLevel := .absent
    jsonLogs := settings.logJson, limit := .absent, period := .absent
    paced := false, quick := false, words := [] }

/-- The number that is the value of a switch. -/
def readNumber : Option Text → Except Refusal (Given Int)
  | none => .ok .blank
  | some s =>
    match Numeral.readLoose s with
    | .value n => .ok (.value n)
    | _ => .error (.usage none)

/-- A default up to this one does not count when it is repeated. -/
def smallPeriod : Int := 256

/-- The complaint about a period, if there is one. -/
def periodComplaint? : Given Int → Option String
  | .value n =>
    if n ≤ 0 then some s!"argument --period: must be a positive integer, got {n}" else none
  | _ => none

/-- Whether a period repeats a small default. -/
def repeatsDefault (settings : Settings) (period : Given Int) : Bool :=
  period = .value settings.framePeriod && settings.framePeriod ≤ smallPeriod

/-- What is known after a switch. -/
def Draft.switch (settings : Settings) (draft : Draft) (value : Option Text) :
    Key → Except Refusal Draft
  | .help => .error .help
  | .xOffset => (readNumber value).map fun xOffset => { draft with xOffset }
  | .yOffset => (readNumber value).map fun yOffset => { draft with yOffset }
  | .typed => .ok { draft with typed := true }
  | .logLevel => .ok { draft with logLevel := value.elim .blank .value }
  | .jsonLogs => .ok { draft with jsonLogs := true }
  | .limit => (readNumber value).map fun limit => { draft with limit }
  | .period =>
    match readNumber value with
    | .error refusal => .error refusal
    | .ok period =>
      match periodComplaint? period with
      | some complaint => .error (.usage (some complaint))
      | none =>
        if repeatsDefault settings period then .ok { draft with period }
        else if draft.quick then .error (.usage none)
        else .ok { draft with period, paced := true }
  | .quick =>
    if draft.paced then .error (.usage none) else .ok { draft with quick := true }

/-- What is known after everything that was taken. -/
def Draft.addAll (settings : Settings) (draft : Draft) :
    List (Taken Key) → Except Refusal Draft
  | [] => .ok draft
  | .operands words :: rest => addAll settings { draft with words } rest
  | .switch key value :: rest =>
    match draft.switch settings value key with
    | .error refusal => .error refusal
    | .ok draft => addAll settings draft rest

/-- The command of a name, with the files and options that are known. -/
def Draft.command? (draft : Draft) (name : Name) : Option Command :=
  match name, draft.words with
  | .count, files => some (.count files)
  | .check, [file] => some (.check file)
  | .annotate, [file] => some (.annotate file)
  | .preview, [file] => some (.preview file draft.limit)
  | .replay, [file] => some (.replay file draft.period draft.quick)
  | _, _ => none

/-- The command that words call, the first of them its name. -/
def readCommand (settings : Settings) : List Text → Except Refusal Command
  | [] => .error (.usage none)
  | first :: words =>
    match Name.read? first with
    | none => .error (.usage none)
    | some name =>
      let scanned := scan name.grammar words
      match (Draft.start settings).addAll settings scanned.taken with
      | .error refusal => .error refusal
      | .ok draft =>
        match draft.command? name with
        | some command =>
          if scanned.sound && scanned.leftovers.isEmpty then .ok command
          else .error (.usage none)
        | none => .error (.usage none)

/-- The help on the level, a template. -/
def levelHelp (settings : Settings) : Text :=
  "Log level (default: ".toList ++ settings.logLevel ++ [')']

/-- What the help on the level may show, by name. -/
def levelRecord (settings : Settings) : List (Text × Template.Value) := [
  ("option_strings".toList, .other "list"), ("dest".toList, .text "log_level".length),
  ("nargs".toList, .other "NoneType"), ("const".toList, .other "NoneType"),
  ("default".toList, .text settings.logLevel.length), ("type".toList, .other "NoneType"),
  ("choices".toList, .other "NoneType"), ("required".toList, .number),
  ("help".toList, .text (levelHelp settings).length), ("metavar".toList, .other "NoneType"),
  ("container".toList, .other "_ArgumentGroup"), ("prog".toList, .text "framescript".length)]

/-- A refusal of the whole program, where help has to show the level. -/
def Refusal.ofProgram (settings : Settings) : Refusal → Refusal
  | help =>
    match Template.fault? "dict" (levelRecord settings) (levelHelp settings) with
    | some fault => noHelp fault
    | none => help
  | refusal => refusal

/-- What a command line asks for, with defaults from the settings. -/
def Request.read (settings : Settings) (line : List Text) : Except Refusal Request :=
  let scanned := scan mainGrammar line
  match (Draft.start settings).addAll settings scanned.taken with
  | .error refusal => .error (refusal.ofProgram settings)
  | .ok draft =>
    match readCommand settings draft.words with
    | .error refusal => .error refusal
    | .ok command =>
      if scanned.sound && scanned.leftovers.isEmpty then
        .ok { xOffset := draft.xOffset, yOffset := draft.yOffset, typed := draft.typed
              logLevel := draft.logLevel, jsonLogs := draft.jsonLogs, command }
      else .error (.usage none)

/-- The name of a command. -/
def Command.name : Command → Name
  | count _ => .count
  | check _ => .check
  | annotate _ => .annotate
  | preview .. => .preview
  | replay .. => .replay

end FrameScript.Cli
