import FrameScript.Text.Basic

/-!
# Journals

What is done is told to a journal: entries with a level, a title and named values. A journal keeps
its entries newest first.
-/

namespace FrameScript

/-- How grave an entry is. -/
inductive Journal.Level where
  | debug
  | info
  | warning
  | error
  | critical
  deriving DecidableEq

/-- A value in an entry. -/
inductive Journal.Value where
  | nothing
  | flag (b : Bool)
  | number (n : Int)
  | real (x : Float)
  | text (s : Text)
  | pair (x y : Int)

/-- An entry: its level, its title, and its values by name. -/
structure Journal.Entry where
  level : Journal.Level
  title : String
  values : List (String × Journal.Value)

/-- Entries, newest first. -/
abbrev Journal := List Journal.Entry

namespace Journal

/-- The number by which the gravity of a level is compared. -/
def Level.rank : Level → Int
  | debug => 10
  | info => 20
  | warning => 30
  | error => 40
  | critical => 50

/-- How a level is named in an entry. -/
def Level.name : Level → String
  | debug => "debug"
  | info => "info"
  | warning => "warning"
  | error => "error"
  | critical => "critical"

/-- The levels by the names that select them, the least grave first. -/
def Level.names : List (String × Level) := [
  ("DEBUG", debug), ("INFO", info), ("WARNING", warning), ("ERROR", error),
  ("CRITICAL", critical)]

/-- A letter of a level name in upper case; the dotless letter has the plain one for its upper
case. -/
def Level.upper (c : Char) : Char :=
  if c.toNat = 0x131 then 'I' else c.toUpper

/-- The level that a name selects, in whatever case it is written. -/
def Level.read? (s : Text) : Option Level :=
  Level.names.lookup (String.ofList (s.map Level.upper))

/-- The complaint about a name that selects no level. -/
def Level.unknownMessage (s : Text) : String :=
  let known := ", ".intercalate (Level.names.map Prod.fst)
  s!"Unknown log level: {String.ofList s}. Available: {known}"

/-- The value of a text that may be missing. -/
def Value.ofText? : Option Text → Value
  | none => nothing
  | some s => text s

/-- The value of a number that may be missing. -/
def Value.ofNat? : Option Nat → Value
  | none => nothing
  | some n => number n

/-- The complaint about fields of an entry when one of them has the name of an argument of the
function that takes them; `told` says whether the entry is grave enough to be told. The entries of
this library have fields that do not clash; this is for hosts that tell the journal entries of their
own. -/
def clash? (told : Bool) (method : String) (fields : List String) : Option String :=
  let taker := if method == "exception" then method else if told then
    "_make_filtering_bound_logger.<locals>.make_method.<locals>.meth" else "_nop"
  let complaint (taker name : String) : String :=
    s!"{taker}() got multiple values for argument '{name}'"
  match fields.find? (["event", "self"].contains ·), told && fields.contains "method_name" with
  | some name, _ => some (complaint taker name)
  | none, true => some (complaint "BoundLoggerBase._proxy_to_logger" "method_name")
  | none, false => none

/-- The entries that are grave enough to be told. -/
def atLeast (threshold : Int) (journal : Journal) : Journal :=
  journal.filter fun entry => threshold ≤ entry.level.rank

end Journal

end FrameScript
