import FrameScript.Decimal.Fixed
import FrameScript.Text.Numeral

/-!
# Values of settings

A value that is given for a setting is a number, a switch, a text, or something that no setting
takes. Values are read leniently: numbers may be texts or binary fractions, and switches may be
words or numbers. Numbers for an offset that is set by hand are read more leniently still: what is
behind the point of a binary fraction does not count.
-/

namespace FrameScript

/-- A value as it is given for a setting. -/
inductive Setting where
  | whole (n : Int)
  | real (x : Float)
  | flag (b : Bool)
  | text (s : Text)
  | nothing
  | list
  | table

namespace Setting

/-- What is wrong with a value. -/
inductive Problem where
  | notPositive
  | notInteger
  | tooLong
  | notWhole
  | notFinite
  | noNumber
  | notSwitch
  | noSwitch
  | notText
  deriving DecidableEq

/-- How a problem is named. -/
def Problem.text : Problem → String
  | notPositive => "greater_than"
  | notInteger => "int_parsing"
  | tooLong => "int_parsing_size"
  | notWhole => "int_from_float"
  | notFinite => "finite_number"
  | noNumber => "int_type"
  | notSwitch => "bool_parsing"
  | noSwitch => "bool_type"
  | notText => "string_type"

/-! ## Numbers -/

/-- The text without a point and one or more zeros after it. -/
def dropFraction (s : Text) : Text :=
  let fraction := (s.dropWhile (· ≠ '.')).drop 1
  if !fraction.isEmpty && fraction.all (· == '0') then s.takeWhile (· ≠ '.') else s

/-- Whether a character may follow the zeros at the beginning of a number. -/
def beginsNumber (c : Char) : Bool :=
  c.isDigit || c == '-'

/-- The text without zeros at its beginning, underscores among them; of zeros alone the last
character is left. No answer if something else follows than may. -/
def dropZeros : Text → Option Text
  | [] => none
  | c :: s =>
    if c = '0' then
      match s.dropWhile fun d => d == '0' || d == '_' with
      | [] => some [(s.getLast?).getD c]
      | d :: rest => if beginsNumber d then some (d :: rest) else none
    else if beginsNumber c then some (c :: s)
    else none

/-- A number in plain writing: its digits after a minus sign or nothing. The blanks around it are
left out, and so are a plus sign, a fraction of zeros, zeros at the beginning, and underscores that
stand alone between other characters. -/
def plainNumber? (s : Text) : Option Text :=
  let cleaned := match Numeral.trimMargin s with
    | '+' :: '-' :: _ => none
    | '+' :: s => dropZeros (dropFraction s)
    | '-' :: s => (dropZeros (dropFraction s)).map ('-' :: ·)
    | s => dropZeros (dropFraction s)
  match cleaned with
  | none => none
  | some s => if Numeral.underscoresOk false s then some (s.filter (· ≠ '_')) else none

/-- The number of digits alone, of which the first of several is no zero. Too many digits are too
long even if something else follows. -/
def readDigits (s : Text) : Except Problem Nat :=
  if s.head? = some '0' && s.length ≠ 1 then .error .notInteger
  else if Numeral.digitLimit < (s.takeWhile Char.isDigit).length then .error .tooLong
  else if s.isEmpty || !s.all Char.isDigit then .error .notInteger
  else .ok (Numeral.ofDigits (s.filterMap Text.digit?))

/-- The number of digits after a minus sign or nothing. -/
def readPlain : Text → Except Problem Int
  | '-' :: s => (readDigits s).map fun n : Nat => -(n : Int)
  | s => (readDigits s).map Int.ofNat

/-- The number that a text writes, plainly or not. Only what is written plainly is called too
long. -/
def readWhole (s : Text) : Except Problem Int :=
  match readPlain s with
  | .error .notInteger =>
    match (plainNumber? s).map readPlain with
    | some (.ok n) => .ok n
    | _ => .error .notInteger
  | answer => answer

/-- The whole numbers that a binary fraction may stand for lie below this power of two. -/
def realLimit : Float :=
  Binary.nearest (Nat.pow 2 63) 1

/-- The whole number that a binary fraction is. -/
def readReal (x : Float) : Except Problem Int :=
  if x.isNaN || x.isInf then .error .notFinite
  else
    match Decimal.truncate? x with
    | none => .error .notFinite
    | some n =>
      if Binary.nearestInt n != x then .error .notWhole
      else if x.abs < realLimit then .ok n
      else .error .tooLong

/-- The number that a value gives. -/
def toWhole : Setting → Except Problem Int
  | .whole n => .ok n
  | .real x => readReal x
  | .flag b => .ok (if b then 1 else 0)
  | .text s => readWhole s
  | .nothing | .list | .table => .error .noNumber

/-- The number above zero that a value gives. -/
def toPositive (value : Setting) : Except Problem Int :=
  match toWhole value with
  | .error problem => .error problem
  | .ok n => if 0 < n then .ok n else .error .notPositive

/-! ## Switches and texts -/

/-- The words for "on" and "off", in lower case. -/
def switchWords : List (String × Bool) := [
  ("1", true), ("on", true), ("t", true), ("true", true), ("y", true), ("yes", true),
  ("0", false), ("off", false), ("f", false), ("false", false), ("n", false), ("no", false)]

/-- The switch that a number gives; a number that takes more than 64 bits is none at all. -/
def switchOf (n : Int) : Except Problem Bool :=
  if n = 1 then .ok true
  else if n = 0 then .ok false
  else if -Nat.pow 2 63 ≤ n && n < Nat.pow 2 63 then .error .notSwitch
  else .error .noSwitch

/-- The switch that a value gives. -/
def toSwitch : Setting → Except Problem Bool
  | .flag b => .ok b
  | .whole n => switchOf n
  | .real x =>
    match readReal x with
    | .ok n => switchOf n
    | .error _ => .error .noSwitch
  | .text s =>
    (switchWords.lookup (String.ofList (s.map Char.toLower))).elim (.error .notSwitch) .ok
  | .nothing | .list | .table => .error .noSwitch

/-- The text that a value gives. -/
def toText : Setting → Except Problem Text
  | .text s => .ok s
  | _ => .error .notText

/-! ## Offsets -/

/-- How the kind of a value is called in messages. -/
def kindName : Setting → String
  | whole _ => "int"
  | real _ => "float"
  | flag _ => "bool"
  | text _ => "str"
  | nothing => "NoneType"
  | list => "list"
  | table => "dict"

/-- Why a value gives no number for an offset. -/
inductive ShiftFault where
  | infinite
  | undefined
  | noNumber (text : Text)
  | tooLong (digits : Nat)
  | noKind (name : String)
  deriving DecidableEq

/-- The wording of a fault. -/
def ShiftFault.message : ShiftFault → String
  | infinite => "cannot convert float infinity to integer"
  | undefined => "cannot convert float NaN to integer"
  | noNumber s => Numeral.otherMessage s
  | tooLong digits => Numeral.tooLongMessage digits
  | noKind name =>
    s!"int() argument must be a string, a bytes-like object or a real number, not '{name}'"

/-- The number that a value gives for an offset. The offset of the settings is read as a whole
number (`toWhole`); this is the looser reading for hosts that make a compiler from values of their
own. -/
def toShift (value : Setting) : Except ShiftFault Int :=
  match value with
  | .whole n => .ok n
  | .flag b => .ok (if b then 1 else 0)
  | .real x => (Decimal.truncate? x).elim (.error (if x.isNaN then .undefined else .infinite)) .ok
  | .text s =>
    match Numeral.readLoose s with
    | .value n => .ok n
    | .other => .error (.noNumber s)
    | .tooLong digits => .error (.tooLong digits)
  | other => .error (.noKind other.kindName)

end Setting

end FrameScript
