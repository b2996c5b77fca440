import FrameScript.Text.Blank
import FrameScript.Text.Digit
import FrameScript.Text.Quoted

/-!
# Numerals

Readers of whole numbers, for decimal digits of any script. `readNat` takes digits alone,
`readInt` a minus sign before them, and `readLoose` also a plus sign, blanks around the number
and single underscores between digits. A numeral of more than `digitLimit` digits is refused with
its length, leading zeros counted.
-/

namespace FrameScript

/-- What a text says as a number: nothing, too many digits to be read, or a value. -/
inductive Numeral (α : Type) where
  | other
  | tooLong (digits : Nat)
  | value (n : α)
  deriving DecidableEq

namespace Numeral

/-- The most digits that a numeral may have. -/
def digitLimit : Nat := 4300

/-- The value changed, if there is one. -/
def map {α β : Type} (f : α → β) : Numeral α → Numeral β
  | other => other
  | tooLong n => tooLong n
  | value a => value (f a)

/-- The number with the given decimal digits, the first the most significant. -/
def ofDigits (digits : List Nat) : Nat :=
  digits.foldl (fun n d => 10 * n + d) 0

/-- The number with the given digits, if there are any and not too many. -/
def ofDigitList (digits : List Nat) : Numeral Nat :=
  if digits.isEmpty then other
  else if digitLimit < digits.length then tooLong digits.length
  else value (ofDigits digits)

/-- One or more digits. -/
def readNat (s : Text) : Numeral Nat :=
  match s.mapM Text.digit? with
  | none => other
  | some digits => ofDigitList digits

/-- One or more digits, after a minus sign or nothing. -/
def readInt : Text → Numeral Int
  | '-' :: s => (readNat s).map fun n : Nat => -(n : Int)
  | s => (readNat s).map Int.ofNat

/-! ## The lenient reader -/

/-- The blanks that may surround a number: all but the information separators. -/
def isMargin (c : Char) : Bool :=
  Text.isBlank c && !(0x1C ≤ c.toNat && c.toNat ≤ 0x1F)

/-- The text without the blanks that may surround a number. -/
def trimMargin (s : Text) : Text :=
  ((s.dropWhile isMargin).reverse.dropWhile isMargin).reverse

/-- Whether underscores stand between digits only, one at a time; `inner` tells whether a digit
comes just before. -/
def underscoresOk : (inner : Bool) → Text → Bool
  | inner, [] => inner
  | inner, c :: s => if c = '_' then inner && underscoresOk false s else underscoresOk true s

/-- Digits and underscores, then blanks. -/
def readDigitGroups (s : Text) : Numeral Nat :=
  let body := s.takeWhile fun c => Text.isDigit c || c == '_'
  let rest := s.dropWhile fun c => Text.isDigit c || c == '_'
  if underscoresOk false body then
    match ofDigitList (body.filterMap Text.digit?) with
    | value n => if rest.all isMargin then value n else other
    | outcome => outcome
  else other

/-- A number with an optional sign, with blanks around it and underscores between its digits. -/
def readLoose (s : Text) : Numeral Int :=
  match s.dropWhile isMargin with
  | '-' :: s => (readDigitGroups s).map fun n : Nat => -(n : Int)
  | '+' :: s => (readDigitGroups s).map Int.ofNat
  | s => (readDigitGroups s).map Int.ofNat

/-! ## Writing -/

/-- The least number that takes too many digits to be written. -/
def writeLimit : Nat := Nat.pow 10 digitLimit

/-- Whether a number can be written. -/
def isWritable (n : Int) : Bool :=
  n.natAbs < writeLimit

/-! ## Messages -/

/-- The complaint about a numeral with too many digits. -/
def tooLongMessage (digits : Nat) : String :=
  s!"Exceeds the limit ({digitLimit} digits) for integer string conversion: value has "
    ++ s!"{digits} digits; use sys.set_int_max_str_digits() to increase the limit"

/-- The complaint about a number that would take too many digits to write. -/
def unwritableMessage : String :=
  s!"Exceeds the limit ({digitLimit} digits) for integer string conversion; "
    ++ "use sys.set_int_max_str_digits() to increase the limit"

/-- The complaint about a text that is no number; a long text is cut. -/
def otherMessage (s : Text) : String :=
  "invalid literal for int() with base 10: " ++ String.ofList ((Text.quoted s).take 200)

end Numeral

end FrameScript
