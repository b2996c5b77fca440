import FrameScript.Text.Numeral
import FrameScript.Text.Quoted

/-!
# Templates

A template has places for the values of a record. A place begins with a percent sign; then there
may be the name of a value in parentheses, flags, a width, a precision and a sign for the size, and
last there is a letter that tells how the value is written. A place without a name takes the whole
record, or the value that was named last, but only one place may take it. Two percent signs stand
for one. `Template.fault?` finds the first place that cannot be filled.
-/

namespace FrameScript.Cli.Template

/-- What is known of a value: it is a text of some length, a number, or of another kind. -/
inductive Value where
  | text (length : Nat)
  | number
  | other (kind : String)
  deriving DecidableEq

/-- Why a place cannot be filled. Places in a template are counted from zero. -/
inductive Fault where
  | openName
  | unknownName (name : Text)
  | unfinished
  | unknownLetter (letter : Char) (position : Nat)
  | nothingLeft
  | noSize
  | wideSize
  | finePrecision
  | notReal (letter : Char) (kind : String)
  | notWhole (letter : Char) (kind : String)
  | notFraction (kind : String)
  | notChar
  deriving DecidableEq

/-- The hexadecimal digits of a number. -/
def hexadecimal (n : Nat) : String :=
  String.ofList (Nat.toDigits 16 n)

/-- A letter as it is shown: a question mark stands for any that is not in ASCII. -/
def shown (letter : Char) : Char :=
  if 31 ≤ letter.toNat && letter.toNat ≤ 126 then letter else '?'

/-- The wording of a fault. -/
def Fault.message : Fault → String
  | openName => "incomplete format key"
  | unknownName name => String.ofList (Text.quoted name)
  | unfinished => "incomplete format"
  | unknownLetter letter position =>
    s!"unsupported format character '{shown letter}' (0x{hexadecimal letter.toNat}) "
      ++ s!"at index {position}"
  | nothingLeft => "not enough arguments for format string"
  | noSize => "* wants int"
  | wideSize => "width too big"
  | finePrecision => "precision too big"
  | notReal letter kind => s!"%{letter} format: a real number is required, not {kind}"
  | notWhole letter kind => s!"%{letter} format: an integer is required, not {kind}"
  | notFraction kind => s!"must be real number, not {kind}"
  | notChar => "%c requires int or char"

/-- How the kind of a value is called. -/
def Value.kind : Value → String
  | text _ => "str"
  | number => "int"
  | other kind => kind

/-! ## Parts of a place -/

/-- The name up to the parenthesis that closes it, where `depth` further ones are open, and the
template after it. -/
def takeName (depth : Nat) : Text → Option (Text × Text)
  | [] => none
  | c :: s =>
    match c, depth with
    | ')', 0 => some ([], s)
    | ')', depth + 1 => (takeName depth s).map fun found => (c :: found.1, found.2)
    | '(', depth => (takeName (depth + 1) s).map fun found => (c :: found.1, found.2)
    | _, depth => (takeName depth s).map fun found => (c :: found.1, found.2)

/-- A flag. -/
def isFlag (c : Char) : Bool :=
  ['-', '+', ' ', '#', '0'].contains c

/-- The greatest width. -/
def widthLimit : Nat := Nat.pow 2 63 - 1

/-- The greatest precision. -/
def precisionLimit : Nat := Nat.pow 2 31 - 1

/-- What a place takes a value from: the value, unless another place has taken it. -/
abbrev Supply := Option Value

/-- Takes a size off a template: a number up to `limit`, or a star, which takes a number from the
supply. -/
def takeSize (limit : Nat) (tooBig : Fault) (supply : Supply) (s : Text) :
    Except Fault (Supply × Text) :=
  match s with
  | '*' :: s =>
    match supply with
    | none => .error .nothingLeft
    | some .number => .ok (none, s)
    | some _ => .error .noSize
  | _ =>
    let digits := s.takeWhile Char.isDigit
    if limit < Numeral.ofDigits (digits.filterMap Text.digit?) then .error tooBig
    else .ok (supply, s.dropWhile Char.isDigit)

/-- Takes a precision, if there is one, off a template. -/
def takePrecision (supply : Supply) (s : Text) : Except Fault (Supply × Text) :=
  match s with
  | '.' :: s => takeSize precisionLimit .finePrecision supply s
  | _ => .ok (supply, s)

/-- Drops the sign for the size of a number. -/
def dropSizeSign : Text → Text
  | 'h' :: s | 'l' :: s | 'L' :: s => s
  | s => s

/-- Whether a value can be written as a letter says. -/
def write (letter : Char) (position : Nat) (value : Value) : Except Fault Unit :=
  if ['s', 'r', 'a'].contains letter then .ok ()
  else if ['d', 'i', 'u'].contains letter then
    if value = .number then .ok () else .error (.notReal letter value.kind)
  else if ['o', 'x', 'X'].contains letter then
    if value = .number then .ok () else .error (.notWhole letter value.kind)
  else if ['e', 'E', 'f', 'F', 'g', 'G'].contains letter then
    if value = .number then .ok () else .error (.notFraction value.kind)
  else if letter = 'c' then
    if value = .number ∨ value = .text 1 then .ok () else .error .notChar
  else .error (.unknownLetter letter position)

/-! ## Places -/

/-- The supply for a place, and the place after its name. -/
def supplyFor (record : List (Text × Value)) (supply : Supply) (s : Text) :
    Except Fault (Supply × Text) :=
  match s with
  | '(' :: s =>
    match takeName 0 s with
    | none => .error .openName
    | some (name, s) =>
      match record.lookup name with
      | none => .error (.unknownName name)
      | some value => .ok (some value, s)
  | _ => .ok (supply, s)

/-- Fills a place; `size` is the length of the whole template, and what is left of it is the
answer, with what is left of the supply. -/
def fill (record : List (Text × Value)) (size : Nat) (supply : Supply) (s : Text) :
    Except Fault (Supply × Text) := do
  let (supply, s) ← supplyFor record supply s
  let (supply, s) ← takeSize widthLimit .wideSize supply (s.dropWhile isFlag)
  let (supply, s) ← takePrecision supply s
  match dropSizeSign s, supply with
  | [], _ => throw .unfinished
  | _ :: _, none => throw .nothingLeft
  | letter :: s, some value => do
    write letter (size - s.length - 1) value
    pure (none, s)

/-- The first fault of what is left of a template; `fuel` bounds its length. -/
def faultFrom (record : List (Text × Value)) (size : Nat) :
    (fuel : Nat) → Supply → Text → Option Fault
  | 0, _, _ => none
  | fuel + 1, supply, s =>
    match s.dropWhile (· ≠ '%') with
    | [] => none
    | '%' :: '%' :: s => faultFrom record size fuel supply s
    | _ :: s =>
      match fill record size supply s with
      | .ok (supply, s) => faultFrom record size fuel supply s
      | .error fault => some fault

/-- The first fault of a template that is filled from a record of the given kind. -/
def fault? (kind : String) (record : List (Text × Value)) (template : Text) : Option Fault :=
  faultFrom record template.length (template.length + 1) (some (.other kind)) template

end FrameScript.Cli.Template
