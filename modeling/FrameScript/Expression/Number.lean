import FrameScript.Expression.Fault

/-!
# Numbers in expressions

A number is digits of some base with single underscores between them, a decimal with a point and a
power of ten, or either of the latter with the sign of an imaginary number. `Number.after` finds its
end; a word may only follow at once if it is one of those that join operands.
-/

namespace FrameScript.Expression.Number

/-- Whether a character may be part of a word; others than ASCII are judged later. -/
def isWordPart (c : Char) : Bool :=
  c.isAlphanum || c == '_' || 0x80 ≤ c.toNat

/-- The words that may follow a number without a blank. -/
def followers : List Text :=
  ["and".toList, "else".toList, "for".toList, "or".toList, "not".toList]

/-- The beginnings of words that may follow a number without a blank. -/
def openFollowers : List Text :=
  ["if".toList, "in".toList, "is".toList]

/-- Whether a number may end before a text: no word goes on there, or one that joins operands. -/
def mayEnd (s : Text) : Bool :=
  let word := s.takeWhile isWordPart
  word.isEmpty || followers.contains word || openFollowers.any (·.isPrefixOf word)

/-- The text after a number, unless a word goes on there that may not follow a number. -/
def close (base : String) (s : Text) : Except Fault Text :=
  if mayEnd s then .ok s else .error (.badNumber base)

/-! ## Other bases than ten -/

/-- Another base: its name, the letter after the zero, and its size. -/
structure Base where
  name : String
  letter : Char
  size : Nat

/-- The bases of hexadecimal, octal and binary numbers. -/
def bases : List Base :=
  [⟨"hexadecimal", 'x', 16⟩, ⟨"octal", 'o', 8⟩, ⟨"binary", 'b', 2⟩]

/-- Whether a character is a digit in a base. -/
def Base.isDigit (base : Base) (c : Char) : Bool :=
  (Text.digitIn? base.size c).isSome

/-- The fault at a place where a digit of the base is missing. -/
def Base.missing (base : Base) : Text → Fault
  | c :: _ => if c.isDigit then .badDigit c base.name else .badNumber base.name
  | [] => .badNumber base.name

/-- The text after digits of a base; `wanted` says that a digit has to come next, and before that
an underscore may. -/
def Base.after (base : Base) (wanted : Bool) : Text → Except Fault Text
  | [] => if wanted then .error (base.missing []) else .ok []
  | '_' :: c :: s =>
    if base.isDigit c then Base.after base false s else .error (base.missing (c :: s))
  | c :: s =>
    if base.isDigit c then Base.after base false s
    else if wanted then .error (base.missing (if c = '_' then s else c :: s))
    else if c = '_' then .error (base.missing s)
    else if c.isDigit then .error (.badDigit c base.name)
    else close base.name (c :: s)

/-! ## Decimals -/

/-- The text after decimal digits, with single underscores between them. -/
def afterDigits : Text → Except Fault Text
  | '_' :: c :: s => if c.isDigit then afterDigits s else .error (.badNumber "decimal")
  | ['_'] => .error (.badNumber "decimal")
  | c :: s => if c.isDigit then afterDigits s else .ok (c :: s)
  | [] => .ok []

/-- The text after the sign of an imaginary number, if there is one, and the end. -/
def afterValue : Text → Except Fault Text
  | c :: s => if c.toLower = 'j' then close "imaginary" s else close "decimal" (c :: s)
  | [] => .ok []

/-- The text after the power of ten, if there is one, and the rest. -/
def afterFraction : Text → Except Fault Text
  | e :: s =>
    if e.toLower = 'e' then
      match s with
      | c :: rest =>
        if c = '+' ∨ c = '-' then
          match rest with
          | d :: _ =>
            if d.isDigit then (afterDigits rest).bind afterValue else .error (.badNumber "decimal")
          | [] => .error (.badNumber "decimal")
        else if c.isDigit then (afterDigits s).bind afterValue
        else close "decimal" (e :: s)
      | [] => close "decimal" (e :: s)
    else afterValue (e :: s)
  | [] => .ok []

/-- The text after the digits behind a point and the rest. -/
def afterPoint (s : Text) : Except Fault Text :=
  if s.head?.any Char.isDigit then (afterDigits s).bind afterFraction else afterFraction s

/-- Whether a number with these digits begins with a zero that does not belong there. -/
def hasLeadingZero (digits : Text) : Bool :=
  digits.head? == some '0' && digits.any fun c => c.isDigit && c != '0'

/-- The text after a decimal number. -/
def afterDecimal (s : Text) : Except Fault Text := do
  let rest ← afterDigits s
  match rest with
  | '.' :: rest => afterPoint rest
  | c :: _ =>
    if ['e', 'j'].contains c.toLower then afterFraction rest
    else if hasLeadingZero (s.take (s.length - rest.length)) then throw .leadingZeros
    else close "decimal" rest
  | [] => if hasLeadingZero s then throw .leadingZeros else pure []

/-! ## All numbers -/

/-- The way of writing that a number begins with, if it is not in base ten, and the rest. -/
def base? : Text → Option (Base × Text)
  | '0' :: c :: s => (bases.find? (·.letter == c.toLower)).map fun base => (base, s)
  | _ => none

/-- The text after a number that begins with a digit, or with a point and a digit. -/
def after (s : Text) : Except Fault Text :=
  match base? s, s with
  | some (base, s), _ => base.after true s
  | none, '.' :: s => afterPoint s
  | none, _ => afterDecimal s

end FrameScript.Expression.Number
