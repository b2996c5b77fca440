import FrameScript.Text.Numeral
import FrameScript.Text.Printable

/-!
# Faults of expressions

What can be wrong with the writing of an expression, as a cause, and its wording. Faults of tokens,
of strings and of the fields in strings are found piece by piece; the others are about how the
pieces stand together, and say what was probably meant. A fault inside a field is worded as such.
-/

namespace FrameScript.Expression

/-- What is wrong with an escape of a text, from one place up to another. -/
inductive EscapeFault where
  | truncated (letter : Char) (digits : Nat)
  | tooLarge
  | noName
  | unknownName
  deriving DecidableEq

/-- The wording of a fault in an escape. -/
def EscapeFault.message : EscapeFault → String
  | truncated letter digits =>
    "truncated \\" ++ String.ofList (letter :: List.replicate digits 'X') ++ " escape"
  | tooLarge => "illegal Unicode character"
  | noName => "malformed \\N character escape"
  | unknownName => "unknown Unicode character name"

/-- What is wrong with the parameters of a lambda. -/
inductive ParameterFault where
  | missingDefault
  | plainAfterDefault
  | inParentheses
  | slashFirst
  | slashTwice
  | slashAfterStar
  | starAfterSlash
  | starAlone
  | starTwice
  | defaultOfRest
  | defaultOfKeywords
  | afterKeywords
  deriving DecidableEq

/-- The wording of a fault of parameters. -/
def ParameterFault.message : ParameterFault → String
  | missingDefault => "expected default value expression"
  | plainAfterDefault => "non-default argument follows default argument"
  | inParentheses => "Lambda expression parameters cannot be parenthesized"
  | slashFirst => "at least one argument must precede /"
  | slashTwice => "/ may appear only once"
  | slashAfterStar => "/ must be ahead of *"
  | starAfterSlash => "expected comma between / and *"
  | starAlone => "named arguments must follow bare *"
  | starTwice => "* argument may appear only once"
  | defaultOfRest => "var-positional argument cannot have default value"
  | defaultOfKeywords => "var-keyword argument cannot have default value"
  | afterKeywords => "arguments cannot follow var-keyword argument"

/-- What is wrong with a field of a formatted string. -/
inductive FieldFault where
  | unclosed
  | strayBrace
  | tooDeep
  | backslash
  | comment
  | openString
  | tooNested
  | unmatched (bracket : Char)
  | mismatched (closing opening : Char)
  | empty
  | emptyBefore (next : Char)
  | badConversion
  deriving DecidableEq

/-- The wording of a fault of a field. -/
def FieldFault.message : FieldFault → String
  | unclosed => "f-string: expecting '\x7d'"
  | strayBrace => "f-string: single '\x7d' is not allowed"
  | tooDeep => "f-string: expressions nested too deeply"
  | backslash => "f-string expression part cannot include a backslash"
  | comment => "f-string expression part cannot include '#'"
  | openString => "f-string: unterminated string"
  | tooNested => "f-string: too many nested parenthesis"
  | unmatched bracket => s!"f-string: unmatched '{bracket}'"
  | mismatched closing opening =>
    s!"f-string: closing parenthesis '{closing}' does not match opening parenthesis '{opening}'"
  | empty => "f-string: empty expression not allowed"
  | emptyBefore next => s!"f-string: expression required before '{next}'"
  | badConversion =>
    "f-string: invalid conversion character: expected 's', 'r', or 'a'"

/-- What is wrong with an expression. -/
inductive Fault where
  | nullByte
  | openString (long : Bool) (line : Nat)
  | strangeChar (c : Char)
  | badNumber (base : String)
  | badDigit (c : Char) (base : String)
  | leadingZeros
  | afterBackslash
  | unmatched (closing : Char)
  | mismatched (closing opening : Char) (line? : Option Nat)
  | neverClosed (opening : Char)
  | tooNested
  | unexpectedEnd
  | badIndent
  | unexpectedIndent
  | longNumber (digits : Nat)
  | mixedStrings
  | foreignByte
  | badEscape (start stop : Nat) (fault : EscapeFault)
  | badByteEscape (place : Nat)
  | field (fault : FieldFault)
  | insideField (fault : Fault)
  | leftOfField
  | forgottenComma
  | missingElse
  | missingCall (name : Text)
  | maybeComparison
  | assignedHere (what : String)
  | assigned (what : String)
  | assignedArgument
  | renamed (what : String)
  | starred
  | doubleStarred
  | unpackedMember
  | unpackedEntry
  | bareTarget
  | missingColon
  | missingValue
  | starredValue
  | unpackingAfterKeywords
  | bareGenerator
  | positionalAfterKeyword
  | positionalAfterUnpacking
  | parameters (fault : ParameterFault)
  | unfit
  deriving DecidableEq

/-- The code of a character in at least four hexadecimal digits. -/
def codeText (c : Char) : String :=
  let digits := (Nat.toDigits 16 c.toNat).map Char.toUpper
  String.ofList (List.replicate (4 - digits.length) '0' ++ digits)

/-- The wording of a fault. -/
def Fault.message : Fault → String
  | nullByte => "source code string cannot contain null bytes"
  | openString long line =>
    (if long then "unterminated triple-quoted" else "unterminated")
      ++ s!" string literal (detected at line {line})"
  | strangeChar c =>
    if Text.isPrintable c then s!"invalid character '{c}' (U+{codeText c})"
    else s!"invalid non-printable character U+{codeText c}"
  | badNumber base => s!"invalid {base} literal"
  | badDigit c base => s!"invalid digit '{c}' in {base} literal"
  | leadingZeros => "leading zeros in decimal integer literals are not permitted; "
    ++ "use an 0o prefix for octal integers"
  | afterBackslash => "unexpected character after line continuation character"
  | unmatched closing => s!"unmatched '{closing}'"
  | mismatched closing opening line? =>
    s!"closing parenthesis '{closing}' does not match opening parenthesis '{opening}'"
      ++ (line?.map fun line => s!" on line {line}").getD ""
  | neverClosed opening => s!"'{opening}' was never closed"
  | tooNested => "too many nested parentheses"
  | unexpectedEnd => "unexpected EOF while parsing"
  | badIndent => "unindent does not match any outer indentation level"
  | unexpectedIndent => "unexpected indent"
  | longNumber digits => Numeral.tooLongMessage digits
    ++ " - Consider hexadecimal for huge integer literals to avoid decimal conversion limits."
  | mixedStrings => "cannot mix bytes and nonbytes literals"
  | foreignByte => "bytes can only contain ASCII literal characters"
  | badEscape start stop fault =>
    s!"(unicode error) 'unicodeescape' codec can't decode bytes in position {start}-{stop - 1}: "
      ++ fault.message
  | badByteEscape place => s!"(value error) invalid \\x escape at position {place}"
  | field fault => fault.message
  | insideField fault => "f-string: " ++ fault.message
  | leftOfField => "Negative size passed to PyUnicode_New"
  | forgottenComma => "invalid syntax. Perhaps you forgot a comma?"
  | missingElse => "expected 'else' after 'if' expression"
  | missingCall name =>
    s!"Missing parentheses in call to '{String.ofList name}'. "
      ++ s!"Did you mean {String.ofList name}(...)?"
  | maybeComparison => "invalid syntax. Maybe you meant '==' or ':=' instead of '='?"
  | assignedHere what => s!"cannot assign to {what} here. Maybe you meant '==' instead of '='?"
  | assigned what => s!"cannot assign to {what}"
  | assignedArgument => "expression cannot contain assignment, perhaps you meant \"==\"?"
  | renamed what => s!"cannot use assignment expressions with {what}"
  | starred => "cannot use starred expression here"
  | doubleStarred => "cannot use double starred expression here"
  | unpackedMember => "iterable unpacking cannot be used in comprehension"
  | unpackedEntry => "dict unpacking cannot be used in dict comprehension"
  | bareTarget => "did you forget parentheses around the comprehension target?"
  | missingColon => "':' expected after dictionary key"
  | missingValue => "expression expected after dictionary key and ':'"
  | starredValue => "cannot use a starred expression in a dictionary value"
  | unpackingAfterKeywords =>
    "iterable argument unpacking follows keyword argument unpacking"
  | bareGenerator => "Generator expression must be parenthesized"
  | positionalAfterKeyword => "positional argument follows keyword argument"
  | positionalAfterUnpacking => "positional argument follows keyword argument unpacking"
  | parameters fault => fault.message
  | unfit => "invalid syntax"

/-- Whether a fault is about the writing of an expression, and not about what no reader takes. -/
def Fault.isOfWriting : Fault → Bool
  | nullByte | leftOfField => false
  | _ => true

end FrameScript.Expression
