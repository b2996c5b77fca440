import FrameScript.Text.Basic

/-!
# Tokens of expressions

A token is a name, a fixed word or sign, a number, a string, or one of the marks that stand for the
ends of lines and of the whole. A token knows where it is in the text, and in how many brackets.
-/

namespace FrameScript.Expression

/-- What a token is. -/
inductive Token.Kind where
  | name (text : Text)
  | fixed (text : String)
  | number (text : Text)
  | string (text : Text)
  | newline
  | indent
  | dedent
  | finish
  deriving DecidableEq

/-- A token, the line where it begins, the number of brackets that are open after it, and how many
characters of the text are left where it begins and where it ends. -/
structure Token where
  kind : Token.Kind
  line : Nat
  level : Nat
  leftBefore : Nat
  leftAfter : Nat

namespace Token

/-- The words that are no names. -/
def words : List String := [
  "False", "None", "True", "and", "as", "assert", "async", "await", "break", "class", "continue",
  "def", "del", "elif", "else", "except", "finally", "for", "from", "global", "if", "import",
  "in", "is", "lambda", "nonlocal", "not", "or", "pass", "raise", "return", "try", "while", "with",
  "yield"]

/-- The names that are words in some places. -/
def softWords : List Text :=
  [['_'], "case".toList, "match".toList]

/-- Whether a name is the beginning of a word in some places. -/
def isSoft (name : Text) : Bool :=
  softWords.any (name.isPrefixOf ·)

/-- The signs of more than one character, longer ones before their beginnings. -/
def longSigns : List String := [
  "**=", "...", "//=", "<<=", ">>=", "!=", "%=", "&=", "**", "*=", "+=", "-=", "->", "//", "/=",
  ":=", "<<", "<=", "<>", "==", ">=", ">>", "@=", "^=", "|="]

/-- What a word is. -/
def Kind.ofWord (word : Text) : Kind :=
  let text := String.ofList word
  if words.contains text then .fixed text else .name word

/-- Whether the end of the text has to be seen to know where the token ends. A string, and a sign
that no longer one begins with, end by themselves. -/
def meetsEnd (token : Token) : Bool :=
  token.leftAfter == 0 && match token.kind with
    | .string _ => false
    | .fixed text => !(text.length == 3 && longSigns.contains text)
    | _ => true

end Token

end FrameScript.Expression
