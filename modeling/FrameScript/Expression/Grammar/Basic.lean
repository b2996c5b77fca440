import FrameScript.Expression.Quotation
import FrameScript.Expression.Reader
import FrameScript.Text.Numeral

/-!
# Small forms of expressions

Numbers, strings, and lists of expressions. Here and in the other forms, the alternatives stand in
the order in which they are tried. Rules whose answers are kept are called through `call`, which is
all the recursion there is. What only an advising reader looks at matches something that is written
wrongly in some usual way, and ends in a fault.
-/

namespace FrameScript.Expression.Grammar

open Reader

/-! ## Small parts -/

/-- A number. -/
def number : Reader Tree := do
  let text ← choose fun
    | .number text => some text
    | _ => none
  let digits := text.filter (· ≠ '_')
  match Number.base? digits with
  | some (base, digits) => pure (.constant (.whole ((Text.numberIn? base.size digits).getD 0)))
  | none =>
    if digits.getLast?.any (·.toLower = 'j') then pure (.constant .imaginary)
    else if !digits.all Char.isDigit then pure (.constant .real)
    else
      match Numeral.readNat (if digits.all (· = '0') then ['0'] else digits) with
      | .value n => pure (.constant (.whole n))
      | .other => mismatch
      | .tooLong count => faultInLine (.longNumber count)

/-- A string token. -/
def stringToken : Reader Quotation.Piece := do
  let token ← peek
  let text ← choose fun
    | .string text => some text
    | _ => none
  pure ⟨token, text⟩

/-- What is wrong with the expression in a field, given its line and its margin. -/
abbrev Judge := (expression : Text) → (line margin : Nat) → Option Fault

/-- What is wrong with the expression in a field of a string token. -/
def Judge.ofField (judge : Judge) (progress : Progress) : Quotation.Judge :=
  fun token expression before =>
    judge ('(' :: expression ++ [')']) (token.line + (before.filter (· == '\n')).length)
      (Quotation.marginOf (progress.column token token.leftBefore) expression before)

/-- String tokens one after the other. -/
def strings (judge : Judge) : Reader Tree := do
  let place ← here
  match Quotation.concatenate (judge.ofField (← get)) (← many1 stringToken) with
  | .ok tree => pure tree
  | .error (.own .foreignByte) => faultAt place .foreignByte
  | .error (.own reason) => fault reason
  | .error (.within reason) => throw (.fault reason)

/-- A name that begins a word in some places. -/
def softWord : Reader Text :=
  choose fun
    | .name text => if Token.isSoft text then some text else none
    | _ => none

/-- A sign that opens a bracket, as far as comprehensions may stand in it. -/
def opening : Reader Unit :=
  first [take "(", take "\x7b"]

variable (call : Rule → Reader Tree)

/-- An expression after a sign. -/
def after (sign : String) (rule : Rule) : Reader Tree := do
  take sign
  call rule

/-! ## Lists of expressions -/

/-- Expressions with commas between them make a tuple; a single one is itself. -/
def tupleOf (rule : Rule) : Reader Tree :=
  first [
    do
      let a ← call rule
      let rest ← many1 (after call "," rule)
      let _ ← optional (take ",")
      pure (.tuple (a :: rest)),
    do
      let a ← call rule
      take ","
      pure (.tuple [a]),
    call rule]

/-- An expression that gives a name to a value. -/
def naming : Reader Tree :=
  first [do
    let _ ← name
    take ":="
    let _ ← only (call .expression)
    pure (.other .naming)]

/-- An expression that is not followed by the sign of naming. -/
def unnamed : Reader Tree := do
  let tree ← call .expression
  unlessNext (take ":=")
  pure tree

/-- An expression that may give a name. -/
def named : Reader Tree :=
  first [naming call, advice (call .misnamed), unnamed call]

/-- An unpacked collection. -/
def unpacked (rule : Rule) : Reader Tree := do
  pure (.starred (← after call "*" rule))

/-- A member of a collection. -/
def member : Reader Tree :=
  first [unpacked call .bitwiseOr, named call]

/-- The members of a collection. -/
def members : Reader (List Tree) := do
  let trees ← separated "," (member call)
  let _ ← optional (take ",")
  pure trees

/-- A yielded value. -/
def yielding : Reader Tree :=
  first [
    do
      take "yield"
      let _ ← after call "from" .expression
      pure (.other .yielding),
    do
      take "yield"
      let _ ← optional (tupleOf call .starExpression)
      pure (.other .yielding)]

end FrameScript.Expression.Grammar
