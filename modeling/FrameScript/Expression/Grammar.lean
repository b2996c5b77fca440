import FrameScript.Expression.Grammar.Lambda
import FrameScript.Expression.Grammar.Operand

/-!
# The grammar of expressions

Whole expressions, and the rules that all forms call. `Grammar.run` ties the rules together, nested
no deeper than its fuel.
-/

namespace FrameScript.Expression.Grammar

open Reader

section

variable (call : Rule → Reader Tree)

/-! ## Whole expressions -/

/-- An expression that depends on a condition. -/
def conditional : Reader Tree := do
  let _ ← call .disjunction
  let _ ← after call "if" .disjunction
  let _ ← after call "else" .expression
  pure (.other .conditional)

/-- Two expressions without anything between them, or a condition without a way out. -/
def badExpression : Reader Tree :=
  first [
    do
      unlessNext (first [
        do
          let _ ← name
          let _ ← stringToken,
        do let _ ← softWord])
      let (tree, place) ← located (call .disjunction)
      let _ ← withoutAdvice (first [conditional call, call .disjunction, lambda call])
      let level ← levelBefore
      let isOther := tree.formerStatement?.isSome || level = 0
      faultOrDead place (if isOther then none else some .forgottenComma),
    do
      let (_, place) ← located (call .disjunction)
      let _ ← after call "if" .disjunction
      unlessNext (first [take "else", take ":"])
      faultAt place .missingElse]

/-- A statement that became a function, with its operands. -/
def formerStatement : Reader Tree :=
  first [do
    let place ← here
    let text ← name
    unlessNext (take "(")
    let _ ← tupleOf call .starExpression
    faultOrDead place ((Tree.name text).formerStatement?.map .missingCall)]

/-- An expression. -/
def expression : Reader Tree :=
  first [
    advice (badExpression call), advice (formerStatement call), conditional call,
    call .disjunction, lambda call]

/-- An expression or an unpacked collection. -/
def starExpression : Reader Tree :=
  first [unpacked call .bitwiseOr, call .expression]

/-- A sign that goes on with an assignment. -/
def assignmentSign : Reader Unit :=
  first [take "=", take ":="]

/-- A value that is named or compared in a way that there is not. -/
def misnamed : Reader Tree :=
  first [
    do
      let (tree, place) ← located (call .expression)
      let _ ← after call ":=" .expression
      faultAt place (.renamed tree.description),
    do
      let place ← here
      let _ ← name
      let _ ← after call "=" .bitwiseOr
      unlessNext assignmentSign
      faultAt place .maybeComparison,
    do
      unlessNext (first [
        tuple call, generator call,
        do take "True"; pure (.constant (.truth true)),
        do take "None"; pure (.constant .nothing),
        do take "False"; pure (.constant (.truth false))])
      let (tree, place) ← located (call .bitwiseOr)
      let _ ← after call "=" .bitwiseOr
      unlessNext assignmentSign
      faultAt place (.assignedHere tree.description)]

end

/-! ## Rules -/

/-- What a rule reads. -/
def body (judge : Judge) (call : Rule → Reader Tree) :
    Rule → Reader Tree
  | .expression => kept .expression (expression call)
  | .starExpression => kept .starExpression (starExpression call)
  | .disjunction => kept .disjunction (chain call .conjunction "or")
  | .conjunction => kept .conjunction (chain call .inversion "and")
  | .inversion => kept .inversion (inversion call)
  | .bitwiseOr =>
    grown .bitwiseOr (first [operation call .bitwiseOr "|" .bitwiseXor, call .bitwiseXor])
  | .bitwiseXor =>
    grown .bitwiseXor (first [operation call .bitwiseXor "^" .bitwiseAnd, call .bitwiseAnd])
  | .bitwiseAnd =>
    grown .bitwiseAnd (first [operation call .bitwiseAnd "&" .shift, call .shift])
  | .shift =>
    grown .shift (first [
      operation call .shift "<<" .sum, operation call .shift ">>" .sum, call .sum])
  | .sum => grown .sum (first [sumWith call "+", sumWith call "-", call .term])
  | .term =>
    grown .term (first [
      operation call .term "*" .factor, operation call .term "/" .factor,
      operation call .term "//" .factor, operation call .term "%" .factor,
      operation call .term "@" .factor, call .factor])
  | .factor => kept .factor (factor call)
  | .awaited => kept .awaited (awaited call)
  | .primary => grown .primary (primary call)
  | .strings => kept .strings (strings judge)
  | .arguments => kept .arguments (arguments call)
  | .misnamed => kept .misnamed (misnamed call)
  | .target => kept .target (target call)
  | .simpleTarget => kept .simpleTarget (simpleTarget call)
  | .targetPrimary => grown .targetPrimary (targetPrimary call)

/-- What a rule reads if rules are nested no deeper than `fuel`. -/
def run (judge : Judge) : (fuel : Nat) → Rule → Progress →
    EStateM.Result Stop Progress Tree
  | 0, _, progress => .error .mismatch progress
  | fuel + 1, rule, progress => body judge (run judge fuel) rule progress

/-- A whole expression, up to the end of the text. -/
def whole (call : Rule → Reader Tree) : Reader Tree := do
  let tree ← tupleOf call .expression
  let _ ← many (takeKind .newline)
  takeKind .finish
  pure tree

end FrameScript.Expression.Grammar
