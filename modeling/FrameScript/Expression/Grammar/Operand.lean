import FrameScript.Expression.Grammar.Call

/-!
# Operands and operators

An operand is a name, a constant, or what stands in brackets, with attributes and calls after it.
Targets of loops are operands that can be assigned to. Operators join operands, each rule of them
calling the one that binds tighter.
-/

namespace FrameScript.Expression.Grammar

open Reader

variable (call : Rule → Reader Tree)

/-! ## Operands -/

/-- A name, a constant, or what stands in brackets. -/
def atom : Reader Tree :=
  first [
    do pure (.name (← name)),
    do take "True"; pure (.constant (.truth true)),
    do take "False"; pure (.constant (.truth false)),
    do take "None"; pure (.constant .nothing),
    do
      ifNext stringToken
      call .strings,
    number,
    do
      ifNext (take "(")
      first [tuple call, group call, generator call],
    do
      ifNext (take "\x7b")
      first [dict call, set call, dictComprehension call, setComprehension call],
    do take "..."; pure (.constant .ellipsis)]

/-- An attribute of an operand that has been read. -/
def attributeName : Reader Tree := do
  take "."
  let _ ← name
  pure (.other .attribute)

/-- An operand with its attributes and calls. -/
def primary : Reader Tree :=
  first [
    do
      let _ ← call .primary
      attributeName,
    do
      let function ← call .primary
      pure (.call function [(.byPlace, ← generator call)]),
    do callOf call (← call .primary),
    atom call]

/-- What an operand goes on with that is part of a target. -/
def targetGoesOn : Reader Unit :=
  first [take "(", take "[", take "."]

/-- An operand that goes on and is part of a target. -/
def targetPrimary : Reader Tree :=
  first [
    do
      let _ ← call .targetPrimary
      let tree ← attributeName
      ifNext targetGoesOn
      pure tree,
    do
      let function ← call .targetPrimary
      let argument ← generator call
      ifNext targetGoesOn
      pure (.call function [(.byPlace, argument)]),
    do
      let tree ← callOf call (← call .targetPrimary)
      ifNext targetGoesOn
      pure tree,
    do
      let tree ← atom call
      ifNext targetGoesOn
      pure tree]

/-- Targets in parentheses. -/
def targetTuple : Reader (List Tree) :=
  first [
    do
      let a ← call .target
      let rest ← many1 (after call "," .target)
      let _ ← optional (take ",")
      pure (a :: rest),
    do
      let a ← call .target
      take ","
      pure [a]]

/-- A name or targets in parentheses. -/
def targetAtom : Reader Tree :=
  first [
    do pure (.name (← name)),
    do
      take "("
      let tree ← call .simpleTarget
      take ")"
      pure tree,
    do
      take "("
      let trees ← optional (targetTuple call)
      take ")"
      pure (.tuple (trees.getD []))]

/-- A target that is not starred. -/
def simpleTarget : Reader Tree :=
  first [
    do
      let _ ← call .targetPrimary
      let tree ← attributeName
      unlessNext targetGoesOn
      pure tree,
    targetAtom call]

/-- A target. -/
def target : Reader Tree :=
  first [
    do
      take "*"
      unlessNext (take "*")
      pure (.starred (← call .target)),
    call .simpleTarget]

/-! ## Operators -/

/-- An operation with a sign between two operands. -/
def operation (left : Rule) (sign : String) (right : Rule) : Reader Tree := do
  let _ ← call left
  let _ ← after call sign right
  pure (.other .operation)

/-- A sum or a difference. -/
def sumWith (sign : String) : Reader Tree := do
  let left ← call .sum
  pure (.sum (sign == "-") left (← after call sign .term))

/-- An operand with a sign before it. -/
def signed (sign : String) : Reader Tree := do
  pure (.signed (sign == "-") (← after call sign .factor))

/-- A power. -/
def power : Reader Tree :=
  first [operation call .awaited "**" .factor, call .awaited]

/-- An operand with signs. -/
def factor : Reader Tree :=
  first [
    signed call "+", signed call "-",
    do
      let _ ← after call "~" .factor
      pure (.other .operation),
    power call]

/-- An operand that may be awaited. -/
def awaited : Reader Tree :=
  first [
    do
      let _ ← after call "await" .primary
      pure (.other .awaiting),
    call .primary]

/-- The operators of comparisons; whether one is `in`. -/
def comparisonSign : Reader Bool :=
  first [
    do take "=="; pure false, do take "!="; pure false, do take "<="; pure false,
    do take "<"; pure false, do take ">="; pure false, do take ">"; pure false,
    do take "not"; take "in"; pure false, do take "in"; pure true,
    do take "is"; take "not"; pure false, do take "is"; pure false]

/-- A right operand of a comparison, and whether the operator is `in`. -/
def compared : Reader Bool := do
  let sign ← comparisonSign
  let _ ← call .bitwiseOr
  pure sign

/-- A comparison. -/
def comparison : Reader Tree :=
  first [
    do
      let left ← call .bitwiseOr
      let signs ← many1 (compared call)
      pure (.comparison (signs.head?.getD false) left),
    call .bitwiseOr]

/-- A negation. -/
def inversion : Reader Tree :=
  first [
    do
      let _ ← after call "not" .inversion
      pure (.other .operation),
    comparison call]

/-- Operands with a word between each two. -/
def chain (rule : Rule) (word : String) : Reader Tree :=
  first [
    do
      let _ ← call rule
      let _ ← many1 (after call word rule)
      pure (.other .operation),
    call rule]

end FrameScript.Expression.Grammar
