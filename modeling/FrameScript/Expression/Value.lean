import FrameScript.Decimal.Quantity
import FrameScript.Expression.Parse

/-!
# Values of expressions

An expression is a value by itself if it is a constant, a number with a sign, the sum of a number
and an imaginary one, or a collection of such expressions. Members of sets and keys of dictionaries
have to be fit for that: `Tree.unfitness` tells what stands in the way in a value.
-/

namespace FrameScript.Expression

/-- Why an expression has no value of its own. -/
inductive ValueFault where
  | noKey
  | noValue
  | unhashable (type : String)
  | tooLarge
  deriving DecidableEq

/-- The wording of a fault in the value of an expression. -/
def ValueFault.message : ValueFault → String
  | noKey => "malformed node or string: None"
  | noValue => "malformed node or string"
  | unhashable type => s!"unhashable type: '{type}'"
  | tooLarge => "int too large to convert to float"

namespace Tree

/-- A number with at most one sign. -/
def signedNumber? : Tree → Option Constant
  | signed _ (constant value) | constant value =>
    match value with
    | .whole _ | .real | .imaginary => some value
    | _ => none
  | _ => none

/-- Checks that an expression that is no collection has a value. -/
def checkNumber (tree : Tree) : Except ValueFault Unit :=
  if tree.signedNumber?.isSome then .ok () else .error .noValue

/-- Checks that a sum has a value. -/
def checkSum (left right : Tree) : Except ValueFault Unit :=
  match left.signedNumber?, right with
  | some (.whole n), .constant .imaginary =>
    if (Quantity.whole n).toFloat?.isSome then .ok () else .error .tooLarge
  | some .real, .constant .imaginary => .ok ()
  | _, _ => .error .noValue

mutual

/-- What keeps the value of an expression from being a key: the name of its type, or of one inside,
if anything does. -/
def unfitness : Tree → Except ValueFault (Option String)
  | constant _ => .ok none
  | tuple members => firstUnfitness members
  | set members => do
    checkMembers members
    pure (some "set")
  | dict entries => do
    checkEntries entries
    pure (some "dict")
  | call (name text) [] =>
    if text.map Text.plain = "set".toList then .ok (some "set") else .error .noValue
  | sum _ left right => do
    checkSum left right
    pure none
  | tree => do
    checkNumber tree
    pure none

/-- What keeps the first of several values from being a key that is kept from it. -/
def firstUnfitness : List Tree → Except ValueFault (Option String)
  | [] => .ok none
  | tree :: rest => do
    let unfit ← unfitness tree
    pure (unfit.or (← firstUnfitness rest))

/-- Checks that expressions can be the members of a set. -/
def checkMembers : List Tree → Except ValueFault Unit
  | [] => .ok ()
  | tree :: rest => do
    match ← unfitness tree with
    | some type => throw (.unhashable type)
    | none => checkMembers rest

/-- Checks that the entries of a dictionary have values. -/
def checkEntries : List (Option Tree × Tree) → Except ValueFault Unit
  | [] => .ok ()
  | (none, _) :: _ => .error .noKey
  | (some key, value) :: rest => do
    let unfit ← unfitness key
    let _ ← unfitness value
    match unfit with
    | some type => throw (.unhashable type)
    | none => checkEntries rest

end

/-- What is wrong with the value of an expression, if anything. -/
def valueFault? (tree : Tree) : Option ValueFault :=
  match tree.unfitness with
  | .ok _ => none
  | .error fault => some fault

end Tree

end FrameScript.Expression
