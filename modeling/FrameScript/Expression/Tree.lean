import FrameScript.Text.Identifier

/-!
# Trees of expressions

The structure of an expression, as far as its value or a fault depends on it: names, constants,
collections, signs and sums are kept, and of any other expression only what kind it is.
-/

namespace FrameScript.Expression

/-- A constant; of numbers the kind counts, and the value of whole ones. -/
inductive Constant where
  | whole (n : Nat)
  | real
  | imaginary
  | text
  | bytes
  | truth (b : Bool)
  | nothing
  | ellipsis
  deriving DecidableEq

/-- An expression of which only the kind is known. -/
inductive Kind where
  | attribute
  | lambda
  | operation
  | generator
  | yielding
  | awaiting
  | setComprehension
  | dictComprehension
  | formatted
  | conditional
  | naming
  deriving DecidableEq

/-- How an argument of a call is given: by its place, unpacked from a collection, by its name, or
unpacked from a dictionary. -/
inductive Passing where
  | byPlace
  | unpacked
  | byName
  | unpackedByName
  deriving DecidableEq

/-- An expression. Of a comparison it counts whether its first operator is `in`; an entry of a
dictionary without a key unpacks another one. -/
inductive Tree where
  | name (text : Text)
  | constant (value : Constant)
  | signed (negative : Bool) (operand : Tree)
  | sum (negative : Bool) (left right : Tree)
  | tuple (members : List Tree)
  | set (members : List Tree)
  | dict (entries : List (Option Tree × Tree))
  | call (function : Tree) (arguments : List (Passing × Tree))
  | starred (operand : Tree)
  | comparison (isMembership : Bool) (left : Tree)
  | other (kind : Kind)

namespace Tree

/-- What a constant is called in a message. -/
def constantName : Constant → String
  | .nothing => "None"
  | .truth true => "True"
  | .truth false => "False"
  | .ellipsis => "ellipsis"
  | _ => "literal"

/-- What an expression of a kind is called in a message. -/
def kindName : Kind → String
  | .attribute => "attribute"
  | .lambda => "lambda"
  | .operation => "expression"
  | .generator => "generator expression"
  | .yielding => "yield expression"
  | .awaiting => "await expression"
  | .setComprehension => "set comprehension"
  | .dictComprehension => "dict comprehension"
  | .formatted => "f-string expression"
  | .conditional => "conditional expression"
  | .naming => "named expression"

/-- What an expression is called in a message. -/
def description : Tree → String
  | name _ => "name"
  | constant value => constantName value
  | signed .. | sum .. => "expression"
  | tuple _ => "tuple"
  | set _ => "set display"
  | dict _ => "dict literal"
  | call .. => "function call"
  | starred _ => "starred"
  | comparison .. => "comparison"
  | other kind => kindName kind

/-- Whether an expression may have parentheses of its own, which are not only around it. -/
def mayOwnParentheses : Tree → Bool
  | tuple _ | other .generator => true
  | _ => false

mutual

/-- The part of an expression that keeps it from being the target of a loop. A comparison by `in`
may have been meant as the target and the collection. -/
def untargetable? : Tree → Option Tree
  | tuple members => firstUntargetable? members
  | starred operand => untargetable? operand
  | comparison true left => untargetable? left
  | comparison false _ | name _ | other .attribute => none
  | tree => some tree

/-- The first such part of several expressions. -/
def firstUntargetable? : List Tree → Option Tree
  | [] => none
  | tree :: rest => (untargetable? tree).or (firstUntargetable? rest)

end

/-- Statements that became functions: a name right before an operand may stand for one of them. -/
def formerStatements : List Text :=
  ["print".toList, "exec".toList]

/-- The name of a statement that became a function, if an expression is such a name. -/
def formerStatement? : Tree → Option Text
  | name text =>
    let plain := text.map Text.plain
    if formerStatements.contains plain then some plain else none
  | _ => none

end Tree

end FrameScript.Expression
