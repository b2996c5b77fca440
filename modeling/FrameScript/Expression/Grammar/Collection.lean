import FrameScript.Expression.Grammar.Basic

/-!
# Collections and comprehensions

What stands in parentheses or in curly brackets: a tuple, a set or a dictionary, member by member or
as a comprehension with loops.
-/

namespace FrameScript.Expression.Grammar

open Reader

variable (call : Rule → Reader Tree)

/-! ## Comprehensions -/

/-- What comes after the word `in` of a comprehension. -/
def source : Reader Unit := do
  let _ ← call .disjunction
  let _ ← many (after call "if" .disjunction)

/-- The targets of a loop. -/
def targets : Reader Unit :=
  first [
    do
      let _ ← call .target
      unlessNext (take ","),
    do
      let _ ← call .target
      let _ ← many (after call "," .target)
      let _ ← optional (take ",")]

/-- A loop over something that cannot be its target. -/
def badLoop : Reader Unit :=
  first [do
    let _ ← optional (take "async")
    take "for"
    let place ← here
    let tree ← tupleOf call .starExpression
    faultOrDead place (tree.untargetable?.map fun part => .assigned part.description)]

/-- A loop of a comprehension. -/
def loop : Reader Unit :=
  first [
    do
      take "async"
      take "for"
      targets call
      take "in"
      only (source call),
    do
      take "for"
      targets call
      take "in"
      only (source call),
    advice (badLoop call)]

/-- The loops of a comprehension. -/
def loops : Reader Unit := do
  let _ ← many1 (loop call)

/-- A comprehension over what cannot be a member. -/
def badComprehension : Reader Tree :=
  first [
    do
      opening
      let place ← here
      let _ ← unpacked call .expression
      loops call
      faultAt place .unpackedMember,
    do
      take "\x7b"
      let (_, place) ← located (member call)
      take ","
      let _ ← optional (members call)
      loops call
      faultAt place .bareTarget]

/-- A comprehension that stands for its members one by one. -/
def generator : Reader Tree :=
  first [
    do
      take "("
      let _ ← first [naming call, unnamed call]
      loops call
      take ")"
      pure (.other .generator),
    advice (badComprehension call)]

/-- A comprehension of a set. -/
def setComprehension : Reader Tree :=
  first [
    do
      take "\x7b"
      let _ ← named call
      loops call
      take "\x7d"
      pure (.other .setComprehension),
    advice (badComprehension call)]

/-! ## Collections -/

/-- A tuple in parentheses. -/
def tuple : Reader Tree := do
  take "("
  let trees ← optional do
    let a ← member call
    take ","
    pure (a :: (← optional (members call)).getD [])
  take ")"
  pure (.tuple (trees.getD []))

/-- An expression that must not stand in parentheses. -/
def badGroup : Reader Tree :=
  first [
    do
      take "("
      let place ← here
      let _ ← unpacked call .expression
      take ")"
      faultAt place .starred,
    do
      take "("
      let place ← here
      let _ ← after call "**" .expression
      take ")"
      faultAt place .doubleStarred]

/-- An expression in parentheses. -/
def group : Reader Tree :=
  first [
    do
      take "("
      let tree ← first [yielding call, named call]
      take ")"
      pure tree,
    advice (badGroup call)]

/-- A set. -/
def set : Reader Tree := do
  take "\x7b"
  let trees ← members call
  take "\x7d"
  pure (.set trees)

/-- A key and a value. -/
def pair : Reader (Tree × Tree) := do
  let key ← call .expression
  pure (key, ← after call ":" .expression)

/-- An entry of a dictionary. -/
def entry : Reader (Option Tree × Tree) :=
  first [
    do pure (none, ← after call "**" .bitwiseOr),
    do
      let (key, value) ← pair call
      pure (some key, value)]

/-- The end of an entry or of a dictionary. -/
def entryEnd : Reader Unit :=
  first [take "\x7d", take ","]

/-- A key with a colon that has no value. -/
def badValues : List (Reader Tree) := [
  do
    let _ ← call .expression
    take ":"
    let place ← here
    let _ ← after call "*" .bitwiseOr
    faultAt place .starredValue,
  do
    let _ ← call .expression
    let place ← here
    take ":"
    ifNext entryEnd
    faultAt place .missingValue]

/-- An entry that is none. -/
def badEntry : Reader Tree :=
  first ((do
    let (_, wrappings) ← unwrapped (call .expression)
    unlessNext (take ":")
    faultBefore ((← here) - wrappings) .missingColon) :: badValues call)

/-- Entries of which one is none. -/
def badEntries : Reader Tree :=
  first ((do
    let _ ← separated "," (entry call)
    take ","
    badEntry call) :: badValues call)

/-- A dictionary. -/
def dict : Reader Tree :=
  first [
    do
      take "\x7b"
      let entries ← optional do
        let entries ← separated "," (entry call)
        let _ ← optional (take ",")
        pure entries
      take "\x7d"
      pure (.dict (entries.getD [])),
    do
      take "\x7b"
      let tree ← badEntries call
      take "\x7d"
      pure tree]

/-- A comprehension of a dictionary. -/
def dictComprehension : Reader Tree :=
  first [
    do
      take "\x7b"
      let _ ← pair call
      loops call
      take "\x7d"
      pure (.other .dictComprehension),
    advice (first [do
      take "\x7b"
      let place ← here
      let _ ← after call "**" .bitwiseOr
      loops call
      take "\x7d"
      faultAt place .unpackedEntry])]

end FrameScript.Expression.Grammar
