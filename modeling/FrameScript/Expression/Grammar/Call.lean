import FrameScript.Expression.Grammar.Collection

/-!
# Calls

Arguments are given by their places, by their names, or unpacked from a collection; those by name
come last.
-/

namespace FrameScript.Expression.Grammar

open Reader

variable (call : Rule → Reader Tree)

/-! ## Arguments -/

/-- The place of an argument that is not followed by an equals sign. -/
def positional : Reader (Passing × Tree) :=
  first [
    do pure (.unpacked, ← unpacked call .expression),
    do
      let tree ← first [naming call, unnamed call]
      unlessNext (take "=")
      pure (.byPlace, tree)]

/-- A comprehension that is the value of an argument given by its name, without parentheses. -/
def badValue : Reader (Passing × Tree) := do
  let place ← here
  let _ ← name
  take "="
  let _ ← call .expression
  loops call
  faultAt place .maybeComparison

/-- An argument that is given a value in no way that there is. -/
def badKeyword : Reader (Passing × Tree) :=
  first [
    do
      let place ← here
      let word ← first [
        do take "True"; pure "True", do take "False"; pure "False", do take "None"; pure "None"]
      take "="
      faultAt place (.assigned word),
    badValue call,
    do
      unlessNext do
        let _ ← name
        take "="
      let (_, place) ← located (call .expression)
      take "="
      faultAt place .assignedArgument]

/-- An argument given by its name. -/
def keyword : Reader (Passing × Tree) := do
  let _ ← name
  pure (.byName, ← after call "=" .expression)

/-- An argument given by its name, or unpacked. -/
def keywordOrUnpacked : Reader (Passing × Tree) :=
  first [
    advice (badKeyword call), keyword call,
    do pure (.unpacked, ← unpacked call .expression)]

/-- An argument given by its name, or unpacked from a dictionary. -/
def keywordOrEntries : Reader (Passing × Tree) :=
  first [
    advice (badKeyword call), keyword call,
    do pure (.unpackedByName, ← after call "**" .expression)]

/-- Arguments given by their names. -/
def keywords : Reader (List (Passing × Tree)) :=
  first [
    do
      let some ← separated "," (keywordOrUnpacked call)
      take ","
      pure (some ++ (← separated "," (keywordOrEntries call))),
    separated "," (keywordOrUnpacked call),
    separated "," (keywordOrEntries call)]

/-- Arguments. -/
def argumentList : Reader (List (Passing × Tree)) :=
  first [
    do
      let byPlace ← separated "," (positional call)
      let byName ← optional do
        take ","
        keywords call
      pure (byPlace ++ byName.getD []),
    keywords call]

/-- The number of arguments that are given by their places. -/
def countByPlace (arguments : List (Passing × Tree)) : Nat :=
  arguments.countP fun a => a.1 = .byPlace || a.1 = .unpacked

/-- A comprehension that is followed by further arguments. -/
def comprehensionFirst : Reader Tree := do
  let (_, place) ← located (call .expression)
  loops call
  take ","
  let _ ← optional (first [
    do let _ ← argumentList call,
    do
      let _ ← call .expression
      loops call])
  faultAt place .bareGenerator

/-- Arguments that do not go together. -/
def badArguments : Reader Tree :=
  first [
    do
      let place ← here
      let _ ← argumentList call
      take ","
      take "*"
      faultAt place .unpackingAfterKeywords,
    comprehensionFirst call,
    do
      let (_, tree) ← badValue call
      pure tree,
    do
      let (_, place) ← ahead do
        let _ ← many (do let _ ← positional call; take ",")
        located (do pure (← positional call).2)
      let arguments ← argumentList call
      loops call
      faultOrDead place (if 1 < countByPlace arguments then some .bareGenerator else none),
    do
      let _ ← argumentList call
      take ","
      let (_, place) ← located (call .expression)
      loops call
      faultAt place .bareGenerator,
    do
      let arguments ← argumentList call
      take ","
      let _ ← argumentList call
      fault (if arguments.any (·.1 = .unpackedByName) then .positionalAfterUnpacking
        else .positionalAfterKeyword)]

/-- The arguments of a call, up to its end. -/
def arguments : Reader Tree :=
  first [
    do
      let arguments ← argumentList call
      let _ ← optional (take ",")
      ifNext (take ")")
      pure (.call (.name []) arguments),
    advice (badArguments call)]

/-- A call of a function with arguments in parentheses. -/
def callOf (function : Tree) : Reader Tree := do
  take "("
  let arguments ← optional (call .arguments)
  take ")"
  pure (.call function (match arguments with
    | some (.call _ arguments) => arguments
    | _ => []))

end FrameScript.Expression.Grammar
