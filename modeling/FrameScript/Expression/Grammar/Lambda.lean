import FrameScript.Expression.Grammar.Basic

/-!
# Lambdas

The parameters of a lambda: those without default values, those with them, and those for further
arguments, with a slash after the ones that are given by place only, and a star before the ones that
are given by name only.
-/

namespace FrameScript.Expression.Grammar

open Reader

variable (call : Rule → Reader Tree)

/-! ## Lambdas -/

/-- The end of a parameter: a comma, or the colon before the body. -/
def parameterEnd : Reader Unit :=
  first [take ",", ifNext (take ":")]

/-- A default value. -/
def default : Reader Unit :=
  first [
    do let _ ← after call "=" .expression,
    advice (first [do
      let place ← here
      take "="
      ifNext (first [take ")", take ","])
      faultAt place (.parameters .missingDefault)])]

/-- A parameter without a default value. -/
def plainParameter : Reader Unit := do
  let _ ← name
  parameterEnd

/-- A parameter with a default value. -/
def defaultParameter : Reader Unit := do
  let _ ← name
  default call
  parameterEnd

/-- A parameter. -/
def parameter : Reader Unit := do
  let _ ← name
  let _ ← optional (default call)
  parameterEnd

/-- Parameters without default values, and a slash. -/
def plainAndSlash : Reader Unit := do
  let _ ← many1 plainParameter
  take "/"
  parameterEnd

/-- Parameters of which some have default values, and a slash. -/
def defaultsAndSlash : Reader Unit := do
  let _ ← many plainParameter
  let _ ← many1 (defaultParameter call)
  take "/"
  parameterEnd

/-- Parameters and a slash. -/
def anyAndSlash : Reader Unit :=
  first [plainAndSlash, defaultsAndSlash call]

/-- The parameter for further arguments by name, written wrongly. -/
def badKeywordRest : Reader Unit :=
  first [
    do
      take "**"
      let _ ← name
      let place ← here
      take "="
      faultAt place (.parameters .defaultOfKeywords),
    do
      take "**"
      let _ ← name
      take ","
      let place ← here
      first [do let _ ← name, take "*", take "**", take "/"]
      faultAt place (.parameters .afterKeywords)]

/-- The parameter for further arguments by name. -/
def keywordRest : Reader Unit :=
  first [
    advice badKeywordRest,
    do
      take "**"
      plainParameter]

/-- A star among parameters, written wrongly. -/
def badStar : Reader Unit :=
  first [
    do
      take "*"
      first [
        take ":",
        do
          take ","
          first [take ":", take "**"]]
      fault (.parameters .starAlone),
    do
      take "*"
      let _ ← name
      let place ← here
      take "="
      faultAt place (.parameters .defaultOfRest),
    do
      take "*"
      first [plainParameter, take ","]
      let _ ← many (parameter call)
      let place ← here
      take "*"
      first [plainParameter, take ","]
      faultAt place (.parameters .starTwice)]

/-- A star among parameters, and those after it. -/
def starAndRest : Reader Unit :=
  first [
    advice (badStar call),
    do
      take "*"
      plainParameter
      let _ ← many (parameter call)
      let _ ← optional keywordRest,
    do
      take "*"
      take ","
      let _ ← many1 (parameter call)
      let _ ← optional keywordRest,
    keywordRest]

/-- Parameters that do not go together. -/
def badParameters : Reader Unit :=
  first [
    do
      let _ ← many plainParameter
      first [
        defaultsAndSlash call,
        do let _ ← many1 (defaultParameter call)]
      let place ← here
      plainParameter
      faultAt place (.parameters .plainAfterDefault),
    do
      let _ ← many plainParameter
      let place ← here
      take "("
      let _ ← separated "," name
      let _ ← optional (take ",")
      take ")"
      faultAt place (.parameters .inParentheses),
    do
      let place ← here
      take "/"
      take ","
      faultAt place (.parameters .slashFirst),
    do
      anyAndSlash call
      let _ ← many (parameter call)
      let place ← here
      take "/"
      faultAt place (.parameters .slashTwice),
    do
      let _ ← optional (anyAndSlash call)
      let _ ← many (parameter call)
      take "*"
      first [take ",", plainParameter]
      let _ ← many (parameter call)
      let place ← here
      take "/"
      faultAt place (.parameters .slashAfterStar),
    do
      let _ ← many1 (parameter call)
      take "/"
      let place ← here
      take "*"
      faultAt place (.parameters .starAfterSlash)]

/-- The parameters of a lambda. -/
def parameters : Reader Unit :=
  first [
    advice (badParameters call),
    do
      plainAndSlash
      let _ ← many plainParameter
      let _ ← many (defaultParameter call)
      let _ ← optional (starAndRest call),
    do
      defaultsAndSlash call
      let _ ← many (defaultParameter call)
      let _ ← optional (starAndRest call),
    do
      let _ ← many1 plainParameter
      let _ ← many (defaultParameter call)
      let _ ← optional (starAndRest call),
    do
      let _ ← many1 (defaultParameter call)
      let _ ← optional (starAndRest call),
    starAndRest call]

/-- A lambda. -/
def lambda : Reader Tree := do
  take "lambda"
  let _ ← optional (parameters call)
  let _ ← after call ":" .expression
  pure (.other .lambda)

end FrameScript.Expression.Grammar
