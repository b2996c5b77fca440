import FrameScript.Expression.Grammar

/-!
# Reading expressions

`Tree.read` reads a text as one expression. Where it is none, it is read once more by an advising
reader; of the faults that are found, those of tokens that are final come before all others.
-/

namespace FrameScript.Expression

namespace Tree

/-- The most rules that are nested for each token. -/
def rulesForToken : Nat := 64

/-- Where a reading begins. -/
def start (lexed : Lexed) (margin? : Option Nat) : Progress :=
  ⟨lexed, 0, 0, false, margin?, {}⟩

/-- The last token that has been looked at. -/
def lastToken? (progress : Progress) : Option Token :=
  progress.lexed.tokens[progress.reached - 1]?

/-- The fault of tokens that are no expression, if there is no better one: faults of tokens come
first, even if they have not been reached, and so does a bracket on an earlier line that is never
closed. -/
def settle (progress : Progress) (fault : Fault) : Fault :=
  match progress.lexed.ending with
  | .stopped final true _ => final
  | .stopped _ false (some (opening, line)) =>
    if (lastToken? progress).any (line < ·.line) && progress.reached ≤ progress.lexed.tokens.size
    then .neverClosed opening
    else fault
  | _ => fault

/-- The fault of an expression in which a fault has been found. It stays if it is not about writing,
or if the end of the text has been met. -/
def settleFound (progress : Progress) (fault : Fault) : Fault :=
  if !fault.isOfWriting || (lastToken? progress).any Token.meetsEnd then fault
  else settle progress fault

/-- The fault of tokens that are no expression, where a first reading has ended. -/
def faultOf (reader : Reader Tree) (first : Progress) : Fault :=
  match reader { first with place := 0, isAdvising := true, known := {} } with
  | .error (.fault fault) progress => settleFound progress fault
  | .error _ progress | .ok _ progress =>
    match (lastToken? first).map Token.kind with
    | some .indent => .unexpectedIndent
    | _ => settle progress (first.faultAt (first.reached - 1) .unfit)

/-- Reads tokens in two steps. -/
def readTokens (lexed : Lexed) (margin? : Option Nat) (reader : Reader Tree) : Except Fault Tree :=
  match reader (start lexed margin?) with
  | .ok tree _ => .ok tree
  | .error (.fault fault) progress => .error (settleFound progress fault)
  | .error _ progress => .error (faultOf reader progress)

/-- A text in which every line ends with a line feed. -/
def unifyLines (s : Text) : Text :=
  match s with
  | '\r' :: '\n' :: s => '\n' :: unifyLines s
  | '\r' :: s => '\n' :: unifyLines s
  | c :: s => c :: unifyLines s
  | [] => []

/-- Reads an expression that begins on a line, or one in a field with a margin; with formatted
strings in its fields, and so on, no deeper than `depth`. -/
def readFrom : (depth line : Nat) → (margin? : Option Nat) → Text → Except Fault Tree
  | 0, _, _, _ => .error .unfit
  | depth + 1, line, margin?, s =>
    let lexed := Lexed.ofText (unifyLines s) line
    let judge : Grammar.Judge := fun expression line margin =>
      match readFrom depth line (some margin) expression with
      | .ok _ => none
      | .error fault => some fault
    let call := Grammar.run judge (rulesForToken * (lexed.tokens.size + 1))
    readTokens lexed margin?
      (if margin?.isSome then Grammar.tupleOf call .starExpression else Grammar.whole call)

/-- Reads an expression. -/
def read (s : Text) : Except Fault Tree :=
  if s.contains '\x00' then .error .nullByte
  else readFrom (s.length + 1) 1 none s

end Tree

end FrameScript.Expression
