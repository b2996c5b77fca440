import FrameScript.Expression.Lexer
import FrameScript.Expression.Tree
import Std.Data.HashMap

/-!
# Readers of tokens

A reader takes tokens and gives an answer, or it does not match, and another one is tried from the
same place. What some rules answer at a place is kept, so that no rule is tried there twice. A rule
may also begin with itself: then `grown` lets it match more and more, as long as that takes it
further.

A fault ends the whole reading. Only an advising reader looks for more than the first thing that
does not fit.
-/

namespace FrameScript.Expression

/-- The rules whose answers are kept. -/
inductive Rule where
  | expression
  | starExpression
  | disjunction
  | conjunction
  | inversion
  | bitwiseOr
  | bitwiseXor
  | bitwiseAnd
  | shift
  | sum
  | term
  | factor
  | awaited
  | primary
  | strings
  | arguments
  | misnamed
  | target
  | simpleTarget
  | targetPrimary
  deriving DecidableEq, Hashable

/-- Why a reader has no answer: the tokens are others, they are others and no further reader shall
be tried in its stead, or something is wrong. -/
inductive Stop where
  | mismatch
  | dead
  | fault (fault : Fault)

/-- Where a reading stands: the tokens, the number of those that have been taken and of those that
have been looked at, whether it gives advice, the margin of a field, and the answers that are kept,
with the places after them. The margin is the number of bytes that are before a field of a string on
its line; only the reading of a field has one. -/
structure Progress where
  lexed : Lexed
  place : Nat
  reached : Nat
  isAdvising : Bool
  margin? : Option Nat
  known : Std.HashMap (Nat × Rule) (Option (Tree × Nat))

/-- A reader. -/
abbrev Reader := EStateM Stop Progress

/-- The column of a place at or in a token, where some characters of the text are left: the bytes
before it on its line. The margin of a field is before a token that ends on the first line. -/
def Progress.column (progress : Progress) (token : Token) (left : Nat) : Nat :=
  let isInFirst := !(progress.lexed.before token.leftAfter).contains '\n'
  (if isInFirst then progress.margin?.getD 0 else 0)
    + Text.byteCount (Text.lastLine (progress.lexed.before left))

/-- A fault at a column. In a field it is named as such; what is left of its margin is out of
reach. -/
def Progress.faultIn (progress : Progress) (column : Nat) (fault : Fault) : Fault :=
  match progress.margin? with
  | none => fault
  | some margin => if column < margin then .leftOfField else .insideField fault

/-- A fault at the beginning of the token at a place. -/
def Progress.faultAt (progress : Progress) (place : Nat) (fault : Fault) : Fault :=
  match progress.lexed.tokens[place]? with
  | some token => progress.faultIn (progress.column token token.leftBefore + 1) fault
  | none => fault

/-- The progress with an answer of a rule at a place kept, and the place after it. -/
def Progress.keep (progress : Progress) (place : Nat) (rule : Rule)
    (answer : Option (Tree × Nat)) : Progress :=
  { progress with known := progress.known.insert (place, rule) answer }

namespace Reader

variable {α β : Type}

/-- Reads nothing, and does not match. -/
def mismatch : Reader α :=
  throw .mismatch

/-- The place of the next token. -/
def here : Reader Nat := do
  pure (← get).place

/-- Ends the reading with a fault at the beginning of the token at a place. -/
def faultAt (place : Nat) (fault : Fault) : Reader α := fun progress =>
  .error (.fault (progress.faultAt place fault)) progress

/-- Ends the reading with a fault at the end of the token before a place. -/
def faultBefore (place : Nat) (fault : Fault) : Reader α := fun progress =>
  let column := (progress.lexed.tokens[place - 1]?).elim 0 fun token =>
    progress.column token token.leftAfter
  .error (.fault (progress.faultIn column fault)) progress

/-- Ends the reading with a fault that has a line, but no column. -/
def faultInLine (fault : Fault) : Reader α := fun progress =>
  .error (.fault (progress.faultIn 0 fault)) progress

/-- Ends the reading with a fault at the last token that has been looked at. -/
def fault (fault : Fault) : Reader α := fun progress =>
  .error (.fault (progress.faultAt (progress.reached - 1) fault)) progress

/-- The next token, which is not taken. Where there is none, the text has been broken off. -/
def peek : Reader Token := fun progress =>
  let progress := { progress with reached := max progress.reached (progress.place + 1) }
  match progress.lexed.tokens[progress.place]?, progress.lexed.ending with
  | some token, _ => .ok token progress
  | none, .stopped reason false _ => fault reason progress
  | none, .stopped reason true _ => .error (.fault reason) progress
  | none, .finished => .error .mismatch progress

/-- Takes the next token. -/
def skip : Reader Unit :=
  modify fun progress => { progress with place := progress.place + 1 }

/-- Takes the next token and answers what is chosen for it, if anything. -/
def choose (f : Token.Kind → Option α) : Reader α := do
  match f (← peek).kind with
  | some a => do
    skip
    pure a
  | none => mismatch

/-- Takes a token of a kind. -/
def takeKind (kind : Token.Kind) : Reader Unit :=
  choose fun k => if k = kind then some () else none

/-- Takes a word or a sign. -/
def take (text : String) : Reader Unit :=
  takeKind (.fixed text)

/-- Takes a name. -/
def name : Reader Text :=
  choose fun
    | .name text => some text
    | _ => none

/-- The answer of a reader, or none with the place left as it was. -/
def optional (reader : Reader α) : Reader (Option α) := fun progress =>
  let place := progress.place
  match reader progress with
  | .ok a progress => .ok (some a) progress
  | .error .mismatch progress => .ok none { progress with place }
  | .error stop progress => .error stop progress

/-- The answer of the first reader that matches. -/
def first : List (Reader α) → Reader α
  | [] => mismatch
  | reader :: rest => fun progress =>
    let place := progress.place
    match reader progress with
    | .ok a progress => .ok a progress
    | .error .mismatch progress => first rest { progress with place }
    | .error .dead progress => .error .mismatch { progress with place }
    | .error stop progress => .error stop progress

/-- A reader in place of which no other one is tried. -/
def only (reader : Reader α) : Reader α := fun progress =>
  match reader progress with
  | .error .mismatch progress => .error .dead progress
  | result => result

/-- Ends the reading with a fault at a place if there is one; or else no further reader is tried. -/
def faultOrDead (place : Nat) (fault? : Option Fault) : Reader α :=
  match fault? with
  | some reason => faultAt place reason
  | none => throw .dead

/-- Whether a reader matches here; nothing is taken. -/
def looksLike (reader : Reader α) : Reader Bool := fun progress =>
  let place := progress.place
  match reader progress with
  | .ok _ progress => .ok true { progress with place }
  | .error .mismatch progress | .error .dead progress => .ok false { progress with place }
  | .error stop progress => .error stop progress

/-- The answer of a reader; nothing is taken. -/
def ahead (reader : Reader α) : Reader α := fun progress =>
  let place := progress.place
  match reader progress with
  | .ok a progress => .ok a { progress with place }
  | .error stop progress => .error stop progress

/-- Goes on only if a reader matches here. -/
def ifNext (reader : Reader α) : Reader Unit := do
  if ← looksLike reader then pure () else mismatch

/-- Goes on only if a reader does not match here. -/
def unlessNext (reader : Reader α) : Reader Unit := do
  if ← looksLike reader then mismatch else pure ()

/-- The answers of a reader as often as it matches, at most `fuel` times. -/
def manyTimes (reader : Reader α) : (fuel : Nat) → Reader (List α)
  | 0 => pure []
  | fuel + 1 => do
    match ← optional reader with
    | some a => do pure (a :: (← manyTimes reader fuel))
    | none => pure []

/-- The answers of a reader as often as it matches; each time it takes a token. -/
def many (reader : Reader α) : Reader (List α) := do
  manyTimes reader ((← get).lexed.tokens.size + 1)

/-- The answers of a reader as often as it matches, and at least once. -/
def many1 (reader : Reader α) : Reader (List α) := do
  pure ((← reader) :: (← many reader))

/-- The answers of a reader with a sign between each two. -/
def separated (sign : String) (reader : Reader α) : Reader (List α) := do
  pure ((← reader) :: (← many (do take sign; reader)))

/-- Advice is only looked for by an advising reader. -/
def advice (reader : Reader α) : Reader α := do
  if (← get).isAdvising then reader else mismatch

/-- A reader that gives no advice. -/
def withoutAdvice (reader : Reader α) : Reader α := fun progress =>
  let isAdvising := progress.isAdvising
  match reader { progress with isAdvising := false } with
  | .ok a progress => .ok a { progress with isAdvising }
  | .error stop progress => .error stop { progress with isAdvising }

/-- Whether the tokens from a first to a last one stand in one pair of parentheses. -/
def isEnclosed (progress : Progress) (place last : Nat) : Bool :=
  let tokens := progress.lexed.tokens
  match tokens[place]?, tokens[last]? with
  | some opening, some closing =>
    opening.kind = .fixed "(" && closing.kind = .fixed ")" &&
      (tokens.extract place last).all (opening.level ≤ ·.level)
  | _, _ => false

/-- The number of pairs of parentheses that are only around the tokens from a first to a last one;
an expression that owns parentheses keeps the innermost. -/
def wrappings (progress : Progress) (owns : Bool) : (place last : Nat) → Nat
  | place, last + 1 =>
    if isEnclosed progress place (last + 1) &&
        (!owns || isEnclosed progress (place + 1) last) then
      1 + wrappings progress owns (place + 1) last
    else 0
  | _, 0 => 0

/-- An expression with the number of pairs of parentheses that are only around it. -/
def unwrapped (reader : Reader Tree) : Reader (Tree × Nat) := do
  let place ← here
  let tree ← reader
  let progress ← get
  pure (tree, wrappings progress tree.mayOwnParentheses place (progress.place - 1))

/-- An expression and the place where it begins within the parentheses that are only around it. -/
def located (reader : Reader Tree) : Reader (Tree × Nat) := do
  let place ← here
  let (tree, wrappings) ← unwrapped reader
  pure (tree, place + wrappings)

/-- The number of brackets that were open after the token that was taken last. -/
def levelBefore : Reader Nat := do
  let progress ← get
  pure ((progress.lexed.tokens[progress.place - 1]?).elim 0 Token.level)

/-! ## Answers that are kept -/

/-- The answer of a rule, which is kept for its place. -/
def kept (rule : Rule) (body : Reader Tree) : Reader Tree := do
  let _ ← peek
  fun progress =>
    let place := progress.place
    match progress.known[(place, rule)]? with
    | some (some (tree, place)) => .ok tree { progress with place }
    | some none => .error .mismatch progress
    | none =>
      match body progress with
      | .ok tree progress => .ok tree (progress.keep place rule (some (tree, progress.place)))
      | .error .mismatch progress => .error .mismatch (progress.keep place rule none)
      | .error stop progress => .error stop progress

/-- The longest answer of a rule at a place: the rule is tried again with its last answer kept for
the place, as long as that takes it further. -/
def growFrom (rule : Rule) (body : Reader Tree) (place : Nat) :
    (fuel : Nat) → (best : Option (Tree × Nat)) → Reader Tree
  | 0, _ => mismatch
  | fuel + 1, best => fun progress =>
    let finish (progress : Progress) : EStateM.Result Stop Progress Tree :=
      match best with
      | some (tree, place) => .ok tree { progress with place }
      | none => .error .mismatch { progress with place }
    match body { progress.keep place rule best with place } with
    | .ok tree progress =>
      if progress.place ≤ (best.elim place Prod.snd) then finish progress
      else growFrom rule body place fuel (some (tree, progress.place)) progress
    | .error .mismatch progress => finish progress
    | .error stop progress => .error stop progress

/-- The answer of a rule that may begin with itself. -/
def grown (rule : Rule) (body : Reader Tree) : Reader Tree := do
  let _ ← peek
  fun progress =>
    match progress.known[(progress.place, rule)]? with
    | some (some (tree, place)) => .ok tree { progress with place }
    | some none => .error .mismatch progress
    | none => growFrom rule body progress.place (progress.lexed.tokens.size + 2) none progress

end Reader

end FrameScript.Expression
