import FrameScript.Expression.Number
import FrameScript.Expression.Token
import FrameScript.Text.Identifier

/-!
# Cutting expressions into tokens

`Lexed.ofText` cuts a text into tokens until it ends or a fault stops it. Some faults are final:
they count even if the tokens before them do not fit together. Others, such as a bracket that is
never closed, count only for a reader who gets as far as that, so `Ending` keeps the two apart.
-/

namespace FrameScript.Expression

/-- How a sequence of tokens ends: with the text, or with a fault, which may be final; then with the
innermost bracket that is open there, and its line. -/
inductive Ending where
  | finished
  | stopped (fault : Fault) (isFinal : Bool) (opened : Option (Char × Nat))

/-- A text cut into tokens. -/
structure Lexed where
  text : Text
  tokens : Array Token
  ending : Ending

/-- The text up to a place where some characters of it are left. -/
def Lexed.before (lexed : Lexed) (left : Nat) : Text :=
  lexed.text.take (lexed.text.length - left)

namespace Lexer

/-- Where a text is being cut: what is left of it, the line, the brackets that are open with their
lines, the widths of the indents that are open, once with wide and once with narrow tabs, and
whether a line begins. -/
structure Spot where
  rest : Text
  line : Nat
  opened : List (Char × Nat)
  indents : List (Nat × Nat)
  atStart : Bool

/-- The most brackets that can be open. -/
def deepest : Nat := 200

/-- The most indents that can be open. -/
def mostIndents : Nat := 99

/-- The columns of a wide tab. -/
def tabWidth : Nat := 8

/-- The end of a sequence of tokens at a fault. -/
def Spot.stop (spot : Spot) (isFinal : Bool) (fault : Fault) : Ending :=
  .stopped fault isFinal spot.opened.head?

/-- A token of a kind at a spot, with the brackets that are open. -/
def Spot.token (spot : Spot) (kind : Token.Kind) : Token :=
  ⟨kind, spot.line, spot.opened.length, spot.rest.length, spot.rest.length⟩

/-! ## Strings -/

/-- The text after a string whose opening quotes have been passed, with the number of line feeds in
it; a long string has three quotes at each end. Without an end to the string, the number alone. -/
def afterString (quote : Char) (long : Bool) (lines : Nat) : Text → Except Nat (Text × Nat)
  | [] => .error lines
  | ['\\'] => .error lines
  | '\\' :: c :: s => afterString quote long (lines + if c = '\n' then 1 else 0) s
  | c :: s =>
    if c = quote then
      if long then
        match s with
        | d :: e :: s' =>
          if d = quote ∧ e = quote then .ok (s', lines) else afterString quote long lines s
        | _ => .error (lines + (s.filter (· == '\n')).length)
      else .ok (s, lines)
    else if c = '\n' then
      if long then afterString quote long (lines + 1) s else .error lines
    else afterString quote long lines s

/-- The text after a string that begins with a quote, with the number of line feeds in it; if the
string does not end, whether it is long, and the number. -/
def takeString (quote : Char) (s : Text) : Except (Bool × Nat) (Text × Nat) :=
  match s with
  | a :: b :: rest =>
    if a = quote ∧ b = quote then (afterString quote true 0 rest).mapError fun n => (true, n)
    else (afterString quote false 0 s).mapError fun n => (false, n)
  | _ => (afterString quote false 0 s).mapError fun n => (false, n)

/-- Whether a word may stand right before a string, for it to be read in another way. -/
def isStringMark (word : Text) : Bool :=
  [['r'], ['u'], ['b'], ['f'], ['b', 'r'], ['r', 'b'], ['f', 'r'], ['r', 'f']].contains
    (word.map Char.toLower)

/-- Whether a character is a quote. -/
def isQuote (c : Char) : Bool :=
  c == '"' || c == '\x27'

/-- The string with a mark before it that begins at a spot, whose quote and what follows are
given. -/
def Spot.string (spot : Spot) (mark : Text) (quote : Char) (after : Text) :
    Except Ending (Token × Spot) :=
  match takeString quote after with
  | .error (long, lines) => .error (spot.stop true (.openString long (spot.line + lines)))
  | .ok (rest, lines) =>
    let text := mark ++ quote :: after.take (after.length - rest.length)
    .ok (spot.token (.string text), { spot with rest, line := spot.line + lines })

/-! ## Words, brackets and signs -/

/-- The word or the string that begins at a spot. -/
def Spot.word (spot : Spot) : Except Ending (Token × Spot) :=
  let word := spot.rest.takeWhile Number.isWordPart
  let after := spot.rest.dropWhile Number.isWordPart
  let answer : Except Ending (Token × Spot) :=
    match Text.identifierFault? word with
    | some c => .error (spot.stop true (.strangeChar c))
    | none => .ok (spot.token (.ofWord word), { spot with rest := after })
  match after with
  | q :: s => if isQuote q && isStringMark word then spot.string word q s else answer
  | [] => answer

/-- The closing bracket for an opening one. -/
def closingOf (opening : Char) : Char :=
  if opening = '(' then ')' else if opening = '[' then ']' else '\x7d'

/-- The bracket that begins at a spot. -/
def Spot.bracket (spot : Spot) (c : Char) (rest : Text) : Except Ending (Token × Spot) :=
  let kind : Token.Kind := .fixed (String.singleton c)
  if ['(', '[', '\x7b'].contains c then
    if deepest ≤ spot.opened.length then .error (spot.stop true .tooNested)
    else
      let spot := { spot with rest, opened := (c, spot.line) :: spot.opened }
      .ok (spot.token kind, spot)
  else
    match spot.opened with
    | [] => .error (spot.stop true (.unmatched c))
    | (opening, line) :: opened =>
      let spot := { spot with rest, opened }
      if closingOf opening = c then .ok (spot.token kind, spot)
      else
        let line? := if line = spot.line then none else some line
        .error (spot.stop true (.mismatched c opening line?))

/-- The sign that begins at a spot. -/
def Spot.sign (spot : Spot) (c : Char) (rest : Text) : Except Ending (Token × Spot) :=
  match Token.longSigns.find? fun sign => sign.toList.isPrefixOf (c :: rest) with
  | some sign => .ok (spot.token (.fixed sign), { spot with rest := (c :: rest).drop sign.length })
  | none =>
    if ['(', ')', '[', ']', '\x7b', '\x7d'].contains c then spot.bracket c rest
    else if Text.isPrintable c then
      .ok (spot.token (.fixed (String.singleton c)), { spot with rest })
    else .error (spot.stop true (.strangeChar c))

/-- The number that begins at a spot. -/
def Spot.number (spot : Spot) : Except Ending (Token × Spot) :=
  match Number.after spot.rest with
  | .error fault => .error (spot.stop true fault)
  | .ok rest =>
    let text := spot.rest.take (spot.rest.length - rest.length)
    .ok (spot.token (.number text), { spot with rest })

/-- The token that begins with a character at a spot. -/
def Spot.take (spot : Spot) (c : Char) (rest : Text) : Except Ending (Token × Spot) :=
  if isQuote c then spot.string [] c rest
  else if c.isDigit || (c = '.' && rest.head?.any Char.isDigit) then spot.number
  else if Number.isWordPart c then spot.word
  else spot.sign c rest

/-! ## Lines -/

/-- What follows a backslash at the end of a line. -/
def Spot.continued (spot : Spot) (rest : Text) : Except Ending Spot :=
  match rest with
  | '\n' :: c :: rest => .ok { spot with rest := c :: rest, line := spot.line + 1 }
  | ['\n'] =>
    let fault := (spot.opened.head?.map fun e => Fault.neverClosed e.1).getD .unexpectedEnd
    .error (spot.stop false fault)
  | _ => .error (spot.stop false .afterBackslash)

/-- The spot after the blanks at the beginning of a line, and their columns with wide and narrow
tabs. Blanks after a backslash do not count if there were `fixed` columns before the first one. -/
def skipIndent : (fuel : Nat) → (columns : Nat × Nat) → (fixed : Nat) → Spot →
    Except Ending (Spot × (Nat × Nat))
  | 0, columns, _, spot => .ok (spot, columns)
  | fuel + 1, columns, fixed, spot =>
    match spot.rest with
    | ' ' :: rest => skipIndent fuel (columns.1 + 1, columns.2 + 1) fixed { spot with rest }
    | '\t' :: rest =>
      let columns := ((columns.1 / tabWidth + 1) * tabWidth, columns.2 + 1)
      skipIndent fuel columns fixed { spot with rest }
    | '\x0c' :: rest => skipIndent fuel (0, 0) fixed { spot with rest }
    | '\\' :: rest =>
      match spot.continued rest with
      | .error ending => .error ending
      | .ok spot => skipIndent fuel columns (if fixed = 0 then columns.1 else fixed) spot
    | _ => .ok (spot, if fixed = 0 then columns else (fixed, fixed))

/-- The tokens for a change of the indent, and the spot after it. -/
def Spot.indent (spot : Spot) (columns : Nat × Nat) : Except Ending (List Token × Spot) :=
  let last := spot.indents.head?.getD (0, 0)
  if columns.1 = last.1 then
    if columns.2 = last.2 then .ok ([], spot) else .error (spot.stop false .badIndent)
  else if last.1 < columns.1 then
    if columns.2 ≤ last.2 || mostIndents ≤ spot.indents.length then
      .error (spot.stop false .badIndent)
    else .ok ([spot.token .indent], { spot with indents := columns :: spot.indents })
  else
    let indents := spot.indents.dropWhile (columns.1 < ·.1)
    if indents.head?.getD (0, 0) = columns then
      .ok (List.replicate (spot.indents.length - indents.length) (spot.token .dedent),
        { spot with indents })
    else .error (spot.stop false .badIndent)

/-- The end of the tokens where the text ends. -/
def Spot.finish (spot : Spot) : Except Ending Token :=
  match spot.opened with
  | [] => .ok (spot.token .finish)
  | (opening, _) :: _ => .error (spot.stop false (.neverClosed opening))

/-- A blank between tokens. -/
def isGap (c : Char) : Bool :=
  c == ' ' || c == '\t' || c == '\x0c'

/-- The tokens from a spot on, after those that have been cut; `isBlank` says that there has been
nothing yet on a line that has nothing to say. No more steps than `fuel` are taken. -/
def cut : (fuel : Nat) → (tokens : Array Token) → (isBlank : Bool) → Spot → Array Token × Ending
  | 0, tokens, _, spot => (tokens, spot.stop true .unfit)
  | fuel + 1, tokens, isBlank, spot =>
    if spot.atStart then
      match skipIndent (spot.rest.length + 1) (0, 0) 0 { spot with atStart := false } with
      | .error ending => (tokens, ending)
      | .ok (spot, columns) =>
        let isBlank := spot.rest.head?.any fun c => c == '#' || c == '\n'
        if isBlank || !spot.opened.isEmpty then cut fuel tokens isBlank spot
        else
          match spot.indent columns with
          | .error ending => (tokens, ending)
          | .ok (changes, spot) => cut fuel (tokens ++ changes.toArray) false spot
    else
      match spot.rest.dropWhile isGap with
      | [] =>
        match { spot with rest := [] }.finish with
        | .error ending => (tokens, ending)
        | .ok token => (tokens.push token, .finished)
      | '#' :: rest => cut fuel tokens isBlank { spot with rest := rest.dropWhile (· ≠ '\n') }
      | '\n' :: rest =>
        let next := { spot with rest, line := spot.line + 1, atStart := true }
        if isBlank || !spot.opened.isEmpty then cut fuel tokens false next
        else cut fuel (tokens.push ({ spot with rest := '\n' :: rest }.token .newline)) false next
      | '\\' :: rest =>
        match spot.continued rest with
        | .error ending => (tokens, ending)
        | .ok spot => cut fuel tokens isBlank spot
      | c :: rest =>
        match { spot with rest := c :: rest }.take c rest with
        | .error ending => (tokens, ending)
        | .ok (token, spot) =>
          let token :=
            { token with leftBefore := rest.length + 1, leftAfter := spot.rest.length }
          cut fuel (tokens.push token) isBlank spot

end Lexer

/-- A text cut into tokens, its first line having the number `line`. -/
def Lexed.ofText (s : Text) (line : Nat) : Lexed :=
  let (tokens, ending) := Lexer.cut (2 * s.length + 3) #[] false ⟨s, line, [], [], true⟩
  ⟨s, tokens, ending⟩

end FrameScript.Expression
