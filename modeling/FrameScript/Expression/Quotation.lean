import FrameScript.Expression.Fault
import FrameScript.Expression.Token
import FrameScript.Expression.Tree
import FrameScript.Text.Name

/-!
# Strings in expressions

A string token is a mark, quotes, and a content. Backslashes in the content escape characters unless
the mark says that it is raw. The content of a formatted string has fields in curly brackets, each
with an expression, a conversion and a format that may have fields itself; an expression is judged
by a reader that is given. Tokens one after the other make one string.
-/

namespace FrameScript.Expression.Quotation

/-- The parts of a string token: whether it is one of bytes, raw, or formatted, what is before its
content, and the content. -/
structure Parts where
  isBytes : Bool
  isRaw : Bool
  isFormatted : Bool
  head : Text
  content : Text

/-- The parts of a string token. -/
def Parts.ofText (text : Text) : Parts :=
  let mark := (text.takeWhile Char.isAlpha).map Char.toLower
  let quoted := text.dropWhile Char.isAlpha
  let isLong := 6 ≤ quoted.length && match quoted with
    | a :: b :: c :: _ => a == b && b == c
    | _ => false
  let quotes := if isLong then 3 else 1
  let content := (quoted.drop quotes).take (quoted.length - 2 * quotes)
  ⟨mark.contains 'b', mark.contains 'r', mark.contains 'f',
    text.take (mark.length + quotes), content⟩

/-! ## Escapes -/

/-- A hexadecimal digit. -/
def isHexDigit (c : Char) : Bool :=
  (Text.digitIn? 16 c).isSome

/-- A text as it is handed to the reader of escapes: other characters than those of ASCII are
escapes themselves, whatever their codes, and so is a backslash before one of them or at the end. -/
def ascii : Text → Text
  | [] => []
  | ['\\'] => "\\u005c".toList
  | '\\' :: c :: s =>
    if c.toNat < 0x80 then '\\' :: c :: ascii s
    else "\\u005c\\U00000000".toList ++ ascii s
  | c :: s => (if c.toNat < 0x80 then [c] else "\\U00000000".toList) ++ ascii s

/-- The greatest code of a character. -/
def greatestCode : Nat := 0x10FFFF

/-- How many hexadecimal digits follow the letter of an escape. -/
def hexCount? (letter : Char) : Option Nat :=
  [('x', 2), ('u', 4), ('U', 8)].lookup letter

/-- The first fault in the escapes of a text, with `place` characters before it. -/
def escapeFaultFrom : (fuel place : Nat) → Text → Option Fault
  | fuel + 1, place, '\\' :: letter :: s =>
    match hexCount? letter, letter, s with
    | some count, _, _ =>
      let digits := (s.take count).takeWhile isHexDigit
      let stop := place + 2 + digits.length
      if digits.length < count then some (.badEscape place stop (.truncated letter count))
      else if (Text.numberIn? 16 digits).any (greatestCode < ·) then
        some (.badEscape place stop .tooLarge)
      else escapeFaultFrom fuel stop (s.drop count)
    | none, 'N', '\x7b' :: s =>
      let name := s.takeWhile (· ≠ '\x7d')
      let stop := place + 3 + name.length
      match s.dropWhile (· ≠ '\x7d') with
      | [] => some (.badEscape place stop .noName)
      | _ :: rest =>
        if name.isEmpty then some (.badEscape place stop .noName)
        else if Text.isName name then escapeFaultFrom fuel (stop + 1) rest
        else some (.badEscape place (stop + 1) .unknownName)
    | none, 'N', _ => some (.badEscape place (place + 2) .noName)
    | none, _, _ => escapeFaultFrom fuel (place + 2) s
  | fuel + 1, place, _ :: s => escapeFaultFrom fuel (place + 1) s
  | _, _, _ => none

/-- The first fault in the escapes of bytes, with `place` characters before them. -/
def byteFaultFrom (place : Nat) : Text → Option Fault
  | '\\' :: 'x' :: s =>
    if 2 ≤ ((s.take 2).takeWhile isHexDigit).length then byteFaultFrom (place + 2) s
    else some (.badByteEscape place)
  | '\\' :: _ :: s => byteFaultFrom (place + 2) s
  | _ :: s => byteFaultFrom (place + 1) s
  | [] => none

/-- The first fault in a text without fields. -/
def textFault? (s : Text) : Option Fault :=
  let s := ascii s
  escapeFaultFrom s.length 0 s

/-- The first fault of a string that is not formatted. -/
def Parts.fault? (parts : Parts) : Option Fault :=
  if parts.isBytes then
    if parts.content.any (0x80 ≤ ·.toNat) then some .foreignByte
    else if parts.isRaw then none else byteFaultFrom 0 parts.content
  else if parts.isRaw then none else textFault? parts.content

/-! ## Fields -/

/-- A text before a field of a formatted string, whether a bracket written twice has ended it, and
what follows. -/
structure Literal where
  text : Text
  isDoubled : Bool
  rest : Text

/-- What a curly bracket means: it ends a text, unless it is written twice. In a format none is. -/
def literalAt (isFormat : Bool) (seen : Text) (bracket : Char) (s : Text) :
    Except FieldFault Literal :=
  if isFormat then .ok ⟨seen.reverse, false, bracket :: s⟩
  else if s.head? = some bracket then .ok ⟨(bracket :: seen).reverse, true, s.drop 1⟩
  else if bracket = '\x7d' then .error .strayBrace
  else .ok ⟨seen.reverse, false, bracket :: s⟩

/-- Whether a character is a curly bracket. -/
def isCurly (c : Char) : Bool :=
  c == '\x7b' || c == '\x7d'

/-- The text at the beginning of formatted content; `seen` is what has been passed of it, the last
character first. The name of a character stands in curly brackets of its own. -/
def takeLiteral (isRaw isFormat : Bool) : (fuel : Nat) → (seen : Text) → Text →
    Except FieldFault Literal
  | fuel + 1, seen, '\\' :: c :: s =>
    if isRaw then takeLiteral isRaw isFormat fuel ('\\' :: seen) (c :: s)
    else if c = 'N' then
      let passed := match s with
        | '\x7b' :: s => 1 + min s.length ((s.takeWhile (· ≠ '\x7d')).length + 1)
        | _ => 1
      takeLiteral isRaw isFormat fuel ((s.take passed).reverse ++ c :: '\\' :: seen) (s.drop passed)
    else if isCurly c then literalAt isFormat ('\\' :: seen) c s
    else takeLiteral isRaw isFormat fuel (c :: '\\' :: seen) s
  | fuel + 1, seen, c :: s =>
    if isCurly c then literalAt isFormat seen c s else takeLiteral isRaw isFormat fuel (c :: seen) s
  | _, seen, s => .ok ⟨seen.reverse, false, s⟩

/-- The most brackets that can be open in a field. -/
def deepest : Nat := 200

/-- The opening bracket for a closing one. -/
def openingOf (closing : Char) : Char :=
  if closing = ')' then '(' else if closing = ']' then '[' else '\x7b'

/-- The expression at the beginning of a field, and what follows it, if the field goes on. `quote`
is the quote of the string that is open, with whether the string is long, `opened` are the brackets
that are open, the latest first, and `seen` is what has been passed, the last character first. -/
def takeExpression : (fuel : Nat) → (quote : Option (Char × Bool)) → (opened : List Char) →
    (seen : Text) → Text → Except FieldFault (Text × Text)
  | fuel + 1, quote, opened, seen, c :: s =>
    let isTriple := s.take 2 == [c, c]
    let pass (quote : Option (Char × Bool)) (opened : List Char) :=
      takeExpression fuel quote opened (c :: seen) s
    let passThree (quote : Option (Char × Bool)) :=
      takeExpression fuel quote opened (c :: c :: c :: seen) (s.drop 2)
    if c = '\\' then .error .backslash
    else
      match quote with
      | some (q, isLong) =>
        if c ≠ q then pass quote opened
        else if !isLong then pass none opened
        else if isTriple then passThree none
        else pass quote opened
      | none =>
        if c = '"' ∨ c = '\x27' then
          if isTriple then passThree (some (c, true)) else pass (some (c, false)) opened
        else if ['(', '[', '\x7b'].contains c then
          if deepest ≤ opened.length then .error .tooNested else pass none (c :: opened)
        else if c = '#' then .error .comment
        else if opened.isEmpty && ['!', ':', '\x7d', '=', '<', '>'].contains c then
          if ['!', '=', '<', '>'].contains c && s.head? = some '=' then
            takeExpression fuel none [] ('=' :: c :: seen) (s.drop 1)
          else if c = '<' ∨ c = '>' then pass none []
          else .ok (seen.reverse, c :: s)
        else if [')', ']', '\x7d'].contains c then
          match opened with
          | [] => .error (.unmatched c)
          | opening :: rest =>
            if opening = openingOf c then pass none rest else .error (.mismatched c opening)
        else pass none opened
  | _, some _, _, _, _ => .error .openString
  | _, none, opening :: _, _, _ => .error (.unmatched opening)
  | _, none, [], seen, s => .ok (seen.reverse, s)

/-- A blank that an expression may consist of without being one. -/
def isGap (c : Char) : Bool :=
  c == ' ' || c == '\t' || c == '\n' || c == '\x0c'

/-- A blank after an equals sign in a field. -/
def isSpace (c : Char) : Bool :=
  isGap c || c == '\x0b' || c == '\r'

/-- The conversions of a field. -/
def conversions : List Char := ['s', 'r', 'a']

/-- What follows a conversion in a field, if there is one. -/
def afterConversion : Text → Except FieldFault Text
  | '!' :: c :: s => if conversions.contains c then .ok s else .error .badConversion
  | ['!'] => .error .unclosed
  | s => .ok s

/-- A fault of this string, as its reader words it, or a fault of an expression in it. -/
inductive Trouble where
  | own (fault : Fault)
  | within (fault : Fault)

/-- A string token and its text. -/
structure Piece where
  token : Token
  text : Text

/-- What is wrong with the expression in a field of a string token, given the text of the token up
to the field. -/
abbrev Judge := (token : Token) → (expression before : Text) → Option Fault

/-- The margin of a field, which is the number of bytes that are before it on its line, given the
column of its string and the text of that up to the field. An expression that begins on a new line
has no margin within the string. -/
def marginOf (column : Nat) (expression before : Text) : Nat :=
  let isBelow := (expression.dropWhile fun c => c ≠ '\n' && isGap c).head? = some '\n'
  (if before.contains '\n' then 0 else column)
    + if isBelow then 0 else Text.byteCount (Text.lastLine before)

/-- A fault of fields as one of the string. -/
def Trouble.field (fault : FieldFault) : Trouble :=
  .own (.field fault)

/-- Checks the expression in a field, which ends before `next`. -/
def checkExpression (fault? : Text → Option Fault) (expression next : Text) :
    Except Trouble Unit :=
  match next with
  | [] => .error (.field .unclosed)
  | c :: _ =>
    if expression.all isGap then
      .error (.field (if ['!', ':', '='].contains c then .emptyBefore c else .empty))
    else
      match fault? expression with
      | some fault => .error (.within fault)
      | none => .ok ()

/-- What is left of formatted content, or of a format at some depth, once the text and the fields at
its beginning have been read; `fault?` judges an expression before the end of a field and what
follows its opening bracket, and `fuel` bounds the steps. -/
def takeFields (fault? : (expression rest : Text) → Option Fault) (isRaw : Bool) :
    (fuel depth : Nat) → Text → Except Trouble Text
  | 0, _, s => .ok s
  | fuel + 1, depth, s => do
    let literal ← (takeLiteral isRaw (depth ≠ 0) (s.length + 1) [] s).mapError .field
    match if isRaw then none else textFault? literal.text with
    | some fault => throw (.own fault)
    | none => pure ()
    match literal.isDoubled, literal.rest with
    | true, rest => takeFields fault? isRaw fuel depth rest
    | false, '\x7b' :: s =>
      if 2 ≤ depth then throw (.field .tooDeep)
      let (expression, rest) ← (takeExpression (s.length + 1) none [] [] s).mapError .field
      checkExpression (fault? · s) expression rest
      let rest ← match rest with
        | '=' :: s =>
          let rest := s.dropWhile isSpace
          if rest.isEmpty then throw (.field .unclosed) else pure rest
        | rest => pure rest
      let rest ← (afterConversion rest).mapError .field
      let rest ← match rest with
        | [':'] => throw (.field .unclosed)
        | ':' :: s => takeFields fault? isRaw fuel (depth + 1) s
        | rest => pure rest
      match rest with
      | '\x7d' :: rest => takeFields fault? isRaw fuel depth rest
      | _ => throw (.field .unclosed)
    | false, rest =>
      if depth ≠ 0 && rest.isEmpty then throw (.field .unclosed) else pure rest

/-! ## Strings one after the other -/

/-- Checks string tokens after others, of which the last had bytes or not. -/
def checkTokens (judge : Judge) (isBytes : Option Bool) : List Piece → Except Trouble Unit
  | [] => .ok ()
  | piece :: rest => do
    let parts := Parts.ofText piece.text
    match if parts.isFormatted then none else parts.fault? with
    | some fault => throw (.own fault)
    | none => pure ()
    if isBytes.any (· ≠ parts.isBytes) then throw (.own .mixedStrings)
    if parts.isFormatted then
      let fault? (expression rest : Text) :=
        let passed := parts.content.length - rest.length - 1
        judge piece.token expression (parts.head ++ parts.content.take passed)
      let _ ← takeFields fault? parts.isRaw (parts.content.length + 1) 0 parts.content
    checkTokens judge (some parts.isBytes) rest

/-- The string that string tokens make together. -/
def concatenate (judge : Judge) (pieces : List Piece) : Except Trouble Tree :=
  (checkTokens judge none pieces).map fun _ =>
    let parts := pieces.map fun piece => Parts.ofText piece.text
    if parts.any Parts.isFormatted then .other .formatted
    else if parts.any Parts.isBytes then .constant .bytes
    else .constant .text

end FrameScript.Expression.Quotation
