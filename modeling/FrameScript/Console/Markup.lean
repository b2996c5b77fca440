import FrameScript.Console.Action
import FrameScript.Console.Pictogram
import FrameScript.Console.Style

/-!
# Marks in messages

A message may hold marks: words in brackets that begin with a small letter or one of three signs. A
mark opens a style, and a slash before its name closes the style again; a slash alone closes the
style that was opened last. Marks do not show. Backslashes before a mark escape it if their number
is odd, and half of them show. Pictograms stand in for their names in the texts between marks, each
such text by itself. A mark that begins with an at sign names an action, which is read when the mark
is closed.

A text that is only quoted has its marks escaped first. Escaping is not neutral: a backslash goes
missing before a bracket that begins no mark, and one that ends the text is doubled.
-/

namespace FrameScript.Console.Markup

/-! ## Finding marks -/

/-- A part of a message: a character, or a mark with its inside and the backslashes before it. -/
inductive Part where
  | char (c : Char)
  | mark (slashes : Nat) (inside : Text)
  deriving DecidableEq

/-- Whether a character may follow the bracket that opens a mark. -/
def beginsMark (c : Char) : Bool :=
  c.isLower || c == '#' || c == '/' || c == '@'

/-- Whether a character stands in the way of a closing bracket. -/
def isBracket (c : Char) : Bool :=
  c == '[' || c == ']'

/-- The inside of the mark at the beginning of a text, and the text after it. -/
def markAt? : Text → Option (Text × Text)
  | '[' :: c :: s =>
    match s.dropWhile (!isBracket ·) with
    | ']' :: rest => if beginsMark c then some (c :: s.takeWhile (!isBracket ·), rest) else none
    | _ => none
  | _ => none

theorem length_of_markAt? {s inside rest : Text} (h : markAt? s = some (inside, rest)) :
    rest.length < s.length := by
  unfold markAt? at h
  split at h
  · rename_i c s
    have hd := (List.dropWhile_sublist (!isBracket ·) (l := s)).length_le
    split at h
    · rename_i tail ht
      rw [ht, List.length_cons] at hd
      split at h
      · obtain ⟨-, rfl⟩ := Prod.mk.inj (Option.some.inj h)
        simp only [List.length_cons]
        omega
      · simp at h
    · simp at h
  · simp at h

/-- The parts of a message. -/
def parts : Text → List Part
  | [] => []
  | c :: s =>
    match _h : markAt? ((c :: s).dropWhile (· == '\\')) with
    | some (inside, rest) =>
      .mark ((c :: s).takeWhile (· == '\\')).length inside :: parts rest
    | none => .char c :: parts s
termination_by s => s.length
decreasing_by
  · have := length_of_markAt? _h
    have := (List.dropWhile_sublist (· == '\\') (l := c :: s)).length_le
    omega
  · simp

/-- A part as it was written. -/
def Part.text : Part → Text
  | char c => [c]
  | mark slashes inside => List.replicate slashes '\\' ++ '[' :: inside ++ [']']

/-! ## Escaping -/

/-- A part that shows as it was written. -/
def Part.escaped : Part → Text
  | char c => [c]
  | mark slashes inside => (mark (2 * slashes + 1) inside).text

/-- The text with a second backslash at its end if it ends with a single one. -/
def doubleLast (s : Text) : Text :=
  match s.reverse with
  | '\\' :: '\\' :: _ => s
  | '\\' :: _ => s ++ ['\\']
  | _ => s

/-- A text whose marks do not count. -/
def escape (s : Text) : Text :=
  doubleLast ((parts s).flatMap Part.escaped)

/-! ## Reading -/

/-- What a message is made of: texts that show, and marks that count, each with its place, its name
and what follows an equals sign. -/
inductive Piece where
  | plain (text : Text)
  | mark (position : Nat) (name : Text) (argument : Option Text)
  deriving DecidableEq

/-- A mark that counts, or one that shows, after the backslashes that show. -/
def piecesOfMark (position slashes : Nat) (inside : Text) : List Piece :=
  (if 2 ≤ slashes then [.plain (List.replicate (slashes / 2) '\\')] else [])
    ++ if slashes % 2 = 1 then [.plain ('[' :: inside ++ [']'])]
      else
        let argument := match inside.dropWhile (· ≠ '=') with
          | _ :: argument => some argument
          | [] => none
        [.mark (position + slashes) (inside.takeWhile (· ≠ '=')) argument]

/-- The pieces of a message from a place on; `plain` is the text that has been begun, its last
character first. -/
def piecesFrom (position : Nat) (plain : Text) : List Part → List Piece
  | [] => if plain.isEmpty then [] else [.plain plain.reverse]
  | .char c :: rest => piecesFrom (position + 1) (c :: plain) rest
  | .mark slashes inside :: rest =>
    (if plain.isEmpty then [] else [.plain plain.reverse])
      ++ piecesOfMark position slashes inside
      ++ piecesFrom (position + slashes + inside.length + 2) [] rest

/-- The pieces of a message. -/
def pieces (s : Text) : List Piece :=
  piecesFrom 0 [] (parts s)

/-- The text without the backslash before each bracket. -/
def dropSlashes : Text → Text
  | '\\' :: '[' :: s => '[' :: dropSlashes s
  | c :: s => c :: dropSlashes s
  | [] => []

/-- A control that does not show: the bell, the backspace, vertical tabs, form feeds and carriage
returns. -/
def isHidden (c : Char) : Bool :=
  c.toNat = 7 || c.toNat = 8 || c.toNat = 11 || c.toNat = 12 || c.toNat = 13

/-- A text without marks as it shows. -/
def visible (s : Text) : Text :=
  (withPictograms s).filter (!isHidden ·)

/-- A piece as it shows. -/
def Piece.visible : Piece → Text
  | plain text => Markup.visible (dropSlashes text)
  | mark .. => []

/-- What is wrong with the marks of a message. -/
inductive Fault where
  | unmatched (mark : Text) (position : Nat)
  | nothingOpen (position : Nat)
  | badAction (complaint : String)
  | badColour (fault : Style.PartFault)
  deriving DecidableEq

/-- The wording of a fault. -/
def Fault.message : Fault → String
  | unmatched mark position =>
    s!"closing tag '{String.ofList mark}' at position {position} doesn't match any open tag"
  | nothingOpen position => s!"closing tag '[/]' at position {position} has nothing to close"
  | badAction complaint => complaint
  | badColour fault => fault.message

/-- The normal name of a style. -/
def styleName (name : Text) : Except Fault Text :=
  (Style.normal name).mapError .badColour

/-- A mark as it was written. -/
def markText (name : Text) (argument : Option Text) : Text :=
  '[' :: name ++ (argument.map ('=' :: ·)).getD [] ++ [']']

/-- A mark that is open: the normal name of its style, what follows an equals sign, and the number
of characters that show before it. -/
structure Opened where
  style : Text
  argument : Option Text
  start : Nat

/-- The characters of a message from `start` on and before `stop`, with the words for their
style. -/
structure Span where
  style : Text
  start : Nat
  stop : Nat

/-- The last mark that was opened with a style, and the others. -/
def takeOut? (style : Text) : List Opened → Option (Opened × List Opened)
  | [] => none
  | mark :: rest =>
    if mark.style = style then some (mark, rest)
    else (takeOut? style rest).map fun found => (found.1, mark :: found.2)

/-- What is wrong with a mark when it is closed, if anything. -/
def Opened.fault? (mark : Opened) : Option Fault :=
  match mark.style, mark.argument with
  | '@' :: _, some (c :: action) => (Action.complaint? (c :: action)).map .badAction
  | _, _ => none

/-- The characters that a mark is about when it is closed before the place `stop`. What follows the
equals sign counts among the words for the style. -/
def Opened.span (mark : Opened) (stop : Nat) : Span :=
  ⟨mark.style ++ (mark.argument.map (' ' :: ·)).getD [], mark.start, stop⟩

/-- What has been read of a message: the marks that are open, and the spans of those that have been
closed, the latest first in both. -/
structure Progress where
  opened : List Opened
  spans : List Span

/-- What has been read once a mark has been closed; an action leaves no span. -/
def Progress.close (progress : Progress) (mark : Opened) (rest : List Opened) (stop : Nat) :
    Except Fault Progress :=
  match mark.fault?, mark.style with
  | some fault, _ => .error fault
  | none, '@' :: _ => .ok ⟨rest, progress.spans⟩
  | none, _ => .ok ⟨rest, mark.span stop :: progress.spans⟩

/-- What has been read after a further mark with `shown` characters before it. -/
def Progress.takeMark (progress : Progress) (shown position : Nat) (name : Text)
    (argument : Option Text) : Except Fault Progress :=
  match name with
  | '/' :: closing =>
    if Text.trim closing = [] then
      match progress.opened with
      | [] => .error (.nothingOpen position)
      | mark :: rest => progress.close mark rest shown
    else
      match styleName (Text.trim closing) with
      | .error fault => .error fault
      | .ok style =>
        match takeOut? style progress.opened with
        | some (mark, rest) => progress.close mark rest shown
        | none => .error (.unmatched (markText name argument) position)
  | _ =>
    (styleName name).map fun style =>
      { progress with opened := ⟨style, argument, shown⟩ :: progress.opened }

/-- The spans of the pieces that are left when `shown` characters show before them. Of spans that
begin at one place those of marks that are never closed come first, and then those that are closed
last. -/
def spansFrom (progress : Progress) (shown : Nat) : List Piece → Except Fault (List Span)
  | [] =>
    let spans := (progress.opened.map (·.span shown)).reverse ++ progress.spans
    .ok (spans.mergeSort fun a b => a.start ≤ b.start)
  | .plain text :: rest =>
    spansFrom progress (shown + (Piece.plain text).visible.length) rest
  | .mark position name argument :: rest =>
    match progress.takeMark shown position name argument with
    | .error fault => .error fault
    | .ok progress => spansFrom progress shown rest

/-- A message as it shows, and the styles of its parts. -/
structure Message where
  text : Text
  spans : List Span

/-- A message, if its marks are in order. -/
def read (s : Text) : Except Fault Message :=
  (spansFrom ⟨[], []⟩ 0 (pieces s)).map fun spans => ⟨(pieces s).flatMap Piece.visible, spans⟩

/-- Whether a span has characters on some line of a message. -/
def Message.covers (message : Message) (span : Span) : Bool :=
  ((message.text.take span.stop).drop span.start).any (· ≠ '\n')

/-- What is wrong with the styles of a message that stands on lines. They are read when the lines
are written; if the message has been divided, only those of characters on some line. -/
def Message.fault? (message : Message) (lines : List Text) : Option Fault :=
  let isDivided := lines.length ≠ 1 || message.text.any fun c => c == '\n' || c == '\t'
  message.spans.findSome? fun span =>
    if isDivided && !message.covers span then none
    else (Style.partFault? span.style).map .badColour

/-- A text as it shows when it is quoted in a message. -/
def quoted (s : Text) : Text :=
  (pieces (escape s)).flatMap Piece.visible

end FrameScript.Console.Markup
