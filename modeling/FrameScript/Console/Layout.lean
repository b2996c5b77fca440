import FrameScript.Text.Blank
import FrameScript.Text.Width

/-!
# Layout of texts

How a text is laid out on a number of columns: it is divided at its line feeds, tabs reach to the
next multiple of eight columns, and a line that is too long is broken between words. A word that
is too long for a line of its own is folded over several lines, or else cut. There is no layout if
a line has to be cut that cannot be.
-/

namespace FrameScript.Console

/-! ## Tabs -/

/-- The columns between two tab stops. -/
def tabWidth : Nat := 8

/-- The blanks that a tab leaves after its own, when so many columns are before them. -/
def tabGap (column : Nat) : Nat :=
  (tabWidth - column % tabWidth) % tabWidth

/-- The pieces between tabs with blanks for the tabs, when `column` columns are before them. -/
def spreadTabs (column : Nat) : List Text → Text
  | [] => []
  | [last] => last
  | piece :: rest =>
    let reached := column + Text.width (piece ++ [' '])
    let gap := tabGap reached
    piece ++ ' ' :: List.replicate gap ' ' ++ spreadTabs (reached + gap) rest

/-- A line with blanks for its tabs. -/
def expandTabs (line : Text) : Text :=
  spreadTabs 0 (Text.split '\t' line)

/-! ## Breaking lines -/

/-- What happens to a word that is too long for a line: it is folded, or it stays whole. -/
inductive LongWords where
  | fold
  | keep
  deriving DecidableEq

/-- The word at the beginning of a text, with the blanks around it, and the text after it. -/
def nextWord? (s : Text) : Option (Text × Text) :=
  let rest := Text.trimLeft s
  if rest.isEmpty then none
  else
    let after := rest.dropWhile (!Text.isBlank ·)
    some (s.takeWhile Text.isBlank ++ rest.takeWhile (!Text.isBlank ·)
      ++ after.takeWhile Text.isBlank, Text.trimLeft after)

theorem length_of_nextWord? {s word rest : Text} (h : nextWord? s = some (word, rest)) :
    rest.length < s.length := by
  unfold nextWord? at h
  simp only at h
  split at h
  · simp at h
  · rename_i hne
    obtain ⟨-, rfl⟩ := Prod.mk.inj (Option.some.inj h)
    have h1 := (List.dropWhile_sublist Text.isBlank (l := s)).length_le
    cases hl : Text.trimLeft s with
    | nil => simp [hl] at hne
    | cons c tail =>
      have hc : Text.isBlank c = false := Text.blank_of_trimLeft hl
      have h2 := (List.dropWhile_sublist (!Text.isBlank ·) (l := tail)).length_le
      have h3 := (List.dropWhile_sublist Text.isBlank
        (l := tail.dropWhile (!Text.isBlank ·))).length_le
      have h4 : (Text.trimLeft s).length = tail.length + 1 := by rw [hl, List.length_cons]
      simp only [List.dropWhile_cons, hc, Bool.not_false, if_true]
      unfold Text.trimLeft at h4 ⊢
      omega

/-- The words of a text, each with the blanks after it, and the first with those before it. -/
def words (s : Text) : List Text :=
  match _h : nextWord? s with
  | none => []
  | some (word, rest) => word :: words rest
termination_by s.length
decreasing_by exact length_of_nextWord? _h

/-- The places before pieces that begin at `start`, unless they are at the very beginning. -/
def placesOf (start : Nat) : List Text → List Nat
  | [] => []
  | piece :: rest => (if start = 0 then [] else [start]) ++ placesOf (start + piece.length) rest

/-- The places where a line is broken, when `start` characters are before the words that are left
and `used` columns of the last line are taken. -/
def breaksFrom (columns : Nat) (long : LongWords) (start used : Nat) : List Text → List Nat
  | [] => []
  | word :: rest =>
    let size := Text.width (Text.trimRight word)
    let next := start + word.length
    if used + size ≤ columns then
      breaksFrom columns long next (used + Text.width word) rest
    else if columns < size then
      match long with
      | .fold =>
        let pieces := Text.chop columns word
        placesOf start pieces
          ++ breaksFrom columns long next ((pieces.getLast?.map Text.width).getD used) rest
      | .keep => placesOf start [word] ++ breaksFrom columns long next (Text.width word) rest
    else if used = 0 then breaksFrom columns long next used rest
    else placesOf start [word] ++ breaksFrom columns long next (Text.width word) rest

/-- A text divided at places that ascend, `start` characters being before it. -/
def divideAt (start : Nat) (s : Text) : List Nat → List Text
  | [] => [s]
  | place :: rest =>
    s.take (place - start) :: divideAt place (s.drop (place - start)) rest

/-- A line without blanks at its end, as far as it has more characters than `columns`. -/
def dropExcess (columns : Nat) (line : Text) : Text :=
  let blanks := line.length - (Text.trimRight line).length
  line.take (line.length - min blanks (line.length - columns))

/-- The lines of a text on so many columns; a line without room for its last word may still be too
long. -/
def wrap (columns : Nat) (long : LongWords) (s : Text) : List Text :=
  (Text.split '\n' s).flatMap fun line =>
    let line := expandTabs line
    (divideAt 0 line (breaksFrom columns long 0 0 (words line))).map (dropExcess columns)

/-! ## Lines of a console -/

/-- The columns of the console. -/
def columns : Nat := 2000

/-- A line that is cut if it is too long. -/
def crop (columns : Nat) (line : Text) : Option Text :=
  if columns < Text.width line then Text.fit columns line else some line

/-- The lines of a text on the console, long words being folded. -/
def foldLines (s : Text) : Option (List Text) :=
  (wrap columns .fold s).mapM (crop columns)

/-- What shows that a line has been cut. -/
def ellipsis : Char := '…'

/-- A line that ends with an ellipsis if it is too long. -/
def shorten (columns : Nat) (line : Text) : Option Text :=
  if columns < Text.width line then (Text.fit (columns - 1) line).map (· ++ [ellipsis])
  else some line

/-- On which side of a column its cells stand. -/
inductive Side where
  | left
  | right
  deriving DecidableEq

/-- A line on its side of so many columns. -/
def place (columns : Nat) (side : Side) (line : Text) : Option Text :=
  match side with
  | .left => do
    let line ← shorten columns line
    pure (line ++ List.replicate (columns - Text.width line) ' ')
  | .right => do
    let line ← shorten columns (Text.trimRight line)
    pure (List.replicate (columns - Text.width line) ' ' ++ line)

/-- The lines of a cell of so many columns. A joiner at the end of a line hides a blank after it,
so the columns are counted again in the end. -/
def cellLines (columns : Nat) (side : Side) (s : Text) : Option (List Text) :=
  (wrap columns .keep s).mapM fun line => (place columns side line).bind (Text.fit columns)

end FrameScript.Console
