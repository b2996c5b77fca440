import FrameScript.Script.Format

/-!
# The pattern of a format

A format stands for a regular expression: its literals with every special character escaped, a
group for each placeholder, and blanks after the last literal. Whether such an expression is well
formed is a matter of its characters. Nothing in an escaped literal is taken for an operator, and no
literal runs into a group, so that the expression is read back as the pieces from which it was
written; there is no format of which the pattern cannot be compiled.

`Pattern.read?` takes only those expressions that need no more than escaped and plain characters,
the group of a token, and the blanks at the end.

## Results

* `Pattern.read?_escape`: an escaped literal is read back as the literal.
* `read?_pattern`: **the pattern of a format is read back as its pieces.**
-/

namespace FrameScript

namespace Pattern

/-- The characters that mean something in a regular expression, and those that may. -/
def specials : List Char :=
  ['(', ')', '[', ']', '\x7b', '\x7d', '?', '*', '+', '-', '|', '^', '$', '\\', '.', '&', '~', '#',
    ' ', '\t', '\n', '\r', '\x0b', '\x0c']

/-- The literal as a regular expression that matches it alone. -/
def escape (s : Text) : Text :=
  s.flatMap fun c => if c ∈ specials then ['\\', c] else [c]

/-- The group that takes a token, as few characters as may be. -/
def tokenMark : Text := "([\\w.\\-]+?)".toList

/-- Blanks, as many as there are. -/
def blanksMark : Text := "\\s*".toList

/-- What a pattern consists of: characters that stand for themselves, groups, and blanks. -/
inductive Piece where
  | char (c : Char)
  | token
  | blanks
  deriving DecidableEq

/-- The pieces of a regular expression, if it has no others. -/
def read? : Text → Option (List Piece)
  | [] => some []
  | '\\' :: 's' :: '*' :: rest => (read? rest).map (.blanks :: ·)
  | '\\' :: c :: rest => if c ∈ specials then (read? rest).map (.char c :: ·) else none
  | '(' :: '[' :: '\\' :: 'w' :: '.' :: '\\' :: '-' :: ']' :: '+' :: '?' :: ')' :: rest =>
    (read? rest).map (.token :: ·)
  | c :: rest => if c ∈ specials then none else (read? rest).map (.char c :: ·)

variable {c : Char} {s rest : Text}

theorem read?_escaped (h : c ∈ specials) :
    read? ('\\' :: c :: rest) = (read? rest).map (.char c :: ·) := by
  have hs : c ≠ 's' := by
    rintro rfl
    exact absurd h (by decide)
  rw [read?, if_pos h]
  intro rest' hc
  exact absurd hc hs

theorem read?_plain (h : c ∉ specials) :
    read? (c :: rest) = (read? rest).map (.char c :: ·) := by
  have hescape : c ≠ '\\' := by
    rintro rfl
    exact h (by decide)
  have hopen : c ≠ '(' := by
    rintro rfl
    exact h (by decide)
  rw [read?, if_neg h]
  · exact fun rest' hc => absurd hc hescape
  · exact fun d rest' hc => absurd hc hescape
  · exact fun rest' hc => absurd hc hopen

theorem read?_token : read? (tokenMark ++ rest) = (read? rest).map (.token :: ·) := by
  show read?
    ('(' :: '[' :: '\\' :: 'w' :: '.' :: '\\' :: '-' :: ']' :: '+' :: '?' :: ')' :: rest) = _
  rw [read?]

/-- **An escaped literal is read back as the literal.** -/
theorem read?_escape (s rest : Text) :
    read? (escape s ++ rest) = (read? rest).map (s.map .char ++ ·) := by
  induction s with
  | nil => exact Option.map_id'.symm
  | cons c s ih =>
    have hrest : (read? (escape s ++ rest)).map (.char c :: ·) =
        (read? rest).map ((c :: s).map .char ++ ·) := by
      rw [ih, Option.map_map]
      rfl
    by_cases hc : c ∈ specials
    · have hescape : escape (c :: s) ++ rest = '\\' :: c :: (escape s ++ rest) := by
        rw [escape, List.flatMap_cons, if_pos hc]
        rfl
      rw [hescape, read?_escaped hc, hrest]
    · have hescape : escape (c :: s) ++ rest = c :: (escape s ++ rest) := by
        rw [escape, List.flatMap_cons, if_neg hc]
        rfl
      rw [hescape, read?_plain hc, hrest]

end Pattern

namespace Format

/-- The regular expression that a format stands for. -/
def pattern (format : Format) : Text :=
  Pattern.escape format.lead ++ (format.columns.flatMap fun column =>
    Pattern.tokenMark ++ Pattern.escape column.literal) ++ Pattern.blanksMark

/-- The literals of a format, with a token for each placeholder, and blanks at the end. -/
def pieces (format : Format) : List Pattern.Piece :=
  format.lead.map .char ++ (format.columns.flatMap fun column =>
    .token :: column.literal.map .char) ++ [.blanks]

/-- **The pattern of a format is read back as its pieces.** -/
theorem read?_pattern (format : Format) : Pattern.read? format.pattern = some format.pieces := by
  have hcolumns (columns : List Column) :
      Pattern.read? ((columns.flatMap fun column =>
        Pattern.tokenMark ++ Pattern.escape column.literal) ++ Pattern.blanksMark) =
      some ((columns.flatMap fun column => .token :: column.literal.map .char) ++ [.blanks]) := by
    induction columns with
    | nil => rfl
    | cons column columns ih =>
      rw [List.flatMap_cons, List.append_assoc, List.append_assoc, Pattern.read?_token,
        Pattern.read?_escape, ih]
      simp
  rw [pattern, List.append_assoc, Pattern.read?_escape, hcolumns, pieces, List.append_assoc]
  rfl

end Format

end FrameScript
