import FrameScript.Text.Blank

/-!
# Lines of a script

A measured line is its number, its indentation and its content. A tab counts as four spaces
wherever it stands; four columns of indentation make a level. Lines that are blank, and lines that
begin with a number sign, say nothing.
-/

namespace FrameScript

/-- A line of a script, measured. -/
structure Line where
  number : Nat
  indent : Nat
  content : Text
  deriving DecidableEq

namespace Line

/-- The columns that make a level. -/
def levelWidth : Nat := 4

/-- The text with spaces for tabs. -/
def expandTabs (raw : Text) : Text :=
  raw.flatMap fun c => if c = '\t' then List.replicate levelWidth ' ' else [c]

/-- The measured line with the given number. -/
def measure (number : Nat) (raw : Text) : Line :=
  ⟨number, ((expandTabs raw).takeWhile Text.isBlank).length,
    Text.trimRight (Text.trimLeft (expandTabs raw))⟩

/-- The measured lines, numbered on from `first`. -/
def measureFrom (first : Nat) : List Text → List Line
  | [] => []
  | raw :: rest => measure first raw :: measureFrom (first + 1) rest

/-- The level of the line, if its indentation makes one. -/
def level? (line : Line) : Option Nat :=
  if line.indent % levelWidth = 0 then some (line.indent / levelWidth) else none

/-- Blank lines and comments say nothing. -/
def isSkipped (line : Line) : Bool :=
  match line.content with
  | [] => true
  | c :: _ => c == '#'

end Line

/-- A place in a list of lines: the lines before `index` have been read. A negative index counts
from the end of the list, and the whole list follows after that end.

A cursor is for those who read lines one by one, from a place of their own. Scripts are read from
the list of their measured lines; there a cursor gives the same lines. -/
structure Cursor where
  lines : List Text
  index : Int

namespace Cursor

/-- Whether the place is before everything that an index from the end can reach. No line can be
looked at from there, and whoever asks for one has to be refused. -/
def isAstray (cursor : Cursor) : Bool :=
  cursor.index < -(cursor.lines.length : Int)

/-- The lines from the place on. -/
def ahead (cursor : Cursor) : List Text :=
  match cursor.index with
  | .ofNat n => cursor.lines.drop n
  | .negSucc n => cursor.lines.drop (cursor.lines.length - (n + 1)) ++ cursor.lines

/-- The next line that says something, and the index after it, which is its number. -/
def peek? (cursor : Cursor) : Option (Line × Int) :=
  ((Line.measureFrom 1 cursor.ahead).find? (!·.isSkipped)).map fun line =>
    (line, cursor.index + line.number)

/-- The next line that says something, its number, and the cursor after it. -/
def advance? (cursor : Cursor) : Option (Line × Int × Cursor) :=
  cursor.peek?.map fun (line, number) => (line, number, { cursor with index := number })

end Cursor

end FrameScript
