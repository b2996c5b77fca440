import FrameScript.Script.Format
import FrameScript.Text.Blank

/-!
# Headers

A script may begin with its kind and has to declare its format next. `HeaderLines.find` finds the
two declarations without judging them; `Header.read` judges them, the kind first.
-/

namespace FrameScript

/-- The kinds of script. A fragment may not include others. -/
inductive ScriptKind where
  | default
  | fragment
  deriving DecidableEq

namespace ScriptKind

/-- How a kind is written. -/
def text : ScriptKind → Text
  | default => "DEFAULT".toList
  | fragment => "FRAGMENT".toList

/-- The kind that is written so. -/
def read? (s : Text) : Option ScriptKind :=
  if s = default.text then some default
  else if s = fragment.text then some fragment
  else none

end ScriptKind

/-- The declarations at the top of a script as they are found: the text of the kind and its line,
the text of the format and the line where it is or should be, and the number of lines before the
body. -/
structure HeaderLines where
  kindText : Option Text
  kindLine : Option Nat
  formatText : Option Text
  formatLine : Nat
  bodyStart : Nat
  deriving DecidableEq

namespace HeaderLines

/-- What a line that declares a kind begins with. -/
def kindMark : Text := "!TYPE: ".toList

/-- What a line that declares a format begins with. -/
def formatMark : Text := "!FORMAT: ".toList

/-- The declaration in the first of the lines, if it begins with `mark`. -/
def declared? (mark : Text) : List Text → Option Text
  | [] => none
  | line :: _ => (Text.after? mark line).map Text.trimRight

/-- The declarations of the lines: the kind in the first, the format in the one after it or, if
there is no kind, in the first. -/
def find (lines : List Text) : HeaderLines :=
  let kindText := declared? kindMark lines
  let index := if kindText.isSome then 1 else 0
  let formatText := declared? formatMark (lines.drop index)
  { kindText
    kindLine := kindText.map fun _ => 1
    formatText
    formatLine := index + 1
    bodyStart := if formatText.isSome then index + 1 else index }

/-- Whether the script declares a fragment. -/
def isFragment (header : HeaderLines) : Bool :=
  header.kindText = some ScriptKind.fragment.text

/-- Whether there is a format, and no kind or a proper one. -/
def isUsable (header : HeaderLines) : Bool :=
  header.formatText.isSome && header.kindText.all fun s => (ScriptKind.read? s).isSome

end HeaderLines

/-- The declarations of a script. -/
structure Header where
  kind : Option ScriptKind
  format : Format
  deriving DecidableEq

namespace Header

/-- The kind that is declared. -/
def readKind (source : Option Text) (found : HeaderLines) :
    Except Failure (Option ScriptKind) :=
  match found.kindText with
  | none => .ok none
  | some s =>
    match ScriptKind.read? s with
    | some kind => .ok (some kind)
    | none => .error (.layout (.badKind s) ⟨source, found.kindLine⟩)

/-- The header that has been found. -/
def ofFound (source : Option Text) (found : HeaderLines) : Except Failure Header :=
  match readKind source found with
  | .error failure => .error failure
  | .ok kind =>
    match found.formatText with
    | none => .error (.layout .noFormat ⟨source, some found.formatLine⟩)
    | some text =>
      match Format.read text ⟨source, some found.formatLine⟩ with
      | .error failure => .error failure
      | .ok format => .ok ⟨kind, format⟩

/-- The header at the top of the lines of `source`. -/
def read (source : Option Text) (lines : List Text) : Except Failure Header :=
  ofFound source (HeaderLines.find lines)

end Header

end FrameScript
