import FrameScript.Script.Field
import FrameScript.Script.Frame
import FrameScript.Text.Alphanumeric

/-!
# Formats

A format is literal text with placeholders `<name>`. `scan` cuts it into its literals and names:
whatever stands between angle brackets is a name if it has ASCII letters, digits and underscores
only, and everything else is literal. `Format.read` makes a column of each placeholder and refuses
the leftmost placeholder that is not one.

A line matches a format when tokens can be put for the placeholders, one for each, so that the
line results, up to blanks at its end. Of several ways to do this the one counts whose token
lengths come first in lexicographic order; `shortest` looks for it from the left.
-/

namespace FrameScript

/-- A placeholder and the literal text between it and the next one. -/
structure Column where
  field : Field
  literal : Text
  deriving DecidableEq

/-- A format: how it is written, the literal text before its first column, and its columns. -/
structure Format where
  source : Text
  lead : Text
  columns : List Column
  deriving DecidableEq

namespace Format

/-! ## Placeholders -/

/-- A character that a name may have. -/
def isNameChar (c : Char) : Bool :=
  c.isAlphanum || c == '_'

/-- Reads a name and a closing bracket: the name and what follows the bracket. -/
def closing? (s : Text) : Option (Text × Text) :=
  match s.dropWhile isNameChar with
  | '>' :: rest => some (s.takeWhile isNameChar, rest)
  | _ => none

theorem closing?_eq_some {s name rest : Text} (h : closing? s = some (name, rest)) :
    s = name ++ '>' :: rest ∧ ∀ c ∈ name, isNameChar c = true := by
  unfold closing? at h
  split at h
  · rename_i rest' hd
    obtain ⟨rfl, rfl⟩ := Prod.mk.inj (Option.some.inj h)
    refine ⟨?_, fun c hc => ?_⟩
    · rw [← hd, List.takeWhile_append_dropWhile]
    · have := List.all_takeWhile (p := isNameChar) (l := s)
      exact List.all_eq_true.1 this c hc
  · simp at h

theorem length_of_closing? {s name rest : Text} (h : closing? s = some (name, rest)) :
    rest.length < s.length := by
  rw [(closing?_eq_some h).1]
  simp only [List.length_append, List.length_cons]
  omega

/-- The literal before the first placeholder, and each name with the literal after it. -/
def scan : Text → Text × List (Text × Text)
  | [] => ([], [])
  | c :: s =>
    match _h : if c = '<' then closing? s else none with
    | some (name, rest) =>
      let later := scan rest
      ([], (name, later.1) :: later.2)
    | none =>
      let later := scan s
      (c :: later.1, later.2)
termination_by s => s.length
decreasing_by
  · split at _h
    · have := length_of_closing? _h
      simp only [List.length_cons]
      omega
    · simp at _h
  · simp

/-- The columns of scanned placeholders, of which the names `seen` stand further left. -/
def readColumns (place : Place) (seen : List Text) :
    List (Text × Text) → Except Failure (List Column)
  | [] => .ok []
  | (name, literal) :: rest =>
    if name = [] then .error (.format .emptyName place)
    else if name ∈ seen then .error (.format (.duplicateName name) place)
    else
      match Field.read name with
      | .error failure => .error failure
      | .ok field =>
        match readColumns place (name :: seen) rest with
        | .error failure => .error failure
        | .ok columns => .ok (⟨field, literal⟩ :: columns)

/-- The format that a text declares at a place. -/
def read (source : Text) (place : Place) : Except Failure Format :=
  match readColumns place [] (scan source).2 with
  | .error failure => .error failure
  | .ok [] => .error (.format (.noFields source) place)
  | .ok columns => .ok ⟨source, (scan source).1, columns⟩

/-- The fields of the columns, from the left. -/
def fields (format : Format) : List Field :=
  format.columns.map Column.field

/-! ## Matching -/

/-- A character of a token. -/
def isTokenChar (c : Char) : Bool :=
  Text.isWord c || c == '.' || c == '-'

/-- The shortest token at the beginning of a text after which `next` succeeds, and what `next`
gives there. -/
def shortest {β : Type} (next : Text → Option β) : Text → Option (Text × β)
  | [] => none
  | c :: s =>
    if isTokenChar c then
      match next s with
      | some b => some ([c], b)
      | none => (shortest next s).map fun found => (c :: found.1, found.2)
    else none

/-- The tokens of a text that begins with the token of the first of the columns. -/
def matchColumns : List Column → Text → Option (List Text)
  | [], s => if Text.allBlank s then some [] else none
  | column :: columns, s =>
    (shortest (fun rest => (Text.after? column.literal rest).bind (matchColumns columns)) s).map
      fun found => found.1 :: found.2

/-- The tokens of a line that matches the format. -/
def tokens? (format : Format) (line : Text) : Option (List Text) :=
  (Text.after? format.lead line).bind (matchColumns format.columns)

/-- The frame that a matching line writes. -/
def frame? (format : Format) (place : Place) (line : Text) : Option Frame :=
  (format.tokens? line).map fun tokens =>
    ⟨(format.fields.map Field.name).zip tokens, place⟩

end Format

end FrameScript
