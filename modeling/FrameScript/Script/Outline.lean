import FrameScript.Failure
import FrameScript.Script.Frame
import FrameScript.Script.Line

/-!
# Outlines

The body of a script is a sequence of lines and of repetitions, and a repetition holds a body of
its own, one level further in. `Outline.build` finds this structure. It is tolerant: a line that
does not fit becomes a `bad` item and the lines after it are read as if it were not there, except
that a repetition without a usable count opens no body.

Three readings walk the outline from the first line to the last: `frames` unrolls it, `count?`
adds up how many frames that makes, and `marks` says for each line which frame it is. The first
two end at the first bad item; the third goes on. How an included script is dealt with is left to
the caller of each.
-/

namespace FrameScript

/-- What a line asks for. -/
inductive Directive where
  | data
  | inclusion (target : Text)
  | repetition (count : Text)
  deriving DecidableEq

namespace Directive

/-- What a line that includes a script begins with. -/
def includeMark : Text := "INCLUDE ".toList

/-- What a line that opens a repetition begins with. -/
def repeatMark : Text := "REPEAT ".toList

/-- What a line with the given content asks for. -/
def read (content : Text) : Directive :=
  match Text.after? includeMark content with
  | some target => .inclusion (Text.trim target)
  | none =>
    match Text.after? repeatMark content with
    | some count => .repetition (Text.trim count)
    | none => .data

end Directive

/-- Why a line does not fit into a body. -/
inductive Misfit where
  | stray
  | badCount (text : Text)
  | longCount (digits : Nat)
  deriving DecidableEq

/-- What stands in a line that opens no body. -/
inductive Item where
  | skip
  | data
  | inclusion (target : Text)
  | bad (misfit : Misfit)
  deriving DecidableEq

/-- The structure of a body. -/
inductive Outline where
  | nil
  | leaf (line : Line) (item : Item) (next : Outline)
  | loop (line : Line) (count : Nat) (body next : Outline)
  deriving DecidableEq

namespace Outline

/-- Whether a line does not end a body that is deeper than `level`. -/
def isInside (level : Nat) (line : Line) : Bool :=
  line.isSkipped || line.level?.all fun n => level < n

/-- The structure of lines at the given level. -/
def build (level : Nat) : List Line → Outline
  | [] => nil
  | line :: rest =>
    if line.isSkipped then leaf line .skip (build level rest)
    else if line.level? = some level then
      match Directive.read line.content with
      | .data => leaf line .data (build level rest)
      | .inclusion target => leaf line (.inclusion target) (build level rest)
      | .repetition text =>
        match Numeral.readNat text with
        | .other => leaf line (.bad (.badCount text)) (build level rest)
        | .tooLong digits => leaf line (.bad (.longCount digits)) (build level rest)
        | .value count =>
          loop line count (build (level + 1) (rest.takeWhile (isInside level)))
            (build level (rest.dropWhile (isInside level)))
    else leaf line (.bad .stray) (build level rest)
termination_by lines => lines.length
decreasing_by
  all_goals simp only [List.length_cons]
  all_goals first
    | omega
    | exact Nat.lt_succ_of_le (List.takeWhile_sublist _).length_le
    | exact Nat.lt_succ_of_le (List.dropWhile_sublist _).length_le

/-- The outline of a body: of the lines after the first `start`. -/
def ofLines (start : Nat) (lines : List Text) : Outline :=
  build 0 (Line.measureFrom (start + 1) (lines.drop start))

variable {σ : Type}

/-! ## Unrolling -/

/-- The largest count for which a body can be repeated. -/
def repeatLimit : Nat := Nat.pow 2 63 - 1

/-- Copies of a list one after the other. Of nothing, any number of copies is nothing. -/
def copies {α : Type} (count : Nat) (block : List α) : List α :=
  if block.isEmpty then [] else (List.replicate count block).flatten

/-- The failure of a strict reading at a line that does not fit. -/
def misfitFailure (source : Option Text) (line : Line) : Misfit → Failure
  | .stray => .layout .badIndent ⟨source, some line.number⟩
  | .badCount text => .layout (.badCount text) ⟨source, some line.number⟩
  | .longCount digits => .longNumeral digits

/-- The frames of an outline. `data` reads a line, and `included` gives the frames of the script
that a line includes. -/
def frames (source : Option Text) (data : Line → EStateM Failure σ Frame)
    (included : Line → Text → EStateM Failure σ (List Frame)) :
    Outline → EStateM Failure σ (List Frame)
  | nil => pure []
  | leaf line item next =>
    match item with
    | .skip => frames source data included next
    | .data => do
      let frame ← data line
      let rest ← frames source data included next
      pure (frame :: rest)
    | .inclusion target => do
      let block ← included line target
      let rest ← frames source data included next
      pure (block ++ rest)
    | .bad misfit => throw (misfitFailure source line misfit)
  | loop _ count body next => do
    let block ← frames source data included body
    if repeatLimit < count then throw .hugeRepeat
    let rest ← frames source data included next
    pure (copies count block ++ rest)

/-! ## Counting -/

/-- How many frames an outline makes, if it can be told. `included` counts the script that a line
includes. -/
def count? (included : Text → EStateM Failure σ (Option Nat)) :
    Outline → EStateM Failure σ (Option Nat)
  | nil => pure (some 0)
  | leaf _ item next =>
    match item with
    | .skip => count? included next
    | .data => do
      let rest ← count? included next
      pure (rest.map (1 + ·))
    | .inclusion target => do
      match ← included target with
      | none => pure none
      | some n =>
        let rest ← count? included next
        pure (rest.map (n + ·))
    | .bad (.longCount digits) => throw (.longNumeral digits)
    | .bad _ => pure none
  | loop _ count body next => do
    match ← count? included body with
    | none => pure none
    | some n =>
      let rest ← count? included next
      pure (rest.map (count * n + ·))

end Outline

/-! ## Marking -/

/-- What a line is, for one who reads along. -/
inductive Mark.Kind where
  | header
  | blank
  | comment
  | data
  | loop
  | inclusion
  | error
  deriving DecidableEq

/-- The mark beside a line. The value is the number of the frame that a line of data makes, when
every repetition around it runs for the first time, or how many frames an included script makes. -/
structure Mark where
  number : Nat
  kind : Mark.Kind
  value : Option Nat
  deriving DecidableEq

namespace Mark

/-- The mark as it is shown: an error by a word, other lines by their value unless it is zero. -/
def label (mark : Mark) : Text :=
  match mark.kind, mark.value with
  | .error, _ => ['E', 'R', 'R']
  | _, none => []
  | _, some 0 => []
  | _, some n => Text.ofNat n

/-- Whether the value of the mark is short enough to be shown. -/
def isWritable (mark : Mark) : Bool :=
  mark.value.all fun n : Nat => Numeral.isWritable n

/-- The mark of a line that says nothing. -/
def ofSkipped (line : Line) : Mark :=
  ⟨line.number, if line.content.isEmpty then .blank else .comment, none⟩

end Mark

namespace Outline

variable {σ : Type}

/-- The marks of the lines of an outline that begins after `position` frames, and how many frames
there are after it. `included` counts the script that a line includes. -/
def marks (included : Text → EStateM Failure σ (Option Nat)) :
    (position : Nat) → Outline → EStateM Failure σ (List Mark × Nat)
  | position, nil => pure ([], position)
  | position, leaf line item next =>
    match item with
    | .skip => do
      let (rest, last) ← marks included position next
      pure (Mark.ofSkipped line :: rest, last)
    | .data => do
      let (rest, last) ← marks included (position + 1) next
      pure (⟨line.number, .data, some (position + 1)⟩ :: rest, last)
    | .inclusion target => do
      match ← included target with
      | none =>
        let (rest, last) ← marks included position next
        pure (⟨line.number, .error, none⟩ :: rest, last)
      | some n =>
        let (rest, last) ← marks included (position + n) next
        pure (⟨line.number, .inclusion, some n⟩ :: rest, last)
    | .bad (.longCount digits) => throw (.longNumeral digits)
    | .bad _ => do
      let (rest, last) ← marks included position next
      pure (⟨line.number, .error, none⟩ :: rest, last)
  | position, loop line count body next => do
    let (inner, reached) ← marks included position body
    let (rest, last) ← marks included (position + count * (reached - position)) next
    pure (⟨line.number, .loop, none⟩ :: inner ++ rest, last)

end Outline

end FrameScript
