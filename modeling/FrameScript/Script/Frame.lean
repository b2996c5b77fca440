import FrameScript.Failure

/-!
# Frames

A frame is one line of input: a value for each field, in the order in which the fields are
declared. Two frames say the same when their entries are equal, wherever they stand. A name is
looked up among the entries from the last to the first.
-/

namespace FrameScript

/-- The values of one line of a script, and where the line stands. -/
structure Frame where
  entries : List (Text × Text)
  place : Place
  deriving DecidableEq

namespace Frame

/-- The value of a field, the last one if the name is repeated. -/
def value? (frame : Frame) (name : Text) : Option Text :=
  frame.entries.reverse.lookup name

/-- The names without repetitions, each where it first occurs. -/
def distinctNames (frame : Frame) : List Text :=
  frame.entries.foldl (fun names e => if e.1 ∈ names then names else names ++ [e.1]) []

/-- The names without repetitions, in the order of their code points. -/
def sortedNames (frame : Frame) : List Text :=
  frame.distinctNames.mergeSort Text.le

/-- Whether two frames have the same fields, in whatever order. -/
def sameFields (a b : Frame) : Bool :=
  a.entries.all (fun e => (b.value? e.1).isSome) && b.entries.all (fun e => (a.value? e.1).isSome)

/-- Each name once, with its value, for hosts that look up what a frame says. -/
def dictionary (frame : Frame) : List (Text × Text) :=
  frame.distinctNames.filterMap fun name => (frame.value? name).map fun value => (name, value)

/-- Where the frame comes from. -/
def origin (frame : Frame) : Text :=
  match frame.place.source, frame.place.line with
  | none, _ => "<memory>".toList
  | some s, none => s
  | some s, some n => s ++ ':' :: Text.ofNat n

/-- The frame as a text, for hosts that show it. -/
def text (frame : Frame) : Text :=
  "[RawInstruction ".toList
    ++ Text.join [' '] (frame.entries.map fun e => e.1 ++ '=' :: e.2) ++ [']']

end Frame

end FrameScript
