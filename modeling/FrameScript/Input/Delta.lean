import FrameScript.Input.Event

/-!
# Deltas

A delta is what changes from one frame to the next: a place for the mouse, and the buttons and
keys to press and to release. Its events go out in a fixed order: the move, the buttons to press,
the buttons to release, the keys to press, the keys to release, each set in ascending order.
-/

namespace FrameScript

/-- What changes from one frame to the next. -/
structure Delta where
  move : Option (Int × Int)
  pressButtons : CodeSet
  releaseButtons : CodeSet
  pressKeys : CodeSet
  releaseKeys : CodeSet
  deriving DecidableEq

namespace Delta

/-- Nothing changes. -/
def none : Delta :=
  ⟨.none, .empty, .empty, .empty, .empty⟩

/-- Whether nothing changes. -/
def isEmpty (delta : Delta) : Bool :=
  delta.move.isNone && delta.pressButtons.isEmpty && delta.releaseButtons.isEmpty
    && delta.pressKeys.isEmpty && delta.releaseKeys.isEmpty

/-- The events of a delta in the order in which they are sent. -/
def events (delta : Delta) : List Event :=
  (delta.move.map fun place => Event.move place.1 place.2).toList
    ++ delta.pressButtons.codes.map Event.pressButton
    ++ delta.releaseButtons.codes.map Event.releaseButton
    ++ delta.pressKeys.codes.map Event.pressKey
    ++ delta.releaseKeys.codes.map Event.releaseKey

/-- What is held after each of the deltas, when everything is up before the first. -/
def preview (deltas : List Delta) : List Held :=
  go .released deltas
where
  /-- What is held after each of the deltas, when `held` is before the first. -/
  go (held : Held) : List Delta → List Held
    | [] => []
    | delta :: rest => held.run delta.events :: go (held.run delta.events) rest

/-- A set of codes with its name, unless it is empty. -/
def labelled (label : String) (codes : CodeSet) : List String :=
  if codes.isEmpty then []
  else [s!"{label}=[" ++ ", ".intercalate (codes.codes.map toString) ++ "]"]

/-- The delta as a text, for hosts that show it. -/
def text (delta : Delta) : String :=
  let parts := (delta.move.map fun place => s!"move=({place.1}, {place.2})").toList
    ++ labelled "press_buttons" delta.pressButtons
    ++ labelled "release_buttons" delta.releaseButtons
    ++ labelled "press_keys" delta.pressKeys
    ++ labelled "release_keys" delta.releaseKeys
  let body := if parts.isEmpty then "noop" else " ".intercalate parts
  s!"[CompiledInstruction {body}]"

end Delta

end FrameScript
