import FrameScript.Input.CodeSet
import FrameScript.Text.Numeral

/-!
# Input events

What is sent to a device, and what a device holds after it: the place of the mouse, if it has been
moved, and the buttons and keys that are down. Pressing what is down and releasing what is up
changes nothing.
-/

namespace FrameScript

/-- What can be sent to a device. -/
inductive Event where
  | move (x y : Int)
  | pressButton (code : Int)
  | releaseButton (code : Int)
  | pressKey (code : Int)
  | releaseKey (code : Int)
  deriving DecidableEq

/-- What a device holds. -/
structure Held where
  mouse : Option (Int × Int)
  buttons : CodeSet
  keys : CodeSet
  deriving DecidableEq

/-- How an event is named. -/
def Event.name : Event → String
  | .move .. => "move"
  | .pressButton _ => "press_button"
  | .releaseButton _ => "release_button"
  | .pressKey _ => "press_key"
  | .releaseKey _ => "release_key"

/-- The code of an event, and the horizontal place of a move. -/
def Event.code : Event → Int
  | .move x _ => x
  | .pressButton code | .releaseButton code | .pressKey code | .releaseKey code => code

/-- Whether the numbers of an event are short enough to be written. -/
def Event.isWritable : Event → Bool
  | .move x y => Numeral.isWritable x && Numeral.isWritable y
  | .pressButton code | .releaseButton code | .pressKey code | .releaseKey code =>
    Numeral.isWritable code

namespace Held

/-- Everything is up, and the mouse has not been moved. -/
def released : Held :=
  ⟨none, .empty, .empty⟩

/-- What is held after an event. -/
def step (held : Held) : Event → Held
  | .move x y => { held with mouse := some (x, y) }
  | .pressButton code => { held with buttons := held.buttons.insert code }
  | .releaseButton code => { held with buttons := held.buttons.erase code }
  | .pressKey code => { held with keys := held.keys.insert code }
  | .releaseKey code => { held with keys := held.keys.erase code }

/-- What is held after several events. -/
def run (held : Held) (events : List Event) : Held :=
  events.foldl step held

end Held

end FrameScript
