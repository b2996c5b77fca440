import FrameScript.Failure
import FrameScript.Script.Key

/-!
# Fields

A frame has a value for each of its fields. A field is a mouse axis, `MX` or `MY`, a key, `K` with
the name of the key, or a mouse button, `M` with a number. `Field.read` tells which one a name
means.
-/

namespace FrameScript

/-- What a field moves or holds. -/
inductive Field.Kind where
  | mouseX
  | mouseY
  | key (code : Nat)
  | button (number : Nat)
  deriving DecidableEq

/-- A field: its name and what the name means. -/
structure Field where
  name : Text
  kind : Field.Kind
  deriving DecidableEq

namespace Field

/-- The name of the horizontal mouse axis. -/
def mouseXName : Text := ['M', 'X']

/-- The name of the vertical mouse axis. -/
def mouseYName : Text := ['M', 'Y']

/-- What a name means. -/
def readKind (name : Text) : Except Failure Kind :=
  match name with
  | ['M', 'X'] => .ok .mouseX
  | ['M', 'Y'] => .ok .mouseY
  | 'K' :: c :: rest =>
    match Key.code? (c :: rest) with
    | some code => .ok (.key code)
    | none => .error (.unknownKey (c :: rest))
  | 'M' :: number =>
    match Numeral.readNat number with
    | .value n => .ok (.button n)
    | .tooLong digits => .error (.longNumeral digits)
    | .other => .error (.unknownField name)
  | _ => .error (.unknownField name)

/-- The field with the given name. -/
def read (name : Text) : Except Failure Field :=
  match readKind name with
  | .ok kind => .ok ⟨name, kind⟩
  | .error failure => .error failure

/-- The code of a key or the number of a button, for hosts that show what a field stands for. -/
def Kind.code? : Kind → Option Nat
  | mouseX | mouseY => none
  | key code => some code
  | button number => some number

end Field

end FrameScript
