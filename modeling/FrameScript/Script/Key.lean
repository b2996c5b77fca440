import FrameScript.Text.Printable

/-!
# Keys

A key has a name: one of a dozen words, or a single printable character. Letters and digits of
ASCII have the code of their upper-case form, some punctuation has codes of its own, and every
other printable character has its code point in the extended range above `extendedBase`.
-/

namespace FrameScript.Key

/-- The keys that have a word for a name. -/
def named : List (Text × Nat) := [
  ("SHIFT".toList, 16), ("TAB".toList, 9), ("CTRL".toList, 17), ("ALT".toList, 18),
  ("BACKSPACE".toList, 8), ("INSERT".toList, 155), ("DELETE".toList, 127), ("UP".toList, 38),
  ("LEFT".toList, 37), ("DOWN".toList, 40), ("RIGHT".toList, 39), ("ENTER".toList, 10)]

/-- The punctuation that has codes of its own. The accent is the grave one. -/
def punctuation : List (Char × Nat) := [
  (' ', 32), (',', 44), ('-', 45), ('.', 46), ('/', 47), (';', 59), ('=', 61), ('[', 91),
  ('\\', 92), (']', 93), (Char.ofNat 0x60, 192), ('\x27', 222), ('_', 523)]

/-- The codes of characters without a key of their own lie above this one. -/
def extendedBase : Nat := 0x01000000

/-- The code of the key with the name of one character. -/
def ofChar? (c : Char) : Option Nat :=
  if Text.isPrintable c then
    match punctuation.lookup c with
    | some code => some code
    | none => if c.isAlphanum then some c.toUpper.toNat else some (extendedBase + c.toNat)
  else none

/-- The code of the key whose name is a character, written as a text. -/
def ofCharText? : Text → Option Nat
  | [c] => ofChar? c
  | _ => none

/-- The code of the key with the given name. -/
def code? (name : Text) : Option Nat :=
  match named.lookup name with
  | some code => some code
  | none => ofCharText? name

end FrameScript.Key
