import FrameScript.Text.Printable

/-!
# Quoted texts

A text in messages stands between single quotes, or between double quotes when it holds a single
quote and no double one. The backslash and the quote in use are escaped, line feed, carriage
return and tab have letters of their own, and every other unprintable character is written by its
code in the narrowest of three hexadecimal widths.
-/

namespace FrameScript.Text

/-- A hexadecimal digit in lower case. -/
def hexDigit (n : Nat) : Char :=
  if n < 10 then Char.ofNat (0x30 + n) else Char.ofNat (0x57 + n)

/-- The last `width` hexadecimal digits of a number. -/
def hexDigits : (width n : Nat) → Text
  | 0, _ => []
  | width + 1, n => hexDigits width (n / 16) ++ [hexDigit (n % 16)]

/-- The quote that a text is written between. -/
def quoteFor (s : Text) : Char :=
  if s.contains '\x27' && !s.contains '"' then '"' else '\x27'

/-- One character as it stands between the quotes `quote`. -/
def escape (quote c : Char) : Text :=
  if c = '\\' || c = quote then ['\\', c]
  else if c = '\n' then ['\\', 'n']
  else if c = '\r' then ['\\', 'r']
  else if c = '\t' then ['\\', 't']
  else if isPrintable c then [c]
  else if c.toNat < 0x100 then '\\' :: 'x' :: hexDigits 2 c.toNat
  else if c.toNat < 0x10000 then '\\' :: 'u' :: hexDigits 4 c.toNat
  else '\\' :: 'U' :: hexDigits 8 c.toNat

/-- A text between quotes, with escapes. -/
def quoted (s : Text) : Text :=
  quoteFor s :: s.flatMap (escape (quoteFor s)) ++ [quoteFor s]

end FrameScript.Text
