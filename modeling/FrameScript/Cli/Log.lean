import FrameScript.Decimal.Shortest
import FrameScript.Journal

/-!
# Log lines

An entry of the journal as a line of a log: a JSON object, or the level, the title and the values
one after the other.
-/

namespace FrameScript.Cli.Log

/-- A character of a JSON string. -/
def escapeJson (c : Char) : Text :=
  if c = '"' || c = '\\' then ['\\', c]
  else if c.toNat < 0x20 then
    ['\\', 'u', '0', '0', Nat.digitChar (c.toNat / 16), Nat.digitChar (c.toNat % 16)]
  else [c]

/-- A JSON string. -/
def jsonString (s : Text) : Text :=
  '"' :: s.flatMap escapeJson ++ ['"']

/-- A value in JSON. -/
def jsonValue : Journal.Value → Text
  | .nothing => "null".toList
  | .flag b => if b then "true".toList else "false".toList
  | .number n => Text.ofInt n
  | .real x => Decimal.shortest x
  | .text s => jsonString s
  | .pair x y => '[' :: Text.ofInt x ++ ", ".toList ++ Text.ofInt y ++ [']']

/-- An entry as a JSON object: its values, its title and its level. -/
def jsonLine (entry : Journal.Entry) : Text :=
  let values := entry.values.map fun e => (e.1, jsonValue e.2)
  let all := values ++ [("event", jsonString entry.title.toList),
    ("level", jsonString entry.level.name.toList)]
  '\x7b' :: Text.join ", ".toList (all.map fun e => jsonString e.1.toList ++ ": ".toList ++ e.2)
    ++ ['\x7d']

/-- An entry in plain words. -/
def plainLine (entry : Journal.Entry) : Text :=
  let values := entry.values.map fun e => e.1.toList ++ '=' :: jsonValue e.2
  Text.join [' '] (('[' :: entry.level.name.toList ++ [']']) :: entry.title.toList :: values)

end FrameScript.Cli.Log
