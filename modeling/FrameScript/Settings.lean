import FrameScript.Input.Compiler
import FrameScript.Setting

/-!
# Settings

The settings of a session have defaults; some may be given, and others come from the environment,
where every value is a text. A given value counts before one of the environment. All settings that
cannot be read are reported together, in a fixed order.
-/

namespace FrameScript

/-- The settings of a session. -/
structure Settings where
  framePeriod : Int
  xOffset : Int
  yOffset : Int
  suppress : Bool
  logLevel : Text
  logJson : Bool
  deriving DecidableEq

namespace Settings

/-- The settings when nothing is given. -/
def default : Settings :=
  { framePeriod := 16, xOffset := 0, yOffset := 0, suppress := false,
    logLevel := "INFO".toList, logJson := false }

/-! ## Reading all settings -/

/-- Where the values of settings come from: those given, by name, and the environment. The names may
be in any case. -/
structure Source where
  given : List (String × Setting)
  environment : List (String × Text)

/-- Why there can be no such environment: no name in it has an equals sign, and nothing in it has
a NUL. Environments that a system hands over are in order; this is for hosts that make one up. -/
def Source.obstacle? (source : Source) : Option String :=
  source.environment.findSome? fun e =>
    if e.1.contains '\x00' || e.2.contains '\x00' then some "embedded null byte"
    else if e.1.contains '=' then some "illegal environment variable name"
    else none

/-- The last value under a name, of names that differ in case only. -/
def lastOf? {α : Type} (name : String) (values : List (String × α)) : Option α :=
  (values.reverse.find? fun e => e.1.toLower == name).map Prod.snd

/-- The value of a setting, if there is one. -/
def Source.value? (source : Source) (name : String) : Option Setting :=
  match lastOf? name source.given with
  | some value => some value
  | none => (lastOf? name source.environment).map .text

/-- A setting read with `convert`: its value, or else the default. -/
def Source.pick {α : Type} (source : Source) (convert : Setting → Except Setting.Problem α)
    (fallback : α) (name : String) : Except Setting.Problem α :=
  match source.value? name with
  | some value => convert value
  | none => .ok fallback

/-- The problem of a setting that cannot be read, under its name. -/
def complaint {α : Type} (name : String) :
    Except Setting.Problem α → List (String × Setting.Problem)
  | .ok _ => []
  | .error problem => [(name, problem)]

/-- The settings of a source, or every problem there is. -/
def read (source : Source) : Except (List (String × Setting.Problem)) Settings :=
  let period := source.pick Setting.toPositive default.framePeriod "frame_period_ms"
  let x := source.pick Setting.toWhole default.xOffset "x_offset"
  let y := source.pick Setting.toWhole default.yOffset "y_offset"
  let suppress := source.pick Setting.toSwitch default.suppress "suppress_repeated_mouse_moves"
  let level := source.pick Setting.toText default.logLevel "log_level"
  let json := source.pick Setting.toSwitch default.logJson "log_json"
  match period, x, y, suppress, level, json with
  | .ok framePeriod, .ok xOffset, .ok yOffset, .ok suppress, .ok logLevel, .ok logJson =>
    .ok { framePeriod, xOffset, yOffset, suppress, logLevel, logJson }
  | _, _, _, _, _, _ =>
    .error (complaint "frame_period_ms" period ++ complaint "x_offset" x
      ++ complaint "y_offset" y ++ complaint "suppress_repeated_mouse_moves" suppress
      ++ complaint "log_level" level ++ complaint "log_json" json)

/-- Problems as one text. -/
def problemText (problems : List (String × Setting.Problem)) : String :=
  "; ".intercalate (problems.map fun e => s!"{e.1}: {e.2.text}")

/-- The offset that the settings configure. -/
def offset (settings : Settings) : Offset :=
  ⟨settings.xOffset, settings.yOffset⟩

/-- The compiler that the settings configure, with the offset that is in force. -/
def compiler (settings : Settings) (offset : Offset) : Compiler :=
  ⟨offset, settings.suppress⟩

end Settings

end FrameScript
