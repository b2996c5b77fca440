import FrameScript.Cli.Log
import FrameScript.Cli.Session

/-!
# The program

The outer layer of the command line: it collects what a request may look at on the real disk,
carries the request out, and prints the lines and the log.
-/

namespace FrameScript.Program

open FrameScript.Cli

/-- What is said to somebody who asks for help or whose command line is not in order. -/
def usage : String :=
  "usage: framescript [-h] [--x-offset N] [--y-offset N] [--typed] [--log-level LEVEL] "
    ++ "[--json-logs] (count | check | annotate | preview | replay) ..."

/-- The scripts that a text includes, seen from a folder. -/
def inclusions (base : Location) (text : Text) : List Location :=
  (Line.measureFrom 1 (Text.lines text)).filterMap fun line =>
    match Directive.read line.content with
    | .inclusion target => some (base.under (Location.read target))
    | _ => none

/-- The canonical path of something that exists. -/
def realPath? (p : Path) : IO (Option Path) := do
  try
    let real ← IO.FS.realPath (String.ofList p.text)
    return some ⟨(Location.read real.toString.toList).parts⟩
  catch _ => return none

/-- The bytes of a file that can be read. -/
def bytes? (p : Path) : IO (Option (List UInt8)) := do
  try
    let bytes ← IO.FS.readBinFile (String.ofList p.text)
    return some bytes.toList
  catch _ => return none

/-- Adds to a disk what locations and the scripts included there hold, `seen` being known. -/
partial def collect (seen : List Path) (disk : Disk) : List Location → IO Disk
  | [] => return disk
  | l :: rest => do
    let p := disk.canonical l
    if seen.contains p then collect seen disk rest
    else
      match ← realPath? p with
      | none => collect (p :: seen) disk rest
      | some real =>
        let linked := if real = p then disk else disk.put p (.link real.location)
        match ← bytes? real with
        | none => collect (p :: seen) (linked.put real .folder) rest
        | some bytes =>
          let disk := linked.put real (.file bytes)
          let further := match disk.source real with
            | .ok text => inclusions real.parent.location text
            | .error _ => []
          collect (p :: seen) disk (further ++ rest)

/-- The files that a command names. -/
def filesOf : Command → List Text
  | .count files => files
  | .check file | .annotate file => [file]
  | .preview file _ => [file]
  | .replay file .. => [file]

/-- The names of the settings in the environment, without their common beginning. -/
def settingNames : List String :=
  ["frame_period_ms", "x_offset", "y_offset", "suppress_repeated_mouse_moves", "log_level",
    "log_json"]

/-- The settings of the environment. -/
def readSettings : IO (Except (List (String × Setting.Problem)) Settings) := do
  let found ← settingNames.filterMapM fun name => do
    let value ← IO.getEnv ("FRAMESCRIPT_" ++ name.toUpper)
    return value.map fun s => (name, s.toList)
  return Settings.read ⟨[], found⟩

/-- Carries out a request and prints what comes of it. -/
def serve (settings : Settings) (request : Request) : IO UInt32 := do
  let here ← IO.FS.realPath "."
  let disk := Disk.empty ⟨(Location.read here.toString.toList).parts⟩
  let disk ← collect [] disk ((filesOf request.command).map Location.read)
  match request.run settings disk with
  | .error failure =>
    IO.eprintln failure.message
    return 1
  | .ok outcome =>
    let line := if request.jsonLogs then Log.jsonLine else Log.plainLine
    for entry in outcome.journal do
      IO.eprintln (String.ofList (line entry))
    for line in outcome.lines do
      IO.println (String.ofList line)
    return outcome.code.toUInt32

/-- Runs the program on a command line. -/
def run (line : List String) : IO UInt32 := do
  match ← readSettings with
  | .error problems =>
    IO.eprintln (Settings.problemText problems)
    return 1
  | .ok settings =>
    match Request.read settings (line.map String.toList) with
    | .ok request => serve settings request
    | .error .help =>
      IO.println usage
      return 0
    | .error (.noHelp fault) =>
      IO.eprintln fault.message
      return 1
    | .error (.usage complaint) =>
      IO.eprintln usage
      if let some text := complaint then IO.eprintln s!"error: {text}"
      return 2

end FrameScript.Program

def main (line : List String) : IO UInt32 :=
  FrameScript.Program.run line
