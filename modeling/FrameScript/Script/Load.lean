import FrameScript.Input.Compiler
import FrameScript.Script.Parse

/-!
# Loading and compiling

A script is loaded from a file, or read from a text, and compiled as a whole. The journal is told
of scripts that have been loaded and of sequences that have been compiled.
-/

namespace FrameScript.Script

/-- The script at a location, with a word to the journal. -/
def load (disk : Disk) (l : Location) (typed : Bool) : Reading Script := do
  let script ← parseFile disk l typed
  Store.tell .info "Loaded playback"
    [("path", .ofText? script.source), ("instructions", .number script.frames.length)]
  pure script

/-- The deltas of frames, with a word to the journal once all of them are there. -/
def compileTold (compiler : Compiler) (frames : List Frame) : Reading (List Delta) :=
  match compiler.compileAll frames with
  | .error failure => throw failure
  | .ok deltas => do
    Store.tell .debug "Compiled sequence"
      [("instructions", .number deltas.length),
        ("offset", .pair compiler.offset.x compiler.offset.y)]
    pure deltas

/-- What a sequence of instructions is, in one line. -/
def summary (name : String) (source : Option Text) (length : Nat) : String :=
  let path := (source.map Failure.quote).getD "None"
  s!"{name}(path={path}, instructions={length})"

/-- A script in one line, for hosts that show what they have loaded. -/
def text (script : Script) : String :=
  summary "Playback" script.source script.frames.length

/-- The compiled form of a script in one line, for the same hosts. The commands print tables
instead. -/
def compiledText (script : Script) (deltas : List Delta) : String :=
  summary "CompiledPlayback" script.source deltas.length

end FrameScript.Script
