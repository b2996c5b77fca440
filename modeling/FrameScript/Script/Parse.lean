import FrameScript.Script.Outline
import FrameScript.Script.Store

/-!
# Reading scripts

A script is read from its lines: the header, then the outline of the body, unrolled. A line of
data has to match the format. Scripts that are included are read through the store, each canonical
path once; a script that includes itself, by whatever detour, is refused with the chain of files
that leads back to it.

`Script.parseAt` recurses along the inclusions. It ends because every file that is opened is added
to the chain of files in progress, which holds none of them twice (`Disk.room_lt_of_source`).
-/

namespace FrameScript.Script

/-! ## From lines -/

/-- The frame of a line of data. -/
def readData (source : Option Text) (format : Format) (line : Line) : Reading Frame :=
  match format.frame? ⟨source, some line.number⟩ line.content with
  | some frame => pure frame
  | none => throw (.layout (.mismatch format.source line.content) ⟨source, some line.number⟩)

/-- The frames of the script that a line includes; `parse` reads the script at a canonical
path. -/
def readInclusion (disk : Disk) (source : Option Text) (base : Location)
    (kind : Option ScriptKind) (parse : Path → Reading Script) (line : Line) (target : Text) :
    Reading (List Frame) :=
  let place : Place := ⟨source, some line.number⟩
  if kind = some .fragment then throw (.layout .includeInFragment place)
  else if target.isEmpty then throw (.layout .includeNothing place)
  else do
    let there ← Store.resolve disk (base.under (Location.read target))
    Store.tell .debug "Including file"
      [("path", .ofText? source), ("line", .number line.number), ("target", .text there.text)]
    let script ← parse there
    pure script.frames

/-- The script that lines make. `source` is what they are called, and `base` is the folder from
which the paths of included scripts are seen. -/
def ofLines (disk : Disk) (source : Option Text) (base : Location)
    (parse : Path → Reading Script) (lines : List Text) : Reading Script :=
  match Header.read source lines with
  | .error failure => throw failure
  | .ok header => do
    let body := Outline.ofLines (HeaderLines.find lines).bodyStart lines
    let frames ← body.frames source (readData source header.format)
      (readInclusion disk source base header.kind parse)
    pure ⟨source, header, frames⟩

/-! ## From files -/

/-- The files of a cycle: from `p` down the chain of files in progress, innermost first, and back
to `p`. -/
def cycleOf (chain : List Path) (p : Path) : List Path :=
  chain.reverse.dropWhile (· ≠ p) ++ [p]

/-- The failure of a script that would include itself. -/
def cycleFailure (chain : List Path) (p : Path) : Failure :=
  .layout (.cycle (cycleOf chain p)) ⟨chain.head?.map Path.text, none⟩

/-- The script at a canonical path, from the store or else from the disk. `chain` holds the files
in progress, innermost first. -/
def parseAt (disk : Disk) (chain : List Path) (p : Path) : Reading Script := do
  match (← get).scripts.lookup p with
  | some script =>
    Store.tallyUp fun t => { t with scriptHits := t.scriptHits + 1 }
    Store.tell .debug "Parse cache hit" [("path", .text p.text)]
    pure script
  | none =>
    if _hc : p ∈ chain then throw (cycleFailure chain p)
    else
      Store.tallyUp fun t => { t with scriptMisses := t.scriptMisses + 1 }
      let script ← Store.whileParsing p do
        Store.noteOpened p
        match _hs : disk.source p with
        | .error fault => throw (.unreadable p.text p.text fault)
        | .ok text =>
          let script ← ofLines disk (some p.text) p.parent.location
            (fun there => parseAt disk (p :: chain) there) (Text.lines text)
          Store.tell .debug "Parsed file"
            [("path", .text p.text), ("instructions", .number script.frames.length)]
          pure script
      Store.keepScript p script
      pure script
termination_by room disk.paths chain
decreasing_by exact Disk.room_lt_of_source _hc _hs

/-- A script that has to declare its kind does so. -/
def demandKind (typed : Bool) (script : Script) : Reading Script :=
  if typed && script.header.kind.isNone then
    throw (.layout .noKind ⟨script.source, some 1⟩)
  else pure script

/-- The script at a location, through the store. With `typed` it has to declare its kind. -/
def parseFile (disk : Disk) (l : Location) (typed : Bool) : Reading Script := do
  let p ← Store.resolve disk l
  let script ← parseAt disk (← get).parsing p
  demandKind typed script

/-- The folder from which a text sees the paths of included scripts: that of the path it goes by,
or the one where the reader stands. -/
def baseOf (disk : Disk) : Option Text → Location
  | none => disk.here.location
  | some path => (Location.read path).parent

/-- The script that a text makes when it goes by the given path. It is not stored; the scripts
that it includes are. -/
def parseText (disk : Disk) (text : Text) (path : Option Text) (typed : Bool) :
    Reading Script := do
  let chain := (← get).parsing
  let script ← ofLines disk path (baseOf disk path)
    (fun there => parseAt disk chain there) (Text.lines text)
  demandKind typed script

end FrameScript.Script
