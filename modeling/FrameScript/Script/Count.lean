import FrameScript.Script.Outline
import FrameScript.Script.Store

/-!
# Counting frames

How many frames a script makes can be told without reading its lines of data. The count is
missing when the header is unusable or some line does not fit, in the script itself or in one that
it includes; a fragment that includes another script, or a script that includes itself, cannot be
counted either. Counts of files are kept in the store, missing ones too.
-/

namespace FrameScript.Count

/-- The count of the lines of a script; `included` counts the script at a location. -/
def ofLines (base : Location) (included : Location → Reading (Option Nat)) (lines : List Text) :
    Reading (Option Nat) :=
  let found := HeaderLines.find lines
  if found.isUsable then
    (Outline.ofLines found.bodyStart lines).count? fun target =>
      if found.isFragment || target.isEmpty then pure none
      else included (base.under (Location.read target))
  else pure none

/-- The count of the script at a canonical path, from the store or else from the disk. `chain`
holds the files in progress, innermost first. -/
def countAt (disk : Disk) (chain : List Path) (p : Path) : Reading (Option Nat) := do
  match (← get).counts.lookup p with
  | some count =>
    Store.tallyUp fun t => { t with countHits := t.countHits + 1 }
    pure count
  | none =>
    if _hc : p ∈ chain then
      Store.tell .warning "INCLUDE cycle while counting frames" [("path", .text p.text)]
      pure none
    else
      Store.tallyUp fun t => { t with countMisses := t.countMisses + 1 }
      let count ← Store.whileCounting p do
        Store.noteOpened p
        match _hs : disk.source p with
        | .error fault => throw (.unreadable p.text p.text fault)
        | .ok text =>
          let count ← ofLines p.parent.location
            (fun l => do
              let there ← Store.resolve disk l
              countAt disk (p :: chain) there) (Text.lines text)
          Store.tell .debug "Counted frames" [("path", .text p.text), ("frames", .ofNat? count)]
          pure count
      Store.keepCount p count
      pure count
termination_by room disk.paths chain
decreasing_by exact Disk.room_lt_of_source _hc _hs

/-- The count of the script at a location, through the store. -/
def countFile (disk : Disk) (l : Location) : Reading (Option Nat) := do
  let p ← Store.resolve disk l
  countAt disk (← get).counting p

/-- The folder from which a text sees the paths of included scripts: the given one, or the one
where the reader stands. -/
def baseOf (disk : Disk) : Option Text → Location
  | none => disk.here.location
  | some path => Location.read path

/-- The count of a text that sees the paths of included scripts from `base`. -/
def countText (disk : Disk) (text : Text) (base : Option Text) : Reading (Option Nat) :=
  ofLines (baseOf disk base) (countFile disk) (Text.lines text)

end FrameScript.Count
