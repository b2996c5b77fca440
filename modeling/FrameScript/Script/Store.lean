import FrameScript.Disk.Walk
import FrameScript.Journal
import FrameScript.Script.Header

/-!
# The store of scripts and counts

A store remembers, by canonical path, the scripts that have been read and the counts that have
been taken, until it is cleared; it never looks whether a file has changed. It also keeps a tally
of what was found and what was not, the list of the files that were opened, and a journal.

`Store.whileParsing` and `Store.whileCounting` run a reading while its path is noted as in
progress, and take the note away however the reading ends.
-/

namespace FrameScript

/-- A script: where it was read from, its header, and the frames of its body, with repetitions
and included scripts unrolled. -/
structure Script where
  source : Option Text
  header : Header
  frames : List Frame
  deriving DecidableEq

/-- How often something was found in a store, or was not, and how often it was cleared. -/
structure Tally where
  scriptHits : Nat
  scriptMisses : Nat
  countHits : Nat
  countMisses : Nat
  clears : Nat
  deriving DecidableEq

/-- What has been read and counted. Scripts and counts stand newest first, and so do the paths in
progress, the files opened and the journal. -/
structure Store where
  scripts : List (Path × Script)
  counts : List (Path × Option Nat)
  parsing : List Path
  counting : List Path
  tally : Tally
  opened : List Path
  journal : Journal

/-- A reading: it may fail, and it keeps what it has stored even then. -/
abbrev Reading := EStateM Failure Store

namespace Store

/-- A store that has seen nothing. -/
def empty : Store :=
  { scripts := [], counts := [], parsing := [], counting := [], tally := ⟨0, 0, 0, 0, 0⟩,
    opened := [], journal := [] }

/-- Tells the journal. -/
def tell (level : Journal.Level) (title : String) (values : List (String × Journal.Value)) :
    Reading Unit :=
  modify fun store => { store with journal := ⟨level, title, values⟩ :: store.journal }

/-- Changes the tally. -/
def tallyUp (f : Tally → Tally) : Reading Unit :=
  modify fun store => { store with tally := f store.tally }

/-- Runs a reading between two changes of the store, the second of which is made however the
reading ends. -/
def between {α : Type} (before after : Store → Store) (reading : Reading α) : Reading α :=
  fun store =>
    match reading (before store) with
    | .ok a store => .ok a (after store)
    | .error failure store => .error failure (after store)

/-- Runs a reading while `p` is noted as being parsed. -/
def whileParsing {α : Type} (p : Path) : Reading α → Reading α :=
  between (fun store => { store with parsing := p :: store.parsing })
    (fun store => { store with parsing := store.parsing.tail })

/-- Runs a reading while `p` is noted as being counted. -/
def whileCounting {α : Type} (p : Path) : Reading α → Reading α :=
  between (fun store => { store with counting := p :: store.counting })
    (fun store => { store with counting := store.counting.tail })

/-- Stores a script. -/
def keepScript (p : Path) (script : Script) : Reading Unit :=
  modify fun store => { store with scripts := (p, script) :: store.scripts }

/-- Stores a count. -/
def keepCount (p : Path) (count : Option Nat) : Reading Unit :=
  modify fun store => { store with counts := (p, count) :: store.counts }

/-- The canonical path of a location that can be looked up. -/
def resolve (disk : Disk) (l : Location) : Reading Path :=
  if l.isSound then pure (disk.canonical l) else throw .badPath

/-- Notes that the file at a canonical path is opened. -/
def noteOpened (p : Path) : Reading Unit :=
  modify fun store => { store with opened := p :: store.opened }

/-- Forgets every script and every count, and tells how many they were. -/
def clear : Reading Nat := do
  let store ← get
  let removed := store.scripts.length + store.counts.length
  set { store with
    scripts := []
    counts := []
    tally := { store.tally with clears := store.tally.clears + 1 } }
  tell .info "File cache cleared" [("entries", .number removed)]
  pure removed

/-- Whether the script at a location is stored. Readers look it up and go on with it; this is for
hosts that only ask. -/
def knows (disk : Disk) (l : Location) : Reading Bool := do
  let p ← resolve disk l
  pure ((← get).scripts.lookup p).isSome

end Store

end FrameScript
