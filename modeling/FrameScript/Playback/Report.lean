import FrameScript.Decimal.Quantity
import FrameScript.Failure
import FrameScript.Input.Event
import FrameScript.Journal
import FrameScript.Playback.Timeline

/-!
# Reports on playing

A report says how a run went: how many instructions there were, how many of them were taken up,
applied and failed, whether the run was cancelled, and how well it kept time. A notice is what is
told while playing goes on; `Notice.entry` is the entry of the journal that it makes.
-/

namespace FrameScript

/-- How a run went. The drift is in thousandths, and so is the mean interval, which only runs with
more than one tick have. -/
structure Report (τ : Type) where
  mode : String
  total : Nat
  ticks : Nat
  applied : Nat
  failed : Nat
  cancelled : Bool
  elapsed : τ
  maxDrift : τ
  meanInterval : Option τ
  errors : List (Nat × Failure)

namespace Report

/-- The report on a run that has not begun. -/
def fresh {τ : Type} [Timeline τ] (mode : String) (total : Nat) : Report τ :=
  { mode, total, ticks := 0, applied := 0, failed := 0, cancelled := false,
    elapsed := Timeline.ofNat 0, maxDrift := Timeline.ofNat 0, meanInterval := none, errors := [] }

/-- Whether every instruction was taken up and the run was not cancelled. -/
def isCompleted {τ : Type} (report : Report τ) : Bool :=
  !report.cancelled && report.ticks == report.total

/-- The errors as texts, each with the number of its tick. -/
def errorTexts {τ : Type} (report : Report τ) : List String :=
  report.errors.map fun e => s!"tick {e.1}: {e.2.message}"

/-- The figures of a report by name, rounded: seconds to six decimals, thousandths to three. -/
structure Figures where
  mode : String
  total : Nat
  ticks : Nat
  applied : Nat
  failed : Nat
  cancelled : Bool
  elapsedSeconds : Quantity
  maxDriftMs : Quantity
  meanIntervalMs : Option Quantity

/-- The figures of a report. -/
def figures (report : Report Quantity) : Figures :=
  { mode := report.mode, total := report.total, ticks := report.ticks
    applied := report.applied, failed := report.failed, cancelled := report.cancelled
    elapsedSeconds := report.elapsed.roundTo 6
    maxDriftMs := report.maxDrift.roundTo 3
    meanIntervalMs := report.meanInterval.map (Quantity.roundTo 3) }

/-- A report on another timeline. -/
def mapTime {τ υ : Type} (f : τ → υ) (report : Report τ) : Report υ :=
  { mode := report.mode, total := report.total, ticks := report.ticks
    applied := report.applied, failed := report.failed, cancelled := report.cancelled
    elapsed := f report.elapsed, maxDrift := f report.maxDrift
    meanInterval := report.meanInterval.map f, errors := report.errors }

end Report

/-- What is told while playing goes on. -/
inductive Notice (τ : Type) where
  | sent (event : Event)
  | quickStarted (total : Nat)
  | timedStarted (total : Nat) (period : Quantity)
  | late (tick : Nat) (drift : τ)
  | failed (tick : Nat) (failure : Failure)
  | finished (report : Report τ)
  | stopped
  | lingering

namespace Notice

/-- The title of the entry that an event makes. -/
def eventTitle : Event → String
  | .move .. => "move_mouse_to"
  | .pressButton _ => "press_mouse_button"
  | .releaseButton _ => "release_mouse_button"
  | .pressKey _ => "press_key"
  | .releaseKey _ => "release_key"

/-- The entry that an event makes. -/
def eventEntry (event : Event) : Journal.Entry :=
  ⟨.debug, eventTitle event,
    match event with
    | .move x y => [("x", .number x), ("y", .number y)]
    | _ => [("code", .number event.code)]⟩

/-- A quantity as a value of an entry. -/
def quantityValue : Quantity → Journal.Value
  | .whole n => .number n
  | .real x => .real x

/-- The figures of a report as the values of an entry. -/
def figureValues (figures : Report.Figures) : List (String × Journal.Value) := [
  ("mode", .text figures.mode.toList), ("total", .number figures.total),
  ("ticks", .number figures.ticks), ("applied", .number figures.applied),
  ("failed", .number figures.failed), ("cancelled", .flag figures.cancelled),
  ("elapsed_seconds", quantityValue figures.elapsedSeconds),
  ("max_drift_ms", quantityValue figures.maxDriftMs),
  ("mean_interval_ms", (figures.meanIntervalMs.map quantityValue).getD .nothing)]

/-- The title of the entry that ends a run of the given mode. -/
def finishedTitle (mode : String) : String :=
  if mode = "quick" then "Quick playback finished" else "Timed playback finished"

/-- The entry of the journal that a notice makes. -/
def entry : Notice Float → Journal.Entry
  | sent event => eventEntry event
  | quickStarted total =>
    ⟨.info, "Quick playback started", [("instructions", .number total)]⟩
  | timedStarted total period =>
    ⟨.info, "Timed playback started",
      [("instructions", .number total), ("period_ms", quantityValue period)]⟩
  | late tick drift =>
    ⟨.warning, "Late tick",
      [("tick", .number tick), ("drift_ms", .real (Decimal.roundTo 3 drift))]⟩
  | failed tick failure =>
    ⟨.error, "Tick failed",
      [("tick", .number tick), ("error", .text failure.message.toList)]⟩
  | finished report =>
    ⟨.info, finishedTitle report.mode, figureValues (report.mapTime Quantity.real).figures⟩
  | stopped => ⟨.error, "Playback worker stopped unexpectedly", []⟩
  | lingering =>
    ⟨.warning, "Playback worker did not stop within timeout", [("timeout", .number 0)]⟩

end Notice

end FrameScript
