import FrameScript.Playback.Rig

/-!
# Timed runs

One instruction per period, at a fixed rate: tick `k` is due `k` periods after the start, whenever
the ticks before it came. A tick that is late is played as soon as possible and none is left out.
A failure of an instruction is noted and the run goes on; a failure of the clock ends it. Whether
to cancel is asked while waiting for the next tick and at no other time.
-/

namespace FrameScript

/-- A period in thousandths: as it is told, on the timeline, and the longest time on the timeline
that does not exceed it, which is the span itself unless that was rounded. -/
structure Period (τ : Type) where
  told : Quantity
  span : τ
  limit : τ

/-- How far a timed run has come: the report so far, the time of the last tick, the sum of the
intervals between ticks, and the last frame. -/
structure Pace (τ : Type) where
  report : Report τ
  lastTick : Option τ
  intervals : τ
  previous : Option Frame

namespace Pace

variable {τ : Type} [Timeline τ]

/-- Before the first tick of so many. -/
def start (total : Nat) : Pace τ :=
  ⟨.fresh "timed" total, none, Timeline.ofNat 0, none⟩

/-- When the next tick is due, after a start at `started`. -/
def due (pace : Pace τ) (period : Period τ) (started : τ) : τ :=
  started + Timeline.ofNat pace.report.ticks * Timeline.ofMillis period.span

/-- How much later than due something is, in thousandths. -/
def drift (due tickTime : τ) : τ :=
  Timeline.later (Timeline.ofNat 0) (Timeline.toMillis (tickTime - due))

/-- Takes up a tick that was due at `due` and comes at `tickTime`. -/
def takeUp (pace : Pace τ) (due tickTime : τ) : Pace τ :=
  { pace with
    report := { pace.report with
      maxDrift := Timeline.later pace.report.maxDrift (drift due tickTime)
      ticks := pace.report.ticks + 1 }
    lastTick := some tickTime
    intervals := match pace.lastTick with
      | none => pace.intervals
      | some last => pace.intervals + (tickTime - last) }

/-- Settles a tick: it was applied, or it failed. -/
def settle (pace : Pace τ) (tick : Nat) (previous : Option Frame) : Option Failure → Pace τ
  | none => { pace with
      report := { pace.report with applied := pace.report.applied + 1 }
      previous }
  | some failure => { pace with
      report := { pace.report with
        failed := pace.report.failed + 1
        errors := pace.report.errors ++ [(tick, failure)] }
      previous }

/-- The report on a run that took the time `elapsed`. -/
def finish (pace : Pace τ) (elapsed : τ) : Report τ :=
  let ticks := pace.report.ticks
  { pace.report with
    elapsed
    meanInterval :=
      if 1 < ticks then some (Timeline.toMillis (pace.intervals / Timeline.ofNat (ticks - 1)))
      else none }

end Pace

namespace Rig

variable {σ τ : Type} [Timeline τ]

/-- Plays the tick that was due at `due`. -/
def tick (rig : Rig σ τ) (compiler : Compiler) (period : Period τ) (due : τ) (pace : Pace τ)
    (instruction : Instruction) : EStateM Failure σ (Pace τ) := do
  let tickTime ← rig.now
  let number := pace.report.ticks
  let drift := Pace.drift due tickTime
  if Timeline.isBefore period.limit drift then modify (rig.note (.late number drift))
  let done := rig.perform compiler pace.previous instruction (← get)
  set done.state
  match done.failure with
  | none => pure ()
  | some failure => modify (rig.note (.failed number failure))
  pure ((pace.takeUp due tickTime).settle number done.previous done.failure)

/-- Plays the instructions that are left of a run that started at `started`. -/
def timedFrom (rig : Rig σ τ) (compiler : Compiler) (period : Period τ) (started : τ) :
    Pace τ → List Instruction → EStateM Failure σ (Pace τ)
  | pace, [] => pure pace
  | pace, instruction :: rest => do
    let due := pace.due period started
    let now ← rig.now
    if ← rig.wait (due - now) then
      pure { pace with report := { pace.report with cancelled := true } }
    else
      let pace ← rig.tick compiler period due pace instruction
      timedFrom rig compiler period started pace rest

/-- Plays one instruction per period. -/
def timed (rig : Rig σ τ) (compiler : Compiler) (period : Period τ)
    (instructions : List Instruction) : EStateM Failure σ (Report τ) := do
  modify (rig.note (.timedStarted instructions.length period.told))
  let started ← rig.now
  let pace ← rig.timedFrom compiler period started (.start instructions.length) instructions
  let ended ← rig.now
  let report := pace.finish (ended - started)
  modify (rig.note (.finished report))
  pure report

end Rig

end FrameScript
