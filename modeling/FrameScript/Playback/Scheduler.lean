import FrameScript.Playback.Quick
import FrameScript.Playback.Timed

/-!
# Schedulers

A scheduler owns a device and lets one run at a time have it. A run that is asked for while
another one has the device is refused, sends nothing and leaves the other one alone
(`exclusively_of_owned`); however a run ends, it gives the device back (`not_owned_after`).
-/

namespace FrameScript

/-- A world, and whether a run has its device. -/
structure Desk (σ : Type) where
  owned : Bool
  world : σ

namespace Desk

variable {σ α : Type}

/-- Takes the device, unless a run has it. -/
def acquire : EStateM Failure (Desk σ) Unit := fun desk =>
  if desk.owned then .error .busy desk else .ok () { desk with owned := true }

/-- Gives the device back. -/
def release (desk : Desk σ) : Desk σ :=
  { desk with owned := false }

/-- Does something while having the device, and gives it back however that ends. -/
def exclusively (body : EStateM Failure (Desk σ) α) : EStateM Failure (Desk σ) α := fun desk =>
  match acquire desk with
  | .error failure desk => .error failure desk
  | .ok _ desk =>
    match body desk with
    | .ok a desk => .ok a desk.release
    | .error failure desk => .error failure desk.release

theorem exclusively_of_owned (body : EStateM Failure (Desk σ) α) {desk : Desk σ}
    (h : desk.owned = true) : exclusively body desk = .error .busy desk := by
  simp [exclusively, acquire, h]

/-- The desk that an outcome leaves. -/
def after : EStateM.Result Failure (Desk σ) α → Desk σ
  | .ok _ desk => desk
  | .error _ desk => desk

theorem not_owned_after (body : EStateM Failure (Desk σ) α) {desk : Desk σ}
    (h : desk.owned = false) : (after (exclusively body desk)).owned = false := by
  simp only [exclusively, acquire, h, Bool.false_eq_true, if_false]
  split <;> rfl

end Desk

/-! ## Periods -/

/-- The complaint about a period of so many thousandths that is zero or less. Hosts ask for it
before they make a scheduler with a period of their own; the settings have none that is so short. -/
def Period.complaint? (told : Quantity) : Option String :=
  if told.isZeroOrLess then some s!"period_ms must be positive, got {String.ofList told.text}"
  else none

/-- The period of so many thousandths, unless that is too long for a clock. -/
def Period.ofQuantity? (told : Quantity) : Option (Period Float) :=
  told.toFloat?.map fun span => ⟨told, span, told.lowerFloat⟩

/-! ## Runs -/

/-- A rig with a device that is owned by one run at a time, the way to compile frames, and the
period of timed runs, missing if it is too long for the clock. -/
structure Scheduler (σ τ : Type) where
  rig : Rig (Desk σ) τ
  compiler : Compiler
  period : Option (Period τ)

namespace Scheduler

variable {σ τ : Type} [Timeline τ]

/-- A quick run of its own. -/
def runQuick (scheduler : Scheduler σ τ) (instructions : List Instruction) :
    EStateM Failure (Desk σ) (Report τ) :=
  Desk.exclusively (scheduler.rig.quick scheduler.compiler instructions)

/-- A timed run, which takes a period that the clock can count. -/
def timed (scheduler : Scheduler σ τ) (instructions : List Instruction) :
    EStateM Failure (Desk σ) (Report τ) :=
  match scheduler.period with
  | some period => scheduler.rig.timed scheduler.compiler period instructions
  | none => throw .hugeSpan

/-- A timed run of its own. -/
def runTimed (scheduler : Scheduler σ τ) (instructions : List Instruction) :
    EStateM Failure (Desk σ) (Report τ) :=
  Desk.exclusively (scheduler.timed instructions)

/-- What is left of a run that was started and has ended: its report, or the failure that stopped
it. -/
structure Run (τ : Type) where
  outcome : Except Failure (Report τ)

/-- The report of a run that was not stopped by a failure. -/
def Run.report? {τ : Type} (run : Run τ) : Option (Report τ) :=
  run.outcome.toOption

/-- What the worker of a started run does: it plays, takes note if a failure stops it, and gives
the device back before it records the outcome. -/
def work (scheduler : Scheduler σ τ) (instructions : List Instruction) (desk : Desk σ) :
    Run τ × Desk σ :=
  match scheduler.timed instructions desk with
  | .ok report desk => (⟨.ok report⟩, desk.release)
  | .error failure desk => (⟨.error failure⟩, (scheduler.rig.note .stopped desk).release)

/-- Starts a timed run with a worker of its own and waits until it has ended. -/
def start (scheduler : Scheduler σ τ) (instructions : List Instruction) :
    EStateM Failure (Desk σ) (Run τ) := fun desk =>
  match Desk.acquire desk with
  | .error failure desk => .error failure desk
  | .ok _ desk =>
    let (run, desk) := scheduler.work instructions desk
    .ok run desk

end Scheduler

end FrameScript
