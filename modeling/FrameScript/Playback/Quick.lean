import FrameScript.Playback.Rig

/-!
# Quick runs

Every instruction at once, one after the other. A failure ends the run; a request to cancel ends
it before the next instruction.
-/

namespace FrameScript.Rig

variable {σ τ : Type} [Timeline τ]

/-- Plays the instructions that are left, `report` being about those before. -/
def quickFrom (rig : Rig σ τ) (compiler : Compiler) :
    (previous : Option Frame) → (report : Report τ) → List Instruction →
      EStateM Failure σ (Report τ)
  | _, report, [], s => .ok report s
  | previous, report, instruction :: rest, s =>
    if rig.isCancelled s then .ok { report with cancelled := true } s
    else
      let done := rig.perform compiler previous instruction s
      match done.failure with
      | some failure => .error failure done.state
      | none =>
        quickFrom rig compiler done.previous
          { report with ticks := report.ticks + 1, applied := report.applied + 1 } rest done.state

/-- Plays the instructions without delay. -/
def quick (rig : Rig σ τ) (compiler : Compiler) (instructions : List Instruction) :
    EStateM Failure σ (Report τ) := do
  let started ← rig.now
  modify (rig.note (.quickStarted instructions.length))
  let report ← rig.quickFrom compiler none (.fresh "quick" instructions.length) instructions
  let ended ← rig.now
  let report := { report with elapsed := ended - started }
  modify (rig.note (.finished report))
  pure report

/-- A quick run is a run of its instructions between two looks at the clock. -/
theorem quick_eq {rig : Rig σ τ} {compiler : Compiler} {instructions : List Instruction} {s : σ} :
    rig.quick compiler instructions s =
      match rig.now s with
      | .error failure s => .error failure s
      | .ok started s =>
        match rig.quickFrom compiler none (.fresh "quick" instructions.length) instructions
            (rig.note (.quickStarted instructions.length) s) with
        | .error failure s => .error failure s
        | .ok report s =>
          match rig.now s with
          | .error failure s => .error failure s
          | .ok ended s =>
            .ok { report with elapsed := ended - started }
              (rig.note (.finished { report with elapsed := ended - started }) s) := by
  show EStateM.bind rig.now _ s = _
  unfold EStateM.bind
  cases rig.now s with
  | error failure s => rfl
  | ok started s =>
    show EStateM.bind (rig.quickFrom compiler none _ _) _ (rig.note _ s) = _
    unfold EStateM.bind
    simp only
    cases rig.quickFrom compiler none (.fresh "quick" instructions.length) instructions
        (rig.note (.quickStarted instructions.length) s) with
    | error failure s => rfl
    | ok report s =>
      show EStateM.bind rig.now _ s = _
      unfold EStateM.bind
      simp only
      cases rig.now s <;> rfl

end FrameScript.Rig
