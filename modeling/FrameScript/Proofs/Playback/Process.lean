import FrameScript.Playback.Scheduler
import FrameScript.Proofs.Playback.Ticks

/-!
# Runs, act by act

A run of a rig is told from its beginning to its end. Where several callers meet, what matters is
what may happen between two acts of a run and during one: a run looks at the clock, waits, sends an
event, asks whether it is cancelled, gives notice, and goes on by the answer that it gets. A
`Process` is a run in this form. It says nothing of the answers, so that a process goes on whatever
a clock, a device or a listener comes up with.

## Results

* `Process.run_quick`, `Process.run_timed`: **on every rig the processes run as the runs do.**
* `Process.Follows.unique`: the answers that a process has got determine how it goes on.
* `Process.follows_run`: on a rig with a log, what is added to the log is what the process has sent
  and the device has taken.
-/

namespace FrameScript

open Reading

variable {σ τ α β : Type}

/-- What a run does to its surroundings, one thing at a time. -/
inductive Act (τ : Type) where
  | now
  | wait (span : τ)
  | send (event : Event)
  | ask
  | note (notice : Notice τ)

namespace Act

/-- What may come of an act. -/
def Answer : Act τ → Type
  | now => Except Failure τ
  | wait _ => Except Failure Bool
  | send _ => Except Failure Unit
  | ask => Bool
  | note _ => Unit

/-- The events that a device has taken when it has taken what the act sends. -/
def events : Act τ → List Event
  | send event => [event]
  | _ => []

end Act

/-- What comes of an act on a rig. -/
def Rig.answer (rig : Rig σ τ) : (act : Act τ) → σ → act.Answer × σ
  | .now, s => (outcome (rig.now s), left (rig.now s))
  | .wait span, s => (outcome (rig.wait span s), left (rig.wait span s))
  | .send event, s => (outcome (rig.send event s), left (rig.send event s))
  | .ask, s => (rig.isCancelled s, s)
  | .note notice, s => ((), rig.note notice s)

/-- A run: it has ended, or it does something and goes on by the answer. -/
inductive Process (τ α : Type) where
  | ended (outcome : Except Failure α)
  | doing (act : Act τ) (next : act.Answer → Process τ α)

namespace Process

/-- One process after the other, unless the first one fails. -/
def bind (p : Process τ α) (f : α → Process τ β) : Process τ β :=
  match p with
  | ended (.ok a) => f a
  | ended (.error failure) => ended (.error failure)
  | doing act next => doing act fun answer => (next answer).bind f

instance : Monad (Process τ) where
  pure a := ended (.ok a)
  bind := bind

/-- Looks at the clock. -/
def now : Process τ τ :=
  doing .now ended

/-- Waits for a span of time, and tells whether the run is to be cancelled. -/
def wait (span : τ) : Process τ Bool :=
  doing (.wait span) ended

/-- Sends an event, and tells whether that failed. -/
def send (event : Event) : Process τ (Except Failure Unit) :=
  doing (.send event) fun answer => ended (.ok answer)

/-- Asks whether the run is to be cancelled. -/
def ask : Process τ Bool :=
  doing .ask fun answer => ended (.ok answer)

/-- Gives notice. -/
def note (notice : Notice τ) : Process τ Unit :=
  doing (.note notice) fun _ => ended (.ok ())

/-- A process that gives notice if a failure ends it. -/
def noteStop : Process τ α → Process τ α
  | ended (.ok a) => ended (.ok a)
  | ended (.error failure) => doing (.note .stopped) fun _ => ended (.error failure)
  | doing act next => doing act fun answer => (next answer).noteStop

/-! ## Processes on a rig -/

/-- A process on a rig. -/
def run (rig : Rig σ τ) : Process τ α → EStateM Failure σ α
  | ended (.ok a), s => .ok a s
  | ended (.error failure), s => .error failure s
  | doing act next, s => (next (rig.answer act s).1).run rig (rig.answer act s).2

variable {rig : Rig σ τ}

theorem run_outcome (result : EStateM.Result Failure σ α) :
    (ended (outcome result)).run rig (left result) = result := by
  cases result <;> rfl

@[simp] theorem run_pure (a : α) : (pure a : Process τ α).run rig = pure a :=
  rfl

@[simp] theorem run_bind (p : Process τ α) (f : α → Process τ β) :
    (p >>= f).run rig = p.run rig >>= fun a => (f a).run rig := by
  funext s
  induction p generalizing s with
  | ended outcome => cases outcome <;> rfl
  | doing act next ih => exact ih (rig.answer act s).1 (rig.answer act s).2

@[simp] theorem run_now : now.run rig = rig.now :=
  funext fun s => run_outcome (rig.now s)

@[simp] theorem run_wait (span : τ) : (wait span).run rig = rig.wait span :=
  funext fun s => run_outcome (rig.wait span s)

@[simp] theorem run_note (notice : Notice τ) : (note notice).run rig = modify (rig.note notice) :=
  rfl

/-- A process is run by first running what comes first. -/
theorem run_bind_of_ok {p : Process τ α} {f : α → Process τ β} {a : α} {s s' : σ}
    (h : p.run rig s = .ok a s') : (p >>= f).run rig s = (f a).run rig s' := by
  rw [run_bind]
  change EStateM.bind _ _ s = _
  rw [EStateM.bind, h]

theorem run_send (event : Event) (s : σ) :
    (send event).run rig s = .ok (outcome (rig.send event s)) (left (rig.send event s)) :=
  rfl

theorem run_ask (s : σ) : (ask : Process τ Bool).run rig s = .ok (rig.isCancelled s) s :=
  rfl

theorem run_noteStop (p : Process τ α) (s : σ) :
    p.noteStop.run rig s =
      match p.run rig s with
      | .ok a s' => .ok a s'
      | .error failure s' => .error failure (rig.note .stopped s') := by
  induction p generalizing s with
  | ended outcome => cases outcome <;> rfl
  | doing act next ih => exact ih (rig.answer act s).1 (rig.answer act s).2

/-! ## Instructions -/

/-- Sends events until one of them fails. -/
def sendAll : List Event → Process τ (Option Failure)
  | [] => pure none
  | event :: rest => do
    match ← send event with
    | .ok _ => sendAll rest
    | .error failure => pure (some failure)

theorem run_sendAll (events : List Event) (s : σ) :
    (sendAll events).run rig s = .ok (rig.sendAll events s).1 (rig.sendAll events s).2 := by
  induction events generalizing s with
  | nil => rfl
  | cons event rest ih =>
    unfold sendAll Rig.sendAll
    rw [run_bind_of_ok (run_send event s)]
    cases rig.send event s with
    | ok _ s' => exact ih s'
    | error failure s' => rfl

/-- Plays one instruction after the frame `previous`, and tells the last frame and the failure if
there was one. -/
def perform (compiler : Compiler) (previous : Option Frame) (instruction : Instruction) :
    Process τ (Option Frame × Option Failure) :=
  match instruction.resolve compiler previous with
  | .error failure => pure (previous, some failure)
  | .ok delta => do
    let failure ← sendAll delta.events
    pure (instruction.successor previous, failure)

theorem run_perform (compiler : Compiler) (previous : Option Frame) (instruction : Instruction)
    (s : σ) : (perform compiler previous instruction).run rig s =
      let done := rig.perform compiler previous instruction s
      .ok (done.previous, done.failure) done.state := by
  unfold perform Rig.perform
  cases instruction.resolve compiler previous with
  | error failure => rfl
  | ok delta =>
    simp only
    rw [run_bind_of_ok (run_sendAll delta.events s)]
    rfl

/-! ## Quick runs -/

/-- Plays the instructions that are left of a quick run. -/
def quickFrom (compiler : Compiler) :
    Option Frame → Report τ → List Instruction → Process τ (Report τ)
  | _, report, [] => pure report
  | previous, report, instruction :: rest => do
    if ← ask then pure { report with cancelled := true }
    else
      let done ← perform compiler previous instruction
      match done.2 with
      | some failure => ended (.error failure)
      | none =>
        quickFrom compiler done.1
          { report with ticks := report.ticks + 1, applied := report.applied + 1 } rest

theorem run_quickFrom (compiler : Compiler) (previous : Option Frame) (report : Report τ)
    (instructions : List Instruction) :
    (quickFrom compiler previous report instructions).run rig =
      rig.quickFrom compiler previous report instructions := by
  funext s
  induction instructions generalizing previous report s with
  | nil => rfl
  | cons instruction rest ih =>
    unfold quickFrom Rig.quickFrom
    rw [run_bind_of_ok (run_ask s)]
    by_cases hc : rig.isCancelled s = true
    · rw [if_pos hc, if_pos hc]
      rfl
    · rw [if_neg hc, if_neg hc, run_bind_of_ok (run_perform compiler previous instruction s)]
      cases hd : (rig.perform compiler previous instruction s).failure with
      | some failure =>
        simp only [hd]
        rfl
      | none =>
        simp only [hd]
        exact ih _ _ _

variable [Timeline τ]

/-- A quick run. -/
def quick (compiler : Compiler) (instructions : List Instruction) : Process τ (Report τ) := do
  let started ← now
  note (.quickStarted instructions.length)
  let report ← quickFrom compiler none (.fresh "quick" instructions.length) instructions
  let ended ← now
  let report := { report with elapsed := ended - started }
  note (.finished report)
  pure report

/-- **A quick run is the run of its process**, on every rig. -/
theorem run_quick (compiler : Compiler) (instructions : List Instruction) :
    (quick compiler instructions).run rig = rig.quick compiler instructions := by
  simp only [quick, Rig.quick, run_bind, run_now, run_note, run_quickFrom, run_pure]

/-! ## Timed runs -/

/-- Plays the instruction of a tick that comes at `tickTime`. -/
def tickFrom (compiler : Compiler) (due tickTime : τ) (pace : Pace τ) (instruction : Instruction) :
    Process τ (Pace τ) := do
  let done ← perform compiler pace.previous instruction
  match done.2 with
  | none => pure ()
  | some failure => note (.failed pace.report.ticks failure)
  pure ((pace.takeUp due tickTime).settle pace.report.ticks done.1 done.2)

theorem run_tickFrom (compiler : Compiler) (due tickTime : τ) (pace : Pace τ)
    (instruction : Instruction) (s : σ) :
    (tickFrom compiler due tickTime pace instruction).run rig s =
      let done := rig.perform compiler pace.previous instruction s
      .ok ((pace.takeUp due tickTime).settle pace.report.ticks done.previous done.failure)
        (match done.failure with
        | none => done.state
        | some failure => rig.note (.failed pace.report.ticks failure) done.state) := by
  unfold tickFrom
  rw [run_bind_of_ok (run_perform compiler pace.previous instruction s)]
  generalize rig.perform compiler pace.previous instruction s = done
  obtain ⟨previous, failure, state⟩ := done
  cases failure <;> rfl

/-- Plays the tick that was due at `due`. -/
def tick (compiler : Compiler) (period : Period τ) (due : τ) (pace : Pace τ)
    (instruction : Instruction) : Process τ (Pace τ) := do
  let tickTime ← now
  let drift := Pace.drift due tickTime
  if Timeline.isBefore period.limit drift then note (.late pace.report.ticks drift)
  tickFrom compiler due tickTime pace instruction

theorem run_tick (compiler : Compiler) (period : Period τ) (due : τ) (pace : Pace τ)
    (instruction : Instruction) :
    (tick compiler period due pace instruction).run rig =
      rig.tick compiler period due pace instruction := by
  funext s
  unfold tick
  cases hn : rig.now s with
  | ok tickTime s' =>
    rw [Rig.tick_of_now hn, run_bind_of_ok (run_now ▸ hn)]
    by_cases hlate : Timeline.isBefore period.limit (Pace.drift due tickTime) = true
    · simp only [if_pos hlate]
      exact run_tickFrom compiler due tickTime pace instruction _
    · simp only [if_neg hlate]
      exact run_tickFrom compiler due tickTime pace instruction s'
  | error failure s' =>
    have herror (f : τ → EStateM Failure σ (Pace τ)) : (rig.now >>= f) s = .error failure s' := by
      change EStateM.bind _ _ s = _
      rw [EStateM.bind, hn]
    rw [run_bind, run_now, Rig.tick, herror, herror]

/-- Plays the instructions that are left of a timed run that started at `started`. -/
def timedFrom (compiler : Compiler) (period : Period τ) (started : τ) :
    Pace τ → List Instruction → Process τ (Pace τ)
  | pace, [] => pure pace
  | pace, instruction :: rest => do
    let due := pace.due period started
    let time ← now
    if ← wait (due - time) then
      pure { pace with report := { pace.report with cancelled := true } }
    else
      let pace ← tick compiler period due pace instruction
      timedFrom compiler period started pace rest

theorem run_timedFrom (compiler : Compiler) (period : Period τ) (started : τ) (pace : Pace τ)
    (instructions : List Instruction) :
    (timedFrom compiler period started pace instructions).run rig =
      rig.timedFrom compiler period started pace instructions := by
  induction instructions generalizing pace with
  | nil => rfl
  | cons instruction rest ih =>
    unfold timedFrom Rig.timedFrom
    simp only [run_bind, run_now, run_wait]
    refine congrArg (rig.now >>= ·) (funext fun time => ?_)
    refine congrArg (rig.wait _ >>= ·) (funext fun cancelled => ?_)
    cases cancelled with
    | true => rfl
    | false => simp only [Bool.false_eq_true, if_false, run_bind, run_tick, ih]

/-- A timed run. -/
def timed (compiler : Compiler) (period : Period τ) (instructions : List Instruction) :
    Process τ (Report τ) := do
  note (.timedStarted instructions.length period.told)
  let started ← now
  let pace ← timedFrom compiler period started (.start instructions.length) instructions
  let ended ← now
  let report := pace.finish (ended - started)
  note (.finished report)
  pure report

/-- **A timed run is the run of its process**, on every rig. -/
theorem run_timed (compiler : Compiler) (period : Period τ) (instructions : List Instruction) :
    (timed compiler period instructions).run rig = rig.timed compiler period instructions := by
  simp only [timed, Rig.timed, run_bind, run_now, run_note, run_timedFrom, run_pure]

end Process

/-! ## What a process has done -/

/-- Something that a process has done: the act, the answer that it got, and whether the device has
taken what the act sends. A device may take an event and fail all the same. -/
structure Deed (τ : Type) where
  act : Act τ
  answer : act.Answer
  taken : Bool

/-- The events that the device has taken. -/
def Deed.events (deed : Deed τ) : List Event :=
  if deed.taken then deed.act.events else []

namespace Process

/-- After the deeds the process `p` is what `q` is. -/
inductive Follows : Process τ α → List (Deed τ) → Process τ α → Prop
  | refl (p : Process τ α) : Follows p [] p
  | head {act : Act τ} {next : act.Answer → Process τ α} {answer : act.Answer}
      {deeds : List (Deed τ)} {q : Process τ α} (taken : Bool) (h : Follows (next answer) deeds q) :
      Follows (doing act next) (⟨act, answer, taken⟩ :: deeds) q

/-- A process that has come to an act goes on by the answer. -/
theorem Follows.concat {p : Process τ α} {deeds : List (Deed τ)} {act : Act τ}
    {next : act.Answer → Process τ α} (h : p.Follows deeds (doing act next)) (answer : act.Answer)
    (taken : Bool) : p.Follows (deeds ++ [⟨act, answer, taken⟩]) (next answer) := by
  generalize hq : doing act next = q at h
  induction h with
  | refl p =>
    subst hq
    exact .head taken (.refl _)
  | head t _ ih => exact .head t (ih hq)

/-- **The answers that a process has got determine how it goes on.** -/
theorem Follows.unique {p q q' : Process τ α} {deeds : List (Deed τ)} (h : p.Follows deeds q)
    (h' : p.Follows deeds q') : q = q' := by
  induction h with
  | refl p =>
    cases h'
    rfl
  | head t _ ih =>
    cases h' with
    | head _ h' => exact ih h'

/-- **On a rig with a log, what is added to the log is what the process has sent and the device has
taken.** -/
theorem follows_run {rig : Rig σ τ} {log : σ → List Event} (hl : rig.Logs log) (p : Process τ α)
    (s : σ) : ∃ deeds, p.Follows deeds (.ended (outcome (p.run rig s))) ∧
      log (left (p.run rig s)) = log s ++ deeds.flatMap Deed.events := by
  induction p generalizing s with
  | ended outcome =>
    refine ⟨[], ?_, ?_⟩
    · cases outcome <;> exact .refl _
    · cases outcome <;> exact (List.append_nil _).symm
  | doing act next ih =>
    have hact : ∃ taken, log (rig.answer act s).2 =
        log s ++ (Deed.mk act (rig.answer act s).1 taken).events := by
      cases act with
      | now => exact ⟨false, (hl.now s).trans (List.append_nil _).symm⟩
      | wait span => exact ⟨false, (hl.wait span s).trans (List.append_nil _).symm⟩
      | ask => exact ⟨false, (List.append_nil _).symm⟩
      | note notice => exact ⟨false, (hl.note notice s).trans (List.append_nil _).symm⟩
      | send event =>
        cases hs : rig.send event s with
        | ok _ s' =>
          refine ⟨true, ?_⟩
          simp only [Rig.answer, hs]
          exact hl.taken event s s' hs
        | error failure s' =>
          refine ⟨false, ?_⟩
          simp only [Rig.answer, hs]
          exact (hl.refused event s failure s' hs).trans (List.append_nil _).symm
    obtain ⟨taken, hact⟩ := hact
    obtain ⟨deeds, hfollows, hlog⟩ := ih (rig.answer act s).1 (rig.answer act s).2
    refine ⟨⟨act, _, taken⟩ :: deeds, .head taken hfollows, ?_⟩
    change log (left ((next (rig.answer act s).1).run rig (rig.answer act s).2)) = _
    rw [hlog, hact, List.flatMap_cons, List.append_assoc]

end Process

end FrameScript
