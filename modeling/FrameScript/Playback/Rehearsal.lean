import FrameScript.Playback.Scheduler

/-!
# Rehearsals

A rehearsal plays on a made-up rig: a clock that stands still unless it is waited for or the device
takes its time, and a device that records what it is sent. A plan says how late the waits are,
which wait breaks the clock, which events the device rejects, whether it also writes down what it
takes, and on which events something else happens: the run is cancelled, another run is asked for,
or the device holds on.
-/

namespace FrameScript

/-- An event by its name and its code. -/
abbrev Trigger := String × Int

/-- Whether an event is the one that a trigger names. -/
def Trigger.fits (trigger : Trigger) (event : Event) : Bool :=
  trigger.1 = event.name && trigger.2 = event.code

/-- A rule of a device that rejects events: which, and how often. A negative number means
always. -/
structure Rejection where
  trigger : Trigger
  times : Int

/-- How a rehearsal is to go. Times are in thousandths. -/
structure Rehearsal (τ : Type) where
  lateness : List τ
  brokenAt : Option Nat
  cost : τ
  writes : Bool
  cancelOn : Option Trigger
  reenterOn : Option Trigger
  holdOn : Option Trigger

namespace Rehearsal

/-- What happens while the device holds on: others look on, and one of them may cancel. -/
inductive Hold where
  | look
  | cancel
  deriving DecidableEq

/-- What others saw while the device held on: whether it was owned, what was answered to those who
asked for a quick run and for a started one, and whether they cancelled. Nothing in a rehearsal
looks at it again; it is for hosts. -/
structure Sight where
  owned : Bool
  quick : Option Failure
  start : Option Failure
  cancelled : Bool

/-- The state of a rehearsal: the time; the waits of the run, newest first, and their number;
whether the run is to be cancelled; the events of the run, newest first; what is held; the rules
that are left; who waits for the device to hold on, and what was seen when it did; and the notices,
newest first. -/
structure World (τ : Type) where
  time : τ
  waits : List τ
  waitCount : Nat
  cancelled : Bool
  events : List Event
  held : Held
  rejections : List Rejection
  hold : Option Hold
  sight : Option Sight
  notices : List (Notice τ)

/-- The world before the first run. -/
def World.start {τ : Type} (time : τ) (rejections : List Rejection) : World τ :=
  { time, waits := [], waitCount := 0, cancelled := false, events := [], held := .released
    rejections, hold := none, sight := none, notices := [] }

/-- The world before a further run, for hosts that rehearse several. -/
def World.next {τ : Type} (world : World τ) (cancelled : Bool) (hold : Option Hold) : World τ :=
  { world with waits := [], waitCount := 0, cancelled, events := [], hold, sight := none }

/-- Uses up the first rule that rejects an event. -/
def reject? (event : Event) : List Rejection → Option (List Rejection)
  | [] => none
  | rule :: rest =>
    if rule.trigger.fits event && rule.times ≠ 0 then
      some ({ rule with times := rule.times - 1 } :: rest)
    else (reject? event rest).map (rule :: ·)

variable {τ : Type} [Timeline τ]

/-- What somebody is answered who asks for a run. -/
def refusal (desk : Desk (World τ)) : Option Failure :=
  if desk.owned then some .busy else none

/-- Waiting for a span of time. -/
def waitFor (plan : Rehearsal τ) (span : τ) : EStateM Failure (Desk (World τ)) Bool :=
  fun desk =>
  let world := desk.world
  let index := world.waitCount
  let noted := { world with waits := span :: world.waits, waitCount := index + 1 }
  if plan.brokenAt = some index then
    .error (.device "clock failure") { desk with world := noted }
  else if world.cancelled then .ok true { desk with world := noted }
  else
    let waited := world.time + Timeline.later (Timeline.ofNat 0) span
    match plan.lateness[index]? with
    | none => .ok false { desk with world := { noted with time := waited } }
    | some late =>
      .ok false { desk with world := { noted with time := waited + Timeline.ofMillis late } }

/-- The world after the device has taken an event, which may cancel the run. -/
def World.take (plan : Rehearsal τ) (event : Event) (world : World τ) : World τ :=
  { world with
    events := event :: world.events
    held := world.held.step event
    notices := .sent event :: world.notices
    time := world.time + Timeline.ofMillis plan.cost
    cancelled := world.cancelled || plan.cancelOn.any (·.fits event) }

/-- The device holds on if somebody waits for that: others look on and may cancel. -/
def holdOn? (plan : Rehearsal τ) (event : Event) (desk : Desk (World τ)) : Desk (World τ) :=
  match desk.world.hold with
  | none => desk
  | some hold =>
    if plan.holdOn.any (·.fits event) then
      let sight : Sight :=
        ⟨desk.owned, refusal desk, refusal desk, hold = .cancel⟩
      let world := { desk.world with hold := none, sight := some sight }
      { desk with
        world :=
          if hold = .cancel then
            { world with cancelled := true, notices := .lingering :: world.notices }
          else world }
    else desk

/-- Sending an event. -/
def deliver (plan : Rehearsal τ) (event : Event) : EStateM Failure (Desk (World τ)) Unit :=
  fun desk =>
    match reject? event desk.world.rejections with
    | some rejections =>
      .error (.device s!"device rejected {event.name} {event.code}")
        { desk with world := { desk.world with rejections } }
    | none =>
      if plan.writes && !event.isWritable then .error .longNumber desk else
      let desk := { desk with world := desk.world.take plan event }
      match if plan.reenterOn.any (·.fits event) then refusal desk else none with
      | some failure => .error failure desk
      | none => .ok () (plan.holdOn? event desk)

/-- The rig of a rehearsal. -/
def rig (plan : Rehearsal τ) : Rig (Desk (World τ)) τ where
  now := fun desk => .ok desk.world.time desk
  wait := plan.waitFor
  send := plan.deliver
  isCancelled desk := desk.world.cancelled
  note notice desk := { desk with world := { desk.world with
    notices := notice :: desk.world.notices } }

/-- A rehearsal in which nothing is planned to go wrong or to take time. -/
def smooth (writes : Bool) : Rehearsal τ :=
  { lateness := [], brokenAt := none, cost := Timeline.ofNat 0, writes, cancelOn := none,
    reenterOn := none, holdOn := none }

end Rehearsal

end FrameScript
