import FrameScript.Proofs.Playback.Process
import Mathlib.Logic.Relation

/-!
# Callers that share a scheduler

Any number of callers ask a scheduler for runs, at any time, also from inside the device. `Traffic`
is what has become of their calls so far: the desk with the device, of which the world is the log of
events, and an entry for each call, in the order in which the calls were made. `Step` says what may
happen next: somebody asks for a run, which `Desk.acquire` lets in or refuses, or a call that was
let in takes a turn (`Turn`). An act of a run takes two turns at least, so that anything may happen
while it goes on, and nothing is said of what comes of it.

## Results

* `Turn.effect`: what a turn can do to the desk and to the events of its call.
* `Turn.isOwn`: a call does what its own process does, whatever the others do.
* `plays_of_follows`: a call that plays along its process takes turns with the device.
* `Scheduler.serve_of_not_owned`: the runs of a scheduler are those of the processes, with the
  device.
* `reaches_serve`: **a call of a scheduler on a rig, from its beginning to its end, is traffic.**
-/

namespace FrameScript

variable {σ τ : Type}

/-- What a scheduler can be asked for: a quick run, a timed one, and a timed one with a worker of
its own. -/
inductive Scheduler.Call where
  | quick (instructions : List Instruction)
  | timed (instructions : List Instruction)
  | start (instructions : List Instruction)

/-- A timed run, which takes a period that the clock can count. -/
def Process.timedWith [Timeline τ] (compiler : Compiler) (period : Option (Period τ))
    (instructions : List Instruction) : Process τ (Report τ) :=
  match period with
  | some period => timed compiler period instructions
  | none => ended (.error .hugeSpan)

/-- The run that a call asks for. -/
def Scheduler.Call.process [Timeline τ] (compiler : Compiler) (period : Option (Period τ)) :
    Scheduler.Call → Process τ (Report τ)
  | quick instructions => .quick compiler instructions
  | timed instructions => .timedWith compiler period instructions
  | start instructions => (Process.timedWith compiler period instructions).noteStop

/-! ## Calls and turns -/

/-- How far a call has come: it was let in and does not play yet; it plays, and is between two acts
or within one, of which the device may have taken the event; it has given the device back; who
waits for it knows the outcome; or it was refused. -/
inductive Phase (τ : Type) where
  | opened
  | playing (rest : Process τ (Report τ))
  | within (act : Act τ) (taken : Bool) (next : act.Answer → Process τ (Report τ))
  | left (outcome : Except Failure (Report τ))
  | settled (outcome : Except Failure (Report τ))
  | refused (failure : Failure)

namespace Phase

/-- Whether a call has the device. -/
def holds : Phase τ → Bool
  | opened | playing _ | within .. => true
  | left _ | settled _ | refused _ => false

/-- Whether a call was refused. -/
def isRefused : Phase τ → Bool
  | refused _ => true
  | _ => false

/-- The events that the device has taken within an act that goes on. -/
def events : Phase τ → List Event
  | within act true _ => act.events
  | _ => []

theorem holds_eq_false_of_isRefused {phase : Phase τ} (h : phase.isRefused = true) :
    phase.holds = false := by
  cases phase <;> first | rfl | cases h

end Phase

/-- A call, what its run has done, and how far it has come. -/
structure Entry (τ : Type) where
  call : Scheduler.Call
  deeds : List (Deed τ)
  phase : Phase τ

/-- The events of a call that the device has taken. -/
def Entry.events (entry : Entry τ) : List Event :=
  entry.deeds.flatMap Deed.events ++ entry.phase.events

section Turns

variable [Timeline τ]

/-- What a call has done so far is what its own process does, given the answers that it got. A call
that fails before it plays does nothing. -/
def Entry.IsOwn (compiler : Compiler) (period : Option (Period τ)) (entry : Entry τ) : Prop :=
  match entry.phase with
  | .opened => entry.deeds = []
  | .playing rest => (entry.call.process compiler period).Follows entry.deeds rest
  | .within act _ next =>
    (entry.call.process compiler period).Follows entry.deeds (.doing act next)
  | .left outcome | .settled outcome =>
    (entry.call.process compiler period).Follows entry.deeds (.ended outcome) ∨
      entry.deeds = [] ∧ ∃ failure, outcome = .error failure
  | .refused failure => entry.deeds = [] ∧ failure = .busy

/-- A turn of a call: the desk and the entry before it, and after it. -/
inductive Turn (compiler : Compiler) (period : Option (Period τ)) :
    Desk (List Event) → Entry τ → Desk (List Event) → Entry τ → Prop
  | begin (desk : Desk (List Event)) (call : Scheduler.Call) (deeds : List (Deed τ)) :
      Turn compiler period desk ⟨call, deeds, .opened⟩
        desk ⟨call, deeds, .playing (call.process compiler period)⟩
  | balk (desk : Desk (List Event)) (call : Scheduler.Call) (deeds : List (Deed τ))
      (failure : Failure) :
      Turn compiler period desk ⟨call, deeds, .opened⟩
        desk.release ⟨call, deeds, .left (.error failure)⟩
  | undertake (desk : Desk (List Event)) (call : Scheduler.Call) (deeds : List (Deed τ))
      (act : Act τ) (next : act.Answer → Process τ (Report τ)) :
      Turn compiler period desk ⟨call, deeds, .playing (.doing act next)⟩
        desk ⟨call, deeds, .within act false next⟩
  | take (desk : Desk (List Event)) (call : Scheduler.Call) (deeds : List (Deed τ))
      (act : Act τ) (next : act.Answer → Process τ (Report τ)) :
      Turn compiler period desk ⟨call, deeds, .within act false next⟩
        { desk with world := desk.world ++ act.events } ⟨call, deeds, .within act true next⟩
  | conclude (desk : Desk (List Event)) (call : Scheduler.Call) (deeds : List (Deed τ))
      (act : Act τ) (taken : Bool) (next : act.Answer → Process τ (Report τ))
      (answer : act.Answer) :
      Turn compiler period desk ⟨call, deeds, .within act taken next⟩
        desk ⟨call, deeds ++ [⟨act, answer, taken⟩], .playing (next answer)⟩
  | leave (desk : Desk (List Event)) (call : Scheduler.Call) (deeds : List (Deed τ))
      (outcome : Except Failure (Report τ)) :
      Turn compiler period desk ⟨call, deeds, .playing (.ended outcome)⟩
        desk.release ⟨call, deeds, .left outcome⟩
  | settle (desk : Desk (List Event)) (call : Scheduler.Call) (deeds : List (Deed τ))
      (outcome : Except Failure (Report τ)) :
      Turn compiler period desk ⟨call, deeds, .left outcome⟩
        desk ⟨call, deeds, .settled outcome⟩

/-- A call that was refused has sent nothing. -/
theorem events_eq_nil_of_isRefused {entry : Entry τ} (ho : entry.IsOwn compiler period)
    (h : entry.phase.isRefused = true) : entry.events = [] := by
  obtain ⟨call, deeds, phase⟩ := entry
  cases phase with
  | refused failure =>
    obtain ⟨hdeeds, -⟩ := ho
    change deeds = [] at hdeeds
    rw [hdeeds]
    rfl
  | _ => cases h

variable {compiler : Compiler} {period : Option (Period τ)} {desk desk' : Desk (List Event)}
  {entry entry' : Entry τ}

/-- **What a turn can do**: while the call has the device, it adds to its events what it adds to the
log, and the desk stays as owned as it was; or it gives the device back; or it does not have the
device and leaves the desk alone. -/
theorem Turn.effect (h : Turn compiler period desk entry desk' entry') :
    (entry.phase.holds = true ∧ entry'.phase.holds = true ∧ desk'.owned = desk.owned ∧
      ∃ sent, desk'.world = desk.world ++ sent ∧ entry'.events = entry.events ++ sent) ∨
    (entry.phase.holds = true ∧ desk' = desk.release ∧
      (∃ outcome, entry' = { entry with phase := .left outcome }) ∧
      entry'.events = entry.events) ∨
    (entry.phase.holds = false ∧ entry'.phase.holds = false ∧ desk' = desk ∧
      entry'.events = entry.events) := by
  cases h with
  | begin call deeds =>
    exact Or.inl ⟨rfl, rfl, rfl, [], (List.append_nil _).symm, (List.append_nil _).symm⟩
  | balk call deeds failure => exact Or.inr (Or.inl ⟨rfl, rfl, ⟨_, rfl⟩, rfl⟩)
  | undertake call deeds act next =>
    exact Or.inl ⟨rfl, rfl, rfl, [], (List.append_nil _).symm, (List.append_nil _).symm⟩
  | take call deeds act next =>
    refine Or.inl ⟨rfl, rfl, rfl, act.events, rfl, ?_⟩
    simp only [Entry.events, Phase.events, List.append_nil]
  | conclude call deeds act taken next answer =>
    refine Or.inl ⟨rfl, rfl, rfl, [], (List.append_nil _).symm, ?_⟩
    simp only [Entry.events, List.flatMap_append, List.flatMap_singleton, List.append_nil]
    cases taken <;> simp [Phase.events, Deed.events]
  | leave call deeds outcome => exact Or.inr (Or.inl ⟨rfl, rfl, ⟨_, rfl⟩, rfl⟩)
  | settle call deeds outcome => exact Or.inr (Or.inr ⟨rfl, rfl, rfl, rfl⟩)

/-- A call that was refused takes no turn, and no turn makes a call refused. -/
theorem Turn.not_refused (h : Turn compiler period desk entry desk' entry') :
    entry.phase.isRefused = false ∧ entry'.phase.isRefused = false := by
  cases h <;> exact ⟨rfl, rfl⟩

/-- No turn takes the device. -/
theorem Turn.holds_of_holds (h : Turn compiler period desk entry desk' entry')
    (hh : entry'.phase.holds = true) : entry.phase.holds = true := by
  rcases h.effect with ⟨hb, -⟩ | ⟨hb, -⟩ | ⟨-, ha, -⟩
  · exact hb
  · exact hb
  · rw [ha] at hh
    cases hh

theorem Turn.isOwn (h : Turn compiler period desk entry desk' entry')
    (ho : entry.IsOwn compiler period) : entry'.IsOwn compiler period := by
  cases h with
  | begin call deeds =>
    obtain rfl : deeds = [] := ho
    exact .refl _
  | balk call deeds failure => exact Or.inr ⟨ho, failure, rfl⟩
  | undertake call deeds act next => exact ho
  | take call deeds act next => exact ho
  | conclude call deeds act taken next answer => exact ho.concat answer taken
  | leave call deeds outcome => exact Or.inl ho
  | settle call deeds outcome => exact ho

/-- A turn after which the call still has the device. -/
def Plays (compiler : Compiler) (period : Option (Period τ))
    (x x' : Desk (List Event) × Entry τ) : Prop :=
  Turn compiler period x.1 x.2 x'.1 x'.2 ∧ x'.2.phase.holds = true

/-- A call that plays along its process takes turns with the device, and logs what it sends. -/
theorem plays_of_follows {p q : Process τ (Report τ)} {deeds : List (Deed τ)}
    (h : p.Follows deeds q) (desk : Desk (List Event)) (call : Scheduler.Call)
    (done : List (Deed τ)) :
    Relation.ReflTransGen (Plays compiler period) (desk, ⟨call, done, .playing p⟩)
      ({ desk with world := desk.world ++ deeds.flatMap Deed.events },
        ⟨call, done ++ deeds, .playing q⟩) := by
  induction h generalizing desk done with
  | refl p =>
    simp only [List.flatMap_nil, List.append_nil]
    exact .refl
  | @head act next answer deeds q taken _ ih =>
    have hbegin : Plays compiler period (desk, ⟨call, done, .playing (.doing act next)⟩)
        (desk, ⟨call, done, .within act false next⟩) := ⟨.undertake desk call done act next, rfl⟩
    have htaken : Relation.ReflTransGen (Plays compiler period)
        (desk, ⟨call, done, .within act false next⟩)
        ({ desk with world := desk.world ++ (Deed.mk act answer taken).events },
          ⟨call, done, .within act taken next⟩) := by
      cases taken with
      | false =>
        simp only [Deed.events, Bool.false_eq_true, if_false, List.append_nil]
        exact .refl
      | true => exact .single ⟨.take desk call done act next, rfl⟩
    have hend := ih { desk with world := desk.world ++ (Deed.mk act answer taken).events }
      (done ++ [⟨act, answer, taken⟩])
    simp only [List.append_assoc, List.singleton_append] at hend
    rw [List.flatMap_cons]
    exact (((Relation.ReflTransGen.single hbegin).trans htaken).tail
      ⟨.conclude _ call done act taken next answer, rfl⟩).trans hend

end Turns

/-! ## Traffic -/

/-- The desk with the device, and the calls that were made, in their order. -/
structure Traffic (τ : Type) where
  desk : Desk (List Event)
  entries : List (Entry τ)

namespace Traffic

/-- Before the first call. -/
def start : Traffic τ :=
  ⟨⟨false, []⟩, []⟩

/-- Somebody asks for a run. -/
def ask (traffic : Traffic τ) (call : Scheduler.Call) : Traffic τ :=
  match Desk.acquire traffic.desk with
  | .ok _ desk => ⟨desk, traffic.entries ++ [⟨call, [], .opened⟩]⟩
  | .error failure desk => ⟨desk, traffic.entries ++ [⟨call, [], .refused failure⟩]⟩

theorem ask_of_owned {traffic : Traffic τ} (h : traffic.desk.owned = true)
    (call : Scheduler.Call) :
    traffic.ask call = ⟨traffic.desk, traffic.entries ++ [⟨call, [], .refused .busy⟩]⟩ := by
  simp only [ask, Desk.acquire, h, if_true]

theorem ask_of_not_owned {traffic : Traffic τ} (h : traffic.desk.owned = false)
    (call : Scheduler.Call) :
    traffic.ask call =
      ⟨{ traffic.desk with owned := true }, traffic.entries ++ [⟨call, [], .opened⟩]⟩ := by
  simp only [ask, Desk.acquire, h, Bool.false_eq_true, if_false]

variable [Timeline τ]

/-- What may happen next: somebody asks for a run, or a call takes a turn. -/
inductive Step (compiler : Compiler) (period : Option (Period τ)) : Traffic τ → Traffic τ → Prop
  | ask (traffic : Traffic τ) (call : Scheduler.Call) :
      Step compiler period traffic (traffic.ask call)
  | turn {desk desk' : Desk (List Event)} {entry entry' : Entry τ} (before after : List (Entry τ))
      (h : Turn compiler period desk entry desk' entry') :
      Step compiler period ⟨desk, before ++ entry :: after⟩ ⟨desk', before ++ entry' :: after⟩

/-- What may come about, in any number of steps. -/
abbrev Reaches (compiler : Compiler) (period : Option (Period τ)) : Traffic τ → Traffic τ → Prop :=
  Relation.ReflTransGen (Step compiler period)

/-- The calls that were let in. -/
def accepted (traffic : Traffic τ) : List (Entry τ) :=
  traffic.entries.filter fun entry => !entry.phase.isRefused

end Traffic

/-! ## Calls on a rig -/

namespace Scheduler

variable [Timeline τ] {scheduler : Scheduler σ τ}

open Reading

/-- What comes of a call, from its beginning to its end, and the desk that it leaves. -/
def serve (scheduler : Scheduler σ τ) (desk : Desk σ) :
    Call → Except Failure (Report τ) × Desk σ
  | .quick instructions =>
    (outcome (scheduler.runQuick instructions desk), left (scheduler.runQuick instructions desk))
  | .timed instructions =>
    (outcome (scheduler.runTimed instructions desk), left (scheduler.runTimed instructions desk))
  | .start instructions =>
    match scheduler.start instructions desk with
    | .ok run desk => (run.outcome, desk)
    | .error failure desk => (.error failure, desk)

theorem run_timedWith (instructions : List Instruction) :
    (Process.timedWith scheduler.compiler scheduler.period instructions).run scheduler.rig =
      scheduler.timed instructions := by
  unfold Process.timedWith timed
  cases scheduler.period with
  | some period => exact Process.run_timed scheduler.compiler period instructions
  | none => rfl

omit [Timeline τ] in
theorem outcome_exclusively (body : EStateM Failure (Desk σ) (Report τ)) {desk : Desk σ}
    (h : desk.owned = false) :
    outcome (Desk.exclusively body desk) = outcome (body { desk with owned := true }) ∧
      left (Desk.exclusively body desk) = (left (body { desk with owned := true })).release := by
  simp only [Desk.exclusively, Desk.acquire, h, Bool.false_eq_true, if_false]
  cases body { desk with owned := true } <;> exact ⟨rfl, rfl⟩

/-- **Where the device is free, a call runs its process with the device**, and gives it back. -/
theorem serve_of_not_owned {desk : Desk σ} (h : desk.owned = false) (call : Call) :
    scheduler.serve desk call =
      let result := (call.process scheduler.compiler scheduler.period).run scheduler.rig
        { desk with owned := true }
      (outcome result, (left result).release) := by
  cases call with
  | quick instructions =>
    obtain ⟨ho, hl⟩ :=
      outcome_exclusively (scheduler.rig.quick scheduler.compiler instructions) h
    rw [serve, runQuick, ho, hl, ← Process.run_quick]
    rfl
  | timed instructions =>
    obtain ⟨ho, hl⟩ := outcome_exclusively (scheduler.timed instructions) h
    rw [serve, runTimed, ho, hl, ← run_timedWith]
    rfl
  | start instructions =>
    simp only [serve, start, Desk.acquire, h, Bool.false_eq_true, if_false, work, Call.process,
      Process.run_noteStop, run_timedWith]
    cases scheduler.timed instructions { desk with owned := true } <;> rfl

/-- Where the device is not free, a call is refused. -/
theorem serve_of_owned {desk : Desk σ} (h : desk.owned = true) (call : Call) :
    scheduler.serve desk call = (.error .busy, desk) := by
  cases call with
  | quick instructions =>
    rw [serve, runQuick, Desk.exclusively_of_owned _ h]
    rfl
  | timed instructions =>
    rw [serve, runTimed, Desk.exclusively_of_owned _ h]
    rfl
  | start instructions => simp only [serve, start, Desk.acquire, h, if_true]

end Scheduler

namespace Traffic

open Reading

variable [Timeline τ] {compiler : Compiler} {period : Option (Period τ)}

/-- A call plays along its process, undisturbed. -/
theorem reaches_of_follows {p q : Process τ (Report τ)} {deeds : List (Deed τ)}
    (h : p.Follows deeds q) (desk : Desk (List Event)) (entries : List (Entry τ))
    (call : Scheduler.Call) (done : List (Deed τ)) :
    Reaches compiler period ⟨desk, entries ++ [⟨call, done, .playing p⟩]⟩
      ⟨{ desk with world := desk.world ++ deeds.flatMap Deed.events },
        entries ++ [⟨call, done ++ deeds, .playing q⟩]⟩ := by
  have hstep (x x' : Desk (List Event) × Entry τ) (hplay : Plays compiler period x x') :
      Step compiler period ⟨x.1, entries ++ [x.2]⟩ ⟨x'.1, entries ++ [x'.2]⟩ :=
    .turn entries [] hplay.1
  exact (plays_of_follows h desk call done).lift
    (fun x => (⟨x.1, entries ++ [x.2]⟩ : Traffic τ)) hstep

/-- **A call of a scheduler on a rig, from its beginning to its end, is traffic**: on a rig with a
log, what comes of the call and the log that it leaves are those of a call that was let in and
plays undisturbed, or that was refused. -/
theorem reaches_serve {scheduler : Scheduler σ τ} {log : σ → List Event}
    (hl : scheduler.rig.Logs fun desk => log desk.world) (desk : Desk σ)
    (entries : List (Entry τ)) (call : Scheduler.Call) :
    ∃ deeds, Reaches scheduler.compiler scheduler.period ⟨⟨desk.owned, log desk.world⟩, entries⟩
      ⟨⟨(scheduler.serve desk call).2.owned, log (scheduler.serve desk call).2.world⟩,
        entries ++ [⟨call, deeds,
          if desk.owned then .refused .busy else .settled (scheduler.serve desk call).1⟩]⟩ := by
  cases ho : desk.owned with
  | true =>
    rw [Scheduler.serve_of_owned ho, ho]
    exact ⟨[], .single (.ask ⟨⟨true, log desk.world⟩, entries⟩ call)⟩
  | false =>
    rw [Scheduler.serve_of_not_owned ho]
    obtain ⟨deeds, hfollows, hlog⟩ := Process.follows_run hl
      (call.process scheduler.compiler scheduler.period) { desk with owned := true }
    refine ⟨deeds, ?_⟩
    have hask : Reaches scheduler.compiler scheduler.period ⟨⟨false, log desk.world⟩, entries⟩
        ⟨⟨true, log desk.world⟩, entries ++ [⟨call, [], .opened⟩]⟩ :=
      .single (.ask ⟨⟨false, log desk.world⟩, entries⟩ call)
    have hbegin := hask.tail (.turn entries [] (.begin _ call []))
    have hplay := hbegin.trans (reaches_of_follows hfollows _ entries call [])
    have hleave := hplay.tail (.turn entries [] (.leave _ call _ _))
    have hsettle := hleave.tail (.turn entries [] (.settle _ call _ _))
    simp only [Bool.false_eq_true, if_false, Desk.release] at hsettle ⊢
    rw [hlog]
    exact hsettle

end Traffic

end FrameScript
