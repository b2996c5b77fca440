import FrameScript.Proofs.Playback.Process

/-!
# Runs that are watched

What a run does to its surroundings can be told from the world only if the world keeps record of it.
A watched rig does what the rig does, and keeps record beside the world: of the events that the
device has taken without failing, and of how often the clock was waited for.

## Results

* `Process.run_watched`: **nothing goes differently because it is watched**, whatever the run and
  the rig.
* `Rig.logs_watched`, `Rig.tallies_watched`: what is kept is a log of the device, and the number of
  waits.
-/

namespace FrameScript

open Reading

variable {σ τ α : Type}

/-- A world, how often the clock was waited for, and what the device has taken. -/
structure Watch (σ : Type) where
  world : σ
  waits : Nat
  taken : List Event

namespace Watch

/-- The watch begins. -/
def start (s : σ) : Watch σ :=
  ⟨s, 0, []⟩

/-- Does something to the world and keeps no record of it. -/
def unrecorded (x : EStateM Failure σ α) : EStateM Failure (Watch σ) α := fun w =>
  match x w.world with
  | .ok a s => .ok a { w with world := s }
  | .error failure s => .error failure { w with world := s }

/-- An outcome without the record. -/
def unwatched : EStateM.Result Failure (Watch σ) α → EStateM.Result Failure σ α
  | .ok a w => .ok a w.world
  | .error failure w => .error failure w.world

theorem outcome_unrecorded (x : EStateM Failure σ α) (w : Watch σ) :
    outcome (unrecorded x w) = outcome (x w.world) := by
  unfold unrecorded
  cases x w.world <;> rfl

theorem left_unrecorded (x : EStateM Failure σ α) (w : Watch σ) :
    left (unrecorded x w) = { w with world := left (x w.world) } := by
  unfold unrecorded
  cases x w.world <;> rfl

end Watch

namespace Rig

/-- The rig, watched. -/
def watched (rig : Rig σ τ) : Rig (Watch σ) τ where
  now := Watch.unrecorded rig.now
  wait span w := Watch.unrecorded (rig.wait span) { w with waits := w.waits + 1 }
  send event w :=
    match Watch.unrecorded (rig.send event) w with
    | .ok _ w => .ok () { w with taken := w.taken ++ [event] }
    | .error failure w => .error failure w
  isCancelled w := rig.isCancelled w.world
  note notice w := { w with world := rig.note notice w.world }

/-- `waits` tells how often the clock of the rig was waited for. -/
structure Tallies (rig : Rig σ τ) (waits : σ → Nat) : Prop where
  now : ∀ s, waits (left (rig.now s)) = waits s
  wait : ∀ span s, waits (left (rig.wait span s)) = waits s + 1
  note : ∀ notice s, waits (rig.note notice s) = waits s
  send : ∀ event s, waits (left (rig.send event s)) = waits s

variable {rig : Rig σ τ} {w : Watch σ}

theorem Tallies.now_eq {waits : σ → Nat} (ht : rig.Tallies waits) {time : τ} {s s' : σ}
    (hn : rig.now s = .ok time s') : waits s' = waits s := by
  have := ht.now s
  rw [hn] at this
  exact this

theorem Tallies.wait_eq {waits : σ → Nat} (ht : rig.Tallies waits) {span : τ} {answer : Bool}
    {s s' : σ} (hw : rig.wait span s = .ok answer s') : waits s' = waits s + 1 := by
  have := ht.wait span s
  rw [hw] at this
  exact this

theorem logs_watched : rig.watched.Logs Watch.taken where
  now s := by
    show (left (Watch.unrecorded rig.now s)).taken = s.taken
    rw [Watch.left_unrecorded]
  wait span s := by
    show (left (Watch.unrecorded (rig.wait span) { s with waits := s.waits + 1 })).taken = s.taken
    rw [Watch.left_unrecorded]
  note _ _ := rfl
  taken event s s' h := by
    simp only [watched, Watch.unrecorded] at h
    cases hs : rig.send event s.world with
    | ok _ t =>
      rw [hs] at h
      rw [← (EStateM.Result.ok.inj h).2]
    | error failure t =>
      rw [hs] at h
      cases h
  refused event s failure s' h := by
    simp only [watched, Watch.unrecorded] at h
    cases hs : rig.send event s.world with
    | ok _ t =>
      rw [hs] at h
      cases h
    | error failure t =>
      rw [hs] at h
      rw [← (EStateM.Result.error.inj h).2]

theorem left_send_watched (event : Event) :
    (left (rig.watched.send event w)).world = left (rig.send event w.world) ∧
      (left (rig.watched.send event w)).waits = w.waits := by
  simp only [watched, Watch.unrecorded]
  cases rig.send event w.world <;> exact ⟨rfl, rfl⟩

theorem tallies_watched : rig.watched.Tallies Watch.waits where
  now s := by
    show (left (Watch.unrecorded rig.now s)).waits = s.waits
    rw [Watch.left_unrecorded]
  wait span s := by
    show (left (Watch.unrecorded (rig.wait span) { s with waits := s.waits + 1 })).waits =
      s.waits + 1
    rw [Watch.left_unrecorded]
  note _ _ := rfl
  send event s := (left_send_watched event).2

/-- An act is answered the same when it is watched, and leaves the same world. -/
theorem answer_watched (rig : Rig σ τ) (act : Act τ) (w : Watch σ) :
    (rig.watched.answer act w).1 = (rig.answer act w.world).1 ∧
      (rig.watched.answer act w).2.world = (rig.answer act w.world).2 := by
  cases act with
  | now =>
    exact ⟨Watch.outcome_unrecorded rig.now w,
      congrArg Watch.world (Watch.left_unrecorded rig.now w)⟩
  | wait span =>
    exact ⟨Watch.outcome_unrecorded (rig.wait span) _,
      congrArg Watch.world (Watch.left_unrecorded (rig.wait span) _)⟩
  | send event =>
    refine ⟨?_, (left_send_watched event).1⟩
    simp only [answer, watched, Watch.unrecorded]
    cases rig.send event w.world <;> rfl
  | ask => exact ⟨rfl, rfl⟩
  | note notice => exact ⟨rfl, rfl⟩

end Rig

/-- **Nothing goes differently because it is watched**: a run ends with the same outcome and leaves
the same world. -/
theorem Process.run_watched (rig : Rig σ τ) (p : Process τ α) (w : Watch σ) :
    Watch.unwatched (p.run rig.watched w) = p.run rig w.world := by
  induction p generalizing w with
  | ended outcome => cases outcome <;> rfl
  | doing act next ih =>
    obtain ⟨hanswer, hworld⟩ := Rig.answer_watched rig act w
    show Watch.unwatched ((next (rig.watched.answer act w).1).run rig.watched
      (rig.watched.answer act w).2) = _
    rw [ih, hanswer, hworld]
    rfl

/-- A timed run that has a report has the same one when it is watched. -/
theorem Rig.exists_watched_of_timed [Timeline τ] {rig : Rig σ τ} {compiler : Compiler}
    {period : Period τ} {instructions : List Instruction} {report : Report τ} {s s' : σ}
    (h : rig.timed compiler period instructions s = .ok report s') :
    ∃ watch : Watch σ,
      rig.watched.timed compiler period instructions (.start s) = .ok report watch ∧
      watch.world = s' := by
  have hsame := Process.run_watched rig (Process.timed compiler period instructions) (.start s)
  rw [Process.run_timed, Process.run_timed] at hsame
  change _ = rig.timed compiler period instructions s at hsame
  rw [h] at hsame
  cases hw : rig.watched.timed compiler period instructions (.start s) with
  | ok report' watch =>
    rw [hw] at hsame
    obtain ⟨rfl, rfl⟩ := EStateM.Result.ok.inj hsame
    exact ⟨watch, rfl, rfl⟩
  | error failure watch =>
    rw [hw] at hsame
    cases hsame

end FrameScript
