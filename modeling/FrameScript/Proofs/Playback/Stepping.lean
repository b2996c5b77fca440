import FrameScript.Playback.Quick
import FrameScript.Proofs.Playback.Beats

/-!
# Playing step by step

A `Player` leaves it to others when the next instruction is played. A step takes its instruction
whatever comes of it, so that the next step is about the next instruction even after a failure; only
a frame that can be compiled becomes the last frame.

Both kinds of runs are made of such steps. A quick run takes them one right after the other, until
there are none left, one has failed, or somebody wants to cancel. A timed run takes one in each
tick, and goes on after a failure; between the steps it deals with nothing but its clock and its
listener.

## Results

* `Player.Holds.step`, `Player.Takes.holds`: the position tells which instructions are left.
* `Rig.quickFrom_of_takes`: a quick run goes on from where the steps of a player have led.
* `Rig.quickFrom_takes`: **a quick run takes the steps of a player**, and ends where they end.
* `Rig.step_of_tick`: a tick takes one step of a player.
* `Rig.Beats.goes`: **a timed run takes the steps of a player**, as long as nobody cancels it.
-/

namespace FrameScript

variable {σ τ : Type} {rig : Rig σ τ} {compiler : Compiler}

/-! ## Steps -/

namespace Player

variable {player next last : Player} {instructions : List Instruction} {failure : Option Failure}
  {n : Nat} {s t u : σ}

/-- The player was loaded with the instructions, and has those left that begin at its position. -/
def Holds (player : Player) (instructions : List Instruction) : Prop :=
  player.rest = instructions.drop player.position

theorem holds_load (instructions : List Instruction) : (load instructions).Holds instructions :=
  rfl

/-- A player has a step to take unless nothing is left. -/
theorem step?_eq_none : player.step? rig compiler s = none ↔ player.rest = [] := by
  unfold step?
  cases player.rest with
  | nil => exact iff_of_true rfl rfl
  | cons instruction rest => exact iff_of_false (Option.some_ne_none _) (List.cons_ne_nil _ _)

/-- What a step does: it performs the next instruction after the last frame, and takes it. -/
theorem step?_eq_some (h : player.step? rig compiler s = some (next, failure, t)) :
    ∃ instruction, player.rest = instruction :: next.rest ∧
      next.position = player.position + 1 ∧
      rig.perform compiler player.previous instruction s = ⟨next.previous, failure, t⟩ := by
  unfold step? at h
  split at h
  · cases h
  · rename_i instruction rest hrest
    cases h
    exact ⟨instruction, hrest, rfl, rfl⟩

/-- **A step takes its instruction**, whatever comes of it. -/
theorem Holds.step (h : player.Holds instructions)
    (hs : player.step? rig compiler s = some (next, failure, t)) : next.Holds instructions := by
  obtain ⟨instruction, hrest, hposition, -⟩ := step?_eq_some hs
  unfold Holds at h ⊢
  rw [hposition, List.drop_add_one_eq_tail_drop, ← h, hrest, List.tail_cons]

/-- The player takes so many steps, one right after the other: none of them fails, and nobody wants
to cancel before any of them. -/
inductive Takes (rig : Rig σ τ) (compiler : Compiler) : Player → σ → Nat → Player → σ → Prop
  | none {player : Player} {s : σ} : Takes rig compiler player s 0 player s
  | step {player next last : Player} {n : Nat} {s t u : σ} (hc : rig.isCancelled s = false)
      (hs : player.step? rig compiler s = some (next, none, t))
      (h : Takes rig compiler next t n last u) : Takes rig compiler player s (n + 1) last u

theorem Takes.holds (h : Takes rig compiler player s n last u) (hp : player.Holds instructions) :
    last.Holds instructions := by
  induction h with
  | none => exact hp
  | step _ hs _ ih => exact ih (hp.step hs)

theorem Takes.position (h : Takes rig compiler player s n last u) :
    last.position = player.position + n := by
  induction h with
  | none => rfl
  | step _ hs _ ih =>
    obtain ⟨_, -, hposition, -⟩ := step?_eq_some hs
    rw [ih, hposition, Nat.add_assoc, Nat.add_comm 1]

/-- Why a player takes no further step of a quick run: nothing is left, or somebody wants to cancel,
or the next step fails. -/
inductive Stops (rig : Rig σ τ) (compiler : Compiler) (report : Report τ) :
    Player → σ → EStateM.Result Failure σ (Report τ) → Prop
  | ended {player : Player} {s : σ} (h : player.rest = []) :
      Stops rig compiler report player s (.ok report s)
  | cancelled {player : Player} {s : σ} (h : player.rest ≠ []) (hc : rig.isCancelled s = true) :
      Stops rig compiler report player s (.ok { report with cancelled := true } s)
  | failed {player next : Player} {failure : Failure} {s t : σ} (hc : rig.isCancelled s = false)
      (hs : player.step? rig compiler s = some (next, some failure, t)) :
      Stops rig compiler report player s (.error failure t)

end Player

/-! ## Quick runs -/

namespace Rig

variable {player next last : Player} {report : Report τ} {n : Nat} {s t : σ}

/-- A quick run takes the next step and goes on. -/
theorem quickFrom_of_step (hc : rig.isCancelled s = false)
    (hs : player.step? rig compiler s = some (next, none, t)) (report : Report τ) :
    rig.quickFrom compiler player.previous report player.rest s =
      rig.quickFrom compiler next.previous
        { report with ticks := report.ticks + 1, applied := report.applied + 1 } next.rest t := by
  obtain ⟨instruction, hrest, -, hperform⟩ := Player.step?_eq_some hs
  rw [hrest, quickFrom, if_neg (by rw [hc]; exact Bool.false_ne_true), hperform]

/-- A quick run ends with the next step if that fails. -/
theorem quickFrom_of_failed_step {failure : Failure} (hc : rig.isCancelled s = false)
    (hs : player.step? rig compiler s = some (next, some failure, t)) (report : Report τ) :
    rig.quickFrom compiler player.previous report player.rest s = .error failure t := by
  obtain ⟨instruction, hrest, -, hperform⟩ := Player.step?_eq_some hs
  rw [hrest, quickFrom, if_neg (by rw [hc]; exact Bool.false_ne_true), hperform]

/-- **A quick run goes on from where the steps of a player have led.** -/
theorem quickFrom_of_takes (h : Player.Takes rig compiler player s n last t) (report : Report τ) :
    rig.quickFrom compiler player.previous report player.rest s =
      rig.quickFrom compiler last.previous
        { report with ticks := report.ticks + n, applied := report.applied + n } last.rest t := by
  induction h generalizing report with
  | none => rfl
  | @step player next last n s t u hc hs _ ih =>
    rw [quickFrom_of_step hc hs, ih]
    simp only [Nat.add_assoc, Nat.add_comm n 1]

theorem quickFrom_of_stops {result : EStateM.Result Failure σ (Report τ)}
    (h : Player.Stops rig compiler report player s result) :
    rig.quickFrom compiler player.previous report player.rest s = result := by
  cases h with
  | ended hrest => rw [hrest, quickFrom]
  | cancelled hrest hc =>
    obtain ⟨instruction, rest, hsplit⟩ := List.exists_cons_of_ne_nil hrest
    rw [hsplit, quickFrom, if_pos hc]
  | failed hc hs => exact quickFrom_of_failed_step hc hs report

/-- A player takes steps until it stops. -/
theorem exists_takes (rig : Rig σ τ) (compiler : Compiler) (player : Player) (s : σ) :
    ∃ n last t, Player.Takes rig compiler player s n last t ∧
      ∀ report, ∃ result, Player.Stops rig compiler report last t result := by
  generalize hrest : player.rest = rest
  induction rest generalizing player s with
  | nil => exact ⟨0, player, s, .none, fun _ => ⟨_, .ended hrest⟩⟩
  | cons instruction rest ih =>
    have hleft : player.rest ≠ [] := by
      rw [hrest]
      exact List.cons_ne_nil _ _
    cases hc : rig.isCancelled s with
    | true => exact ⟨0, player, s, .none, fun _ => ⟨_, .cancelled hleft hc⟩⟩
    | false =>
      obtain ⟨⟨next, failure, t⟩, hs⟩ :=
        Option.ne_none_iff_exists'.mp fun hnone => hleft (Player.step?_eq_none.mp hnone)
      cases failure with
      | some failure => exact ⟨0, player, s, .none, fun _ => ⟨_, .failed hc hs⟩⟩
      | none =>
        obtain ⟨_, hsplit, -, -⟩ := Player.step?_eq_some hs
        rw [hrest] at hsplit
        obtain ⟨n, last, u, htakes, hstops⟩ := ih next t (List.cons.inj hsplit).2.symm
        exact ⟨n + 1, last, u, .step hc hs htakes, hstops⟩

/-- **A quick run takes the steps of a player.** It comes out as the player stops, and it has counted
the instructions that were taken until then. -/
theorem quickFrom_takes (rig : Rig σ τ) (compiler : Compiler) (instructions : List Instruction)
    (report : Report τ) (s : σ) :
    ∃ n last t, Player.Takes rig compiler (.load instructions) s n last t ∧
      last.rest = instructions.drop n ∧
      Player.Stops rig compiler
        { report with ticks := report.ticks + n, applied := report.applied + n } last t
        (rig.quickFrom compiler none report instructions s) := by
  obtain ⟨n, last, t, htakes, hstops⟩ := exists_takes rig compiler (.load instructions) s
  have hleft : last.rest = instructions.drop last.position :=
    htakes.holds (Player.holds_load instructions)
  rw [htakes.position, Player.load, Nat.zero_add] at hleft
  refine ⟨n, last, t, htakes, hleft, ?_⟩
  obtain ⟨result, hstop⟩ :=
    hstops { report with ticks := report.ticks + n, applied := report.applied + n }
  have hrun := quickFrom_of_takes htakes report
  rw [quickFrom_of_stops hstop] at hrun
  exact hrun ▸ hstop

/-! ## Timed runs -/

/-- Nothing happens but that the clock is asked, or waited for, and that notice is taken. -/
inductive Idles (rig : Rig σ τ) : σ → σ → Prop
  | refl {s : σ} : Idles rig s s
  | now {s t u : σ} {time : τ} (h : Idles rig s t) (hn : rig.now t = .ok time u) : Idles rig s u
  | wait {s t u : σ} {span : τ} (h : Idles rig s t) (hw : rig.wait span t = .ok false u) :
      Idles rig s u
  | note {s t : σ} (h : Idles rig s t) (notice : Notice τ) : Idles rig s (rig.note notice t)

theorem Idles.trans {u : σ} (h : rig.Idles s t) (h' : rig.Idles t u) : rig.Idles s u := by
  induction h' with
  | refl => exact h
  | now _ hn ih => exact ih.now hn
  | wait _ hw ih => exact ih.wait hw
  | note _ notice ih => exact ih.note notice

end Rig

/-- The player takes steps with these outcomes, and the rig idles before, between and after them. -/
inductive Player.Goes (rig : Rig σ τ) (compiler : Compiler) :
    Player → σ → List (Option Failure) → Player → σ → Prop
  | stay {player : Player} {s t : σ} (hi : rig.Idles s t) :
      Goes rig compiler player s [] player t
  | step {player next last : Player} {failure : Option Failure} {failures : List (Option Failure)}
      {s t u v : σ} (hi : rig.Idles s t)
      (hs : player.step? rig compiler t = some (next, failure, u))
      (h : Goes rig compiler next u failures last v) :
      Goes rig compiler player s (failure :: failures) last v

theorem Player.Goes.after_idle {player last : Player} {failures : List (Option Failure)}
    {s t u : σ} (hi : rig.Idles s t) (h : Player.Goes rig compiler player t failures last u) :
    Player.Goes rig compiler player s failures last u := by
  cases h with
  | stay hi' => exact .stay (hi.trans hi')
  | step hi' hs h => exact .step (hi.trans hi') hs h

/-- A player that stands where a timed run does, with the instructions that are left. -/
def Pace.player (pace : Pace τ) (rest : List Instruction) : Player :=
  ⟨rest, pace.report.ticks, pace.previous⟩

namespace Rig

variable [Timeline τ] {period : Period τ} {due started : τ} {pace pace' : Pace τ}
  {instruction : Instruction} {instructions : List Instruction} {beats : List (Beat σ τ)} {s s' : σ}

/-- **A tick takes one step of a player** that stands where the run does, which brings the player to
where the run goes on. -/
theorem step_of_tick (h : rig.tick compiler period due pace instruction s = .ok pace' s')
    (rest : List Instruction) :
    ∃ t u fate, rig.Idles s t ∧
      (pace.player (instruction :: rest)).step? rig compiler t =
        some (pace'.player rest, Fate.failure fate, u) ∧
      rig.Idles u s' ∧ pace.Gains [fate] pace' := by
  obtain ⟨time, t, world, hn, hworld, rfl, hs'⟩ := exists_of_tick h
  generalize hdone : rig.perform compiler pace.previous instruction world = done at hs' ⊢
  have hgains : pace.Gains [⟨[], done.failure⟩]
      ((pace.takeUp due time).settle pace.report.ticks done.previous done.failure) :=
    Pace.gains_settle due time _ _ _
  refine ⟨world, done.state, ⟨[], done.failure⟩, ?_, ?_, ?_, hgains⟩
  · rcases hworld with rfl | ⟨notice, rfl⟩
    · exact .now .refl hn
    · exact .note (.now .refl hn) notice
  · rw [Pace.player, Pace.player, hgains.ticks, Pace.settle_previous, ← hdone]
    rfl
  · rcases hs' with rfl | ⟨notice, rfl⟩
    · exact .refl
    · exact .note .refl notice

/-- **A timed run takes the steps of a player**, one for each of its instructions, if nobody cancels
it. What it has counted and the errors that it has noted are what came of these steps. -/
theorem Beats.goes (h : rig.Beats compiler period started pace s instructions beats pace' s') :
    ∃ fates, Player.Goes rig compiler (pace.player instructions) s (fates.map Fate.failure)
        (pace'.player []) s' ∧
      pace.Gains fates pace' := by
  induction h with
  | nil => exact ⟨[], .stay .refl, .refl _⟩
  | @cons pace next pace' instruction rest beats now time s s₁ s₂ s₃ s₄ s' hn hw _ htick _ ih =>
    obtain ⟨t, u, fate, hbefore, hstep, hafter, hgains⟩ := step_of_tick htick rest
    obtain ⟨fates, hgoes, hgains'⟩ := ih
    have hidle : rig.Idles s t := (Idles.wait (.now .refl hn) hw).trans hbefore
    exact ⟨fate :: fates, .step hidle hstep (hgoes.after_idle hafter), hgains.trans hgains'⟩

end Rig

end FrameScript
