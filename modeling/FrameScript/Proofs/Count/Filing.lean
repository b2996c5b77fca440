import FrameScript.Proofs.Count.Memo
import FrameScript.Proofs.Outline.Walking
import FrameScript.Proofs.Store.Growth
import FrameScript.Proofs.Trail

/-!
# What counting stores

Whatever a store holds, counting a file adds to it the counts of the files that could be counted on
the way, missing counts too. If the counting fails, the failure has a `Trail`: each file on it has
been left at a snag, and no count is stored in the end for any of them.

Counting is not only left at a snag. It also ends, without a count and without a failure, at a line
that does not fit, at a file without a count, and at one that is in progress.

## Results

* `runs_ofLines`: lines are counted up to a snag, unless something else ends the counting.
* `settles_countAt`: **a file that has a number is stored, and nothing is stored on the trail of a
  failure.**
* `runs_countText`, `runs_countFile`: the same of the calls from outside.
* `Gutter.runs_annotate`: the same of the marks, which pass over files that cannot be read.
-/

namespace FrameScript

open Outline Reading

namespace Count

/-! ## Snags -/

section Snags

variable {disk : Disk} {base : Location} {found : HeaderLines} {q : Path}
  {counted : Path → Option (Option Nat)}

/-- What ends the counting at a line that includes a script, by where it leads: a snag, or nothing
but the lack of a number. `counted` tells the counts that are stored. -/
def aimEnd? (counted : Path → Option (Option Nat)) : Aim → Option (Option Snag)
  | .nowhere => some none
  | .astray => some (some (.fault .badPath))
  | .file q =>
    match counted q with
    | none => some (some (.file q))
    | some none => some none
    | some (some _) => none

/-- What ends the counting at a step, if it does not pass. -/
def stepEnd? (disk : Disk) (base : Location) (found : HeaderLines)
    (counted : Path → Option (Option Nat)) : Step → Option (Option Snag)
  | .leaf _ (.inclusion target) => aimEnd? counted (found.aim disk base target)
  | .leaf _ (.bad (.longCount digits)) => some (some (.fault (.longNumeral digits)))
  | .leaf _ (.bad _) => some none
  | _ => none

theorem aimEnd?_eq_none {aim : Aim} {n : Nat} (ha : aim = .file q)
    (hq : counted q = some (some n)) : aimEnd? counted aim = none := by
  simp only [aimEnd?, ha, hq]

theorem aimEnd?_eq_file {aim : Aim} (ha : aim = .file q) (hq : counted q = none) :
    aimEnd? counted aim = some (some (.file q)) := by
  simp only [aimEnd?, ha, hq]

theorem eq_file_of_aimEnd? {aim : Aim} (h : aimEnd? counted aim = some (some (.file q))) :
    aim = .file q := by
  cases aim with
  | nowhere | astray => simp [aimEnd?] at h
  | file r =>
    simp only [aimEnd?] at h
    split at h
    · cases h
      rfl
    · cases h
    · cases h

theorem exists_of_stepEnd?_file {step : Step}
    (h : stepEnd? disk base found counted step = some (some (.file q))) :
    ∃ line target, step = .leaf line (.inclusion target) ∧
      found.aim disk base target = .file q := by
  match step, h with
  | .leaf line (.inclusion target), h => exact ⟨line, target, rfl, eq_file_of_aimEnd? h⟩
  | .leaf _ (.bad misfit), h => cases misfit <;> cases h

end Snags

/-- The count that is stored for a file. -/
def storedCount (store : Store) (p : Path) : Option (Option Nat) :=
  store.counts.lookup p

/-- Whether a count of a file is stored, be it a missing one. -/
def hasCount (store : Store) (p : Path) : Bool :=
  (storedCount store p).isSome

theorem hasCount_eq_false_iff {store : Store} {p : Path} :
    hasCount store p = false ↔ store.counts.lookup p = none :=
  Option.isSome_eq_false_iff.trans Option.isNone_iff_eq_none

/-! ## Where counting comes to a snag -/

section Meets

variable {disk : Disk} {above : List Path} {p q : Path} {s u : Store} {failure : Failure}

/-- Taking the steps of lines one after another comes from the store `s` to the snag `x` with the
store `u`, and fails there: the steps before it have been taken, and the step there fails. -/
def StepsMeet (disk : Disk) (base : Location) (take : Step → Reading Bool) (lines : List Text)
    (s : Store) (failure : Failure) (x : Snag) (u : Store) : Prop :=
  (HeaderLines.find lines).isUsable = true ∧
    ∃ before step after t, (outlineOf lines).steps = before ++ step :: after ∧
      walk take before s = .ok true u ∧ take step u = .error failure t ∧
      stepEnd? disk base (HeaderLines.find lines) (storedCount u) step = some (some x)

/-- Counting lines comes from the store `s` to the snag `x` with the store `u`, and fails there.
`read` counts the files that the lines include. -/
def LinesMeet (disk : Disk) (read : Path → Reading (Option Nat)) (base : Location)
    (lines : List Text) : Store → Failure → Snag → Store → Prop :=
  StepsMeet disk base (Step.counting (ask disk base (HeaderLines.find lines) read)) lines

/-- The store when the lines of a file begin to be counted. -/
def entered (p : Path) (s : Store) : Store :=
  { s with
    tally := { s.tally with countMisses := s.tally.countMisses + 1 }
    counting := p :: s.counting
    opened := p :: s.opened }

/-- Counting the file `p` from the store `s`, while those of `above` are in progress, comes to the
snag `x` with the store `u`, and fails there. -/
def Meets (disk : Disk) (above : List Path) (p : Path) (s : Store) (failure : Failure) (x : Snag)
    (u : Store) : Prop :=
  match disk.source p with
  | .error fault =>
    failure = .unreadable p.text p.text fault ∧ x = .fault failure ∧ u = entered p s
  | .ok text =>
    LinesMeet disk (countAt disk (p :: above)) p.parent.location (Text.lines text) (entered p s)
      failure x u

/-- A file that is left at the inclusion of another one does include it. -/
theorem includes_of_meets (h : Meets disk above p s failure (.file q) u) : Includes disk p q := by
  unfold Meets at h
  cases hs : disk.source p with
  | error fault =>
    simp only [hs] at h
    cases h.2.1
  | ok text =>
    simp only [hs] at h
    obtain ⟨-, before, step, after, t, hsteps, -, -, hend⟩ := h
    obtain ⟨line, target, rfl, ha⟩ := exists_of_stepEnd?_file hend
    have hstep : Step.leaf line (.inclusion target) ∈ (outlineOf (Text.lines text)).steps := by
      rw [hsteps]
      exact List.mem_append_right _ List.mem_cons_self
    exact includes_of_step hs hstep ha

end Meets

/-! ## Lines -/

section Lines

variable {disk : Disk} {base : Location} {found : HeaderLines} {busy : List Path}
  {read : Path → Reading (Option Nat)} {lines : List Text} {s t : Store}

/-- A counting fails that has come to the snag `x` with the store `s`, while the files of `busy` are
in progress; in the end, with the store `t`, there is no count for any file on the trail of its
failure. -/
abbrev Fails (disk : Disk) (busy : List Path) (x : Snag) (s : Store) (failure : Failure)
    (t : Store) : Prop :=
  Trail.Bare (Meets disk) (hasCount t) busy x s failure

/-- How counting the file `p` ends that begins with the store `s`: a number is stored, or it fails
and there is no count. -/
def Settles (disk : Disk) (busy : List Path) (p : Path) (x : Reading (Option Nat))
    (s : Store) : Prop :=
  Runs x s (fun count t => Store.Numbers disk busy s t ∧
      ∀ n, count = some n → storedCount t p = some (some n))
    fun failure t => Store.Numbers disk busy s t ∧ storedCount t p = none ∧
      Fails disk busy (.file p) s failure t

/-- A step that passes goes on passing as more is stored. -/
theorem stepEnd?_of_numbers {step : Step} (h : Store.Numbers disk busy s t)
    (hs : stepEnd? disk base found (storedCount s) step = none) :
    stepEnd? disk base found (storedCount t) step = none := by
  match step, hs with
  | .leaf line (.inclusion target), hs =>
    simp only [stepEnd?, aimEnd?] at hs
    split at hs
    · cases hs
    · cases hs
    · rename_i q ha
      split at hs
      · cases hs
      · cases hs
      · rename_i n hq
        exact aimEnd?_eq_none ha (h.counts.lookup_eq hq)
  | .leaf _ .skip, hs | .leaf _ .data, hs | .enter _ _, hs | .leave _, hs => exact hs

/-- **A step passes, or it ends the counting**, at a snag if it fails. -/
theorem runs_step (step : Step)
    (hread : ∀ q, disk.IsCanonical q → Settles disk busy q (read q) s) :
    Runs (Step.counting (ask disk base found read) step) s
      (fun goesOn t => Store.Numbers disk busy s t ∧
        (goesOn = true → stepEnd? disk base found (storedCount t) step = none))
      fun failure t => Store.Numbers disk busy s t ∧
        ∃ x, stepEnd? disk base found (storedCount s) step = some (some x) ∧
          Fails disk busy x s failure t := by
  match step with
  | .leaf line .skip | .leaf line .data | .enter line count | .leave count =>
    exact ⟨.refl, fun _ => rfl⟩
  | .leaf line (.bad .stray) | .leaf line (.bad (.badCount text)) =>
    exact ⟨.refl, fun h => by cases h⟩
  | .leaf line (.bad (.longCount digits)) => exact ⟨.refl, _, rfl, .fault⟩
  | .leaf line (.inclusion target) =>
    simp only [Step.counting, ask]
    cases ha : found.aim disk base target with
    | nowhere => exact ⟨.refl, fun h => by cases h⟩
    | astray => exact ⟨.refl, _, by rw [stepEnd?, ha, aimEnd?], .fault⟩
    | file q =>
      refine runs_bind ((hread q (HeaderLines.isCanonical_of_aim ha)).imp ?_ ?_)
      · rintro count t ⟨hnumbers, hstored⟩
        refine runs_pure ⟨hnumbers, fun hsome => ?_⟩
        obtain ⟨n, rfl⟩ := Option.isSome_iff_exists.mp hsome
        exact aimEnd?_eq_none ha (hstored n rfl)
      · rintro failure t ⟨hnumbers, hfree, hfails⟩
        exact ⟨hnumbers, .file q, aimEnd?_eq_file ha (hnumbers.counts.lookup_none hfree), hfails⟩

/-- **Lines are counted up to a snag**, unless something else ends the counting. -/
theorem runs_ofLines (busy : List Path)
    (hread : ∀ q, disk.IsCanonical q → ∀ u, Store.Numbers disk busy s u →
      Settles disk busy q (read q) u) :
    Runs (ofLines base (fun l => Store.resolve disk l >>= read) lines) s
      (fun _ t => Store.Numbers disk busy s t)
      fun failure t => Store.Numbers disk busy s t ∧
        ∃ x u, LinesMeet disk read base lines s failure x u ∧ Fails disk busy x u failure t := by
  unfold ofLines
  by_cases hu : (HeaderLines.find lines).isUsable = true
  · simp only [if_pos hu, ask_eq]
    have hwalk := runs_walk_upTo (R := Store.Numbers disk busy) (s := s)
      (C := fun failure u step t => ∃ x,
        stepEnd? disk base (HeaderLines.find lines) (storedCount u) step = some (some x) ∧
          Fails disk busy x u failure t)
      (fun t => stepEnd? disk base (HeaderLines.find lines) (storedCount t))
      (outlineOf lines).steps .refl (fun t u => .trans) (fun t u step => stepEnd?_of_numbers)
      fun t step ht => runs_step step fun q hq => hread q hq t ht
    rw [← count?_walk, runs_bind_iff] at hwalk
    refine hwalk.imp (fun number t ht => ht.1) ?_
    rintro failure t ⟨hnumbers, before, step, after, u, hsteps, hbefore, hstep, x, hx, hfails⟩
    exact ⟨hnumbers, x, u, ⟨hu, before, step, after, t, hsteps, hbefore, hstep, hx⟩, hfails⟩
  · simp only [if_neg hu]
    exact Store.Numbers.refl

end Lines

/-! ## Files -/

section Files

variable {disk : Disk} {chain : List Path} {p : Path} {l : Location} {s : Store}

/-- The lines of a file that is in progress: they have a count that may be stored, or the file is
left at a snag. -/
theorem settles_text {text : Text} (hm : p ∉ chain) (hl : s.counts.lookup p = none)
    (hs : disk.source p = .ok text)
    (hread : ∀ q, disk.IsCanonical q → ∀ u, Store.Numbers disk (p :: chain) (entered p s) u →
      Settles disk (p :: chain) q (countAt disk (p :: chain) q) u) :
    Runs (ofLines p.parent.location
        (fun l => Store.resolve disk l >>= countAt disk (p :: chain)) (Text.lines text))
      (entered p s)
      (fun _ u => Store.Numbers disk (p :: chain) (entered p s) u ∧ u.counts.lookup p = none)
      fun failure u => Store.Numbers disk (p :: chain) (entered p s) u ∧ storedCount u p = none ∧
        Fails disk chain (.file p) s failure u := by
  refine (runs_ofLines (p :: chain) hread).imp ?_ ?_
  · intro count u hnumbers
    exact ⟨hnumbers, (hnumbers.counts.lookup_busy List.mem_cons_self).trans hl⟩
  · rintro failure u ⟨hnumbers, x, t, hmeets, hfails⟩
    have hnone := (hnumbers.counts.lookup_busy List.mem_cons_self).trans hl
    refine ⟨hnumbers, hnone, .file hm (hasCount_eq_false_iff.mpr hnone) (u := t) ?_ hfails⟩
    rw [Meets, hs]
    exact hmeets

/-- **A file that has a number is stored, and nothing is stored on the trail of a failure**,
whatever was stored before. -/
theorem settles_countAt (hp : disk.IsCanonical p) :
    Settles disk chain p (countAt disk chain p) s := by
  induction hr : room disk.paths chain using Nat.strongRecOn generalizing chain p s with
  | ind k ih =>
    rw [countAt]
    refine runs_get_bind ?_
    cases hl : s.counts.lookup p with
    | some count =>
      refine runs_bind (runs_modify (runs_pure ⟨⟨rfl, .refl, rfl, rfl⟩, fun n hn => ?_⟩))
      rw [← hn]
      exact hl
    | none =>
      by_cases hm : p ∈ chain
      · simp only [dif_pos hm]
        exact runs_bind (runs_modify (runs_pure
          ⟨⟨rfl, .refl, rfl, rfl⟩, fun n hn => by cases hn⟩))
      · simp only [dif_neg hm]
        refine runs_bind (runs_modify (runs_bind (runs_between (runs_bind (runs_modify ?_)))))
        split
        · rename_i fault hs
          refine runs_throw ⟨⟨rfl, .refl, rfl, rfl⟩, hl,
            .file hm (hasCount_eq_false_iff.mpr hl) (u := entered p s) ?_ .fault⟩
          rw [Meets, hs]
          exact ⟨rfl, rfl, rfl⟩
        · rename_i text hs
          have hroom := Disk.room_lt_of_source hm hs
          refine runs_bind (Runs.imp (settles_text (s := s) hm ?_ hs fun q hq u _ =>
            ih _ (hr ▸ hroom) hq rfl) ?_ ?_)
          · exact hl
          · rintro count u ⟨hnumbers, hnone⟩
            refine runs_bind (runs_modify (runs_pure (runs_bind (runs_modify (runs_pure ?_)))))
            refine ⟨⟨hnumbers.scripts,
              (hnumbers.counts.mono (List.subset_cons_self p chain)).cons hm hnone hp,
              hnumbers.parsing, congrArg List.tail hnumbers.counting⟩, fun n hn => ?_⟩
            rw [← hn]
            exact Grown.lookup_cons_self
          · rintro failure u ⟨hnumbers, hnone, hfails⟩
            exact ⟨⟨hnumbers.scripts, hnumbers.counts.mono (List.subset_cons_self p chain),
              hnumbers.parsing, congrArg List.tail hnumbers.counting⟩, hnone, hfails⟩

/-! ## Calls from outside -/

/-- Counts a file for a call from outside. -/
def fromOutside (disk : Disk) (p : Path) : Reading (Option Nat) := do
  countAt disk (← get).counting p

theorem settles_fromOutside (hs : s.counting = []) (hp : disk.IsCanonical p) :
    Settles disk [] p (fromOutside disk p) s := by
  refine runs_get_bind ?_
  rw [hs]
  exact settles_countAt hp

/-- Counting a file stores nothing on the trail of its failure. -/
theorem runs_countFile (disk : Disk) (hs : s.counting = []) (l : Location) :
    Runs (countFile disk l) s (fun _ t => Store.Numbers disk [] s t ∧ l.isSound = true)
      fun failure t => Store.Numbers disk [] s t ∧
        (if l.isSound then storedCount t (disk.canonical l) = none else failure = .badPath) ∧
        Fails disk [] (.ofLocation disk l) s failure t := by
  unfold countFile Store.resolve Snag.ofLocation
  by_cases hl : l.isSound = true
  · simp only [if_pos hl, pure_bind]
    exact (settles_fromOutside hs ⟨l, hl, rfl⟩).imp (fun _ _ h => ⟨h.1, hl⟩) fun _ _ => id
  · simp only [if_neg hl]
    exact runs_throw ⟨.refl, rfl, .fault⟩

/-- Counting a text stores nothing on the trail of its failure. -/
theorem runs_countText (hs : s.counting = []) (text : Text) (base : Option Text) :
    Runs (countText disk text base) s (fun _ t => Store.Numbers disk [] s t)
      fun failure t => Store.Numbers disk [] s t ∧
        ∃ x u, LinesMeet disk (fromOutside disk) (baseOf disk base) (Text.lines text) s failure
          x u ∧ Fails disk [] x u failure t :=
  runs_ofLines [] fun _ hq _ hu => settles_fromOutside (hu.counting.trans hs) hq

end Files

end Count

/-! ## Marks -/

namespace Gutter

open FrameScript.Count

variable {disk : Disk} {s : Store}

/-- An included script that cannot be read has no count; any other failure is one of the marks. -/
theorem runs_countIncluded (hs : s.counting = []) (l : Location) :
    Runs (countIncluded disk l) s (fun _ t => Store.Numbers disk [] s t ∧ l.isSound = true)
      fun failure t => Store.Numbers disk [] s t ∧
        (if l.isSound then storedCount t (disk.canonical l) = none else failure = .badPath) ∧
        Fails disk [] (.ofLocation disk l) s failure t := by
  have hfile := runs_countFile disk hs l
  unfold Runs at hfile ⊢
  unfold countIncluded
  cases hc : countFile disk l s with
  | ok count t =>
    rw [hc] at hfile
    exact hfile
  | error failure t =>
    rw [hc] at hfile
    cases failure with
    | unreadable path opened fault =>
      obtain ⟨hnumbers, hfree, -⟩ := hfile
      refine ⟨⟨hnumbers.scripts, hnumbers.counts, hnumbers.parsing, hnumbers.counting⟩, ?_⟩
      split at hfree
      · assumption
      · cases hfree
    | _ => exact hfile

section Lines

variable {base : Location} {found : HeaderLines} {target : Text}
  {counted : Path → Option (Option Nat)}

/-- A line that may include a script is a snag, if no count of the script is stored. -/
theorem aimEnd?_of_open (hn : ¬(found.isFragment || target.isEmpty) = true)
    (hfree : (base.under (Location.read target)).isSound = true →
      counted (disk.canonical (base.under (Location.read target))) = none) :
    aimEnd? counted (found.aim disk base target) =
      some (some (.ofLocation disk (base.under (Location.read target)))) := by
  unfold Snag.ofLocation
  cases hs : (base.under (Location.read target)).isSound with
  | false => rw [HeaderLines.aim_of_not_sound hn hs, if_neg Bool.false_ne_true, aimEnd?]
  | true => rw [aimEnd?_eq_file (HeaderLines.aim_of_sound hn hs) (hfree hs), if_pos rfl]

/-- The count that the gutter shows for what a line includes. -/
def askShown (disk : Disk) (base : Location) (found : HeaderLines) (target : Text) :
    Reading (Option Nat) :=
  if found.isFragment || target.isEmpty then pure none
  else countIncluded disk (base.under (Location.read target))

/-- Marking lines comes from the store `s` to the snag `x` with the store `u`, and fails there. A
file whose inclusion stands before it has been passed over if it cannot be read. -/
def LinesMeet (disk : Disk) (base : Location) (lines : List Text) :
    Store → Failure → Snag → Store → Prop :=
  StepsMeet disk base (Step.marking (askShown disk base (HeaderLines.find lines))) lines

/-- **Marking passes a step, or it fails there** at a snag. -/
theorem runs_step (hs : s.counting = []) (step : Step) :
    Runs (Step.marking (askShown disk base found) step) s
      (fun _ t => Store.Numbers disk [] s t)
      fun failure t => Store.Numbers disk [] s t ∧
        ∃ x, stepEnd? disk base found (storedCount s) step = some (some x) ∧
          Fails disk [] x s failure t := by
  match step with
  | .leaf line .skip | .leaf line .data | .enter line count | .leave count
  | .leaf line (.bad .stray) | .leaf line (.bad (.badCount text)) => exact Store.Numbers.refl
  | .leaf line (.bad (.longCount digits)) => exact ⟨.refl, _, rfl, .fault⟩
  | .leaf line (.inclusion target) =>
    simp only [Step.marking, askShown]
    by_cases hn : (found.isFragment || target.isEmpty) = true
    · simp only [if_pos hn, pure_bind]
      exact runs_pure .refl
    · simp only [if_neg hn]
      refine runs_bind ((runs_countIncluded hs _).imp (fun count t ht => runs_pure ht.1) ?_)
      rintro failure t ⟨hnumbers, hfree, hfails⟩
      refine ⟨hnumbers, _, aimEnd?_of_open hn fun hsound => ?_, hfails⟩
      rw [if_pos hsound] at hfree
      exact hnumbers.counts.lookup_none hfree

end Lines

/-- **Marking a text stores nothing on the trail of its failure.** -/
theorem runs_annotate (hs : s.counting = []) (text : Text) (base : Option Text) :
    Runs (annotate disk text base) s (fun _ t => Store.Numbers disk [] s t)
      fun failure t => Store.Numbers disk [] s t ∧
        ∃ x u, LinesMeet disk (Count.baseOf disk base) (Text.lines text) s failure x u ∧
          Fails disk [] x u failure t := by
  unfold annotate ofLines
  by_cases hu : (HeaderLines.find (Text.lines text)).isUsable = true
  · simp only [if_pos hu]
    have hwalk := runs_walk_upTo (R := Store.Numbers disk []) (s := s)
      (C := fun failure u step t => ∃ x, stepEnd? disk (Count.baseOf disk base)
        (HeaderLines.find (Text.lines text)) (storedCount u) step = some (some x) ∧
          Fails disk [] x u failure t)
      (fun _ _ => (none : Option Unit)) (outlineOf (Text.lines text)).steps .refl
      (fun t u => .trans) (fun _ _ _ _ => id)
      fun t step ht => (runs_step (ht.counting.trans hs) step).imp
        (fun _ _ h => ⟨h, fun _ => rfl⟩) fun _ _ => id
    rw [← marks_walk _ 0, runs_bind_iff] at hwalk
    refine runs_bind (hwalk.imp (fun _ _ ht => runs_pure ht.1) ?_)
    rintro failure t ⟨hnumbers, before, step, after, u, hsteps, hbefore, hstep, x, hx, hfails⟩
    exact ⟨hnumbers, x, u, ⟨hu, before, step, after, t, hsteps, hbefore, hstep, hx⟩, hfails⟩
  · simp only [if_neg hu]
    exact Store.Numbers.refl

end Gutter

end FrameScript
