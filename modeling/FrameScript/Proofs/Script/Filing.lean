import FrameScript.Proofs.Outline.Walking
import FrameScript.Proofs.Script.Memo
import FrameScript.Proofs.Store.Growth
import FrameScript.Proofs.Trail

/-!
# What reading scripts stores

Whatever a store holds, even scripts of files that have changed since, reading a file adds to it the
scripts that could be read on the way, each after those that it includes. If the reading fails, the
failure has a `Trail`: each file on it has been left at a snag, and nothing is stored in the end for
any of them.

## Results

* `runs_ofLines`: lines are read up to a snag.
* `settles_parseAt`: **a file is stored after all that it includes, or nothing is stored on the
  trail of the failure.**
* `runs_parseFile`, `runs_parseText`: the same of the calls from outside.
-/

namespace FrameScript.Script

open Outline Reading

/-! ## Snags -/

section Snags

variable {disk : Disk} {source : Option Text} {base : Location} {found : HeaderLines}
  {format : Format} {stored : Path → Bool} {lines : List Text} {p q : Path}

/-- The snag at a line that includes a script, by where it leads: `stored` tells of which files the
scripts are stored. -/
def aimSnag? (closed : Failure) (stored : Path → Bool) : Aim → Option Snag
  | .nowhere => some (.fault closed)
  | .astray => some (.fault .badPath)
  | .file q => if stored q then none else some (.file q)

/-- The snag at a step, if it does not pass. -/
def stepSnag? (disk : Disk) (source : Option Text) (base : Location) (found : HeaderLines)
    (format : Format) (stored : Path → Bool) : Step → Option Snag
  | .leaf line (.inclusion target) =>
    aimSnag? (closedFailure source found line) stored (found.aim disk base target)
  | step => (step.halt source (plainData source format) fun _ _ => .ok []).map .fault

theorem aimSnag?_eq_none_iff {closed : Failure} {aim : Aim} :
    aimSnag? closed stored aim = none ↔ ∃ q, aim = .file q ∧ stored q = true := by
  cases aim <;> simp [aimSnag?]

theorem aimSnag?_eq_file_iff {closed : Failure} {aim : Aim} :
    aimSnag? closed stored aim = some (.file q) ↔ aim = .file q ∧ stored q = false := by
  cases aim with
  | nowhere | astray => simp [aimSnag?]
  | file r =>
    by_cases hr : stored r = true
    · simp only [aimSnag?, hr, if_true, reduceCtorEq, Aim.file.injEq, false_iff, not_and]
      rintro rfl
      simp [hr]
    · simp only [aimSnag?, if_neg hr, Option.some.injEq, Snag.file.injEq, Aim.file.injEq]
      refine ⟨fun h => ⟨h, h ▸ Bool.eq_false_iff.mpr hr⟩, And.left⟩

theorem exists_of_stepSnag?_file {step : Step}
    (h : stepSnag? disk source base found format stored step = some (.file q)) :
    ∃ line target, step = .leaf line (.inclusion target) ∧
      found.aim disk base target = .file q := by
  match step, h with
  | .leaf line (.inclusion target), h =>
    exact ⟨line, target, rfl, (aimSnag?_eq_file_iff.mp h).1⟩
  | .leaf _ .skip, h | .leaf _ .data, h | .leaf _ (.bad _), h | .enter _ _, h | .leave _, h =>
    simp [stepSnag?] at h

/-- **Where every line passes, every file that the lines include is stored.** -/
theorem stored_of_passes
    (h : ∀ step ∈ (outlineOf lines).steps,
      stepSnag? disk source base found format stored step = none)
    {line : Line} (hm : line ∈ bodyOf lines) (hs : line.isSkipped = false) {target : Text}
    (hd : Directive.read line.content = .inclusion target) :
    stored (disk.canonical (base.under (Location.read target))) = true := by
  have hfits : (outlineOf lines).Fits := by
    intro line misfit hbad
    have hsnag := h _ hbad
    cases hsnag
  have hstep := stepFor_of_fits hfits hm hs
  rw [hd] at hstep
  obtain ⟨q, ha, hq⟩ := aimSnag?_eq_none_iff.mp (h _ hstep)
  rw [← HeaderLines.eq_canonical_of_aim ha]
  exact hq

end Snags

/-- Whether the script of a file is stored. -/
def hasScript (store : Store) (p : Path) : Bool :=
  (store.scripts.lookup p).isSome

theorem hasScript_eq_false_iff {store : Store} {p : Path} :
    hasScript store p = false ↔ store.scripts.lookup p = none :=
  Option.isSome_eq_false_iff.trans Option.isNone_iff_eq_none

/-! ## Where reading comes to a snag -/

section Meets

variable {disk : Disk} {source : Option Text} {base : Location} {read : Path → Reading Script}
  {lines : List Text} {above : List Path} {p q : Path} {s u : Store} {failure : Failure}

/-- The store when a snag is dealt with that was met at a step: the journal is told of a file before
it is read. -/
def noted (source : Option Text) : Step → Snag → Store → Store
  | .leaf line _, .file q, u =>
    { u with
      journal := ⟨.debug, "Including file", [("path", .ofText? source),
        ("line", .number line.number), ("target", .text q.text)]⟩ :: u.journal }
  | _, _, u => u

/-- Reading lines from the store `s` comes to the snag `x` with the store `u`, and fails there: the
steps before it have been taken, and the step there fails. `read` reads the files that the lines
include. -/
def LinesMeet (disk : Disk) (read : Path → Reading Script) (source : Option Text) (base : Location)
    (lines : List Text) (s : Store) (failure : Failure) (x : Snag) (u : Store) : Prop :=
  match Header.read source lines with
  | .error fault => failure = fault ∧ x = .fault fault ∧ u = s
  | .ok header =>
    let take := Step.unrolling source (readData source header.format)
      (readInclusion disk source base header.kind read)
    ∃ before step after t t', (outlineOf lines).steps = before ++ step :: after ∧
      walk take before s = .ok true t ∧ take step t = .error failure t' ∧
      stepSnag? disk source base (HeaderLines.find lines) header.format (hasScript t) step =
        some x ∧
      u = noted source step x t

/-- The store when the lines of a file begin to be read. -/
def entered (p : Path) (s : Store) : Store :=
  { s with
    tally := { s.tally with scriptMisses := s.tally.scriptMisses + 1 }
    parsing := p :: s.parsing
    opened := p :: s.opened }

/-- Reading the file `p` from the store `s`, while those of `above` are in progress, comes to the
snag `x` with the store `u`, and fails there. -/
def Meets (disk : Disk) (above : List Path) (p : Path) (s : Store) (failure : Failure) (x : Snag)
    (u : Store) : Prop :=
  match disk.source p with
  | .error fault =>
    failure = .unreadable p.text p.text fault ∧ x = .fault failure ∧ u = entered p s
  | .ok text =>
    LinesMeet disk (parseAt disk (p :: above)) (some p.text) p.parent.location (Text.lines text)
      (entered p s) failure x u

/-- A file that is left at the inclusion of another one does include it. -/
theorem includes_of_meets (h : Meets disk above p s failure (.file q) u) :
    Includes disk p q ∧ disk.IsCanonical q := by
  unfold Meets at h
  cases hs : disk.source p with
  | error fault =>
    simp only [hs] at h
    cases h.2.1
  | ok text =>
    simp only [hs, LinesMeet] at h
    split at h
    · cases h.2.1
    · obtain ⟨before, step, after, t, t', hsteps, -, -, hsnag, -⟩ := h
      obtain ⟨line, target, rfl, ha⟩ := exists_of_stepSnag?_file hsnag
      have hstep : Step.leaf line (.inclusion target) ∈ (outlineOf (Text.lines text)).steps := by
        rw [hsteps]
        exact List.mem_append_right _ List.mem_cons_self
      exact ⟨includes_of_step hs hstep ha, HeaderLines.isCanonical_of_aim ha⟩

end Meets

/-! ## Lines -/

section Lines

variable {disk : Disk} {source : Option Text} {base : Location} {found : HeaderLines}
  {kind : Option ScriptKind} {format : Format} {read : Path → Reading Script} {lines : List Text}
  {busy : List Path} {s : Store}

/-- A reading fails that has come to the snag `x` with the store `s`, while the files of `busy` are
in progress; in the end, with the store `t`, there is no script for any file on the trail of its
failure. -/
abbrev Fails (disk : Disk) (busy : List Path) (x : Snag) (s : Store) (failure : Failure)
    (t : Store) : Prop :=
  Trail.Bare (Meets disk) (hasScript t) busy x s failure

/-- How reading the file `p` ends that begins with the store `s`: its script is stored, or it fails
and is not. -/
def Settles (disk : Disk) (busy : List Path) (p : Path) (x : Reading Script) (s : Store) : Prop :=
  Runs x s (fun script t => Store.Files disk busy s t ∧ t.scripts.lookup p = some script)
    fun failure t => Store.Files disk busy s t ∧ hasScript t p = false ∧
      Fails disk busy (.file p) s failure t

/-- What is stored stays stored. -/
theorem hasScript_of_files {s t : Store} {p : Path} (h : Store.Files disk busy s t)
    (hp : hasScript s p = true) : hasScript t p = true := by
  obtain ⟨script, hscript⟩ := Option.isSome_iff_exists.mp hp
  rw [hasScript, h.scripts.lookup_eq hscript]
  rfl

/-- A step that passes goes on passing as more is stored. -/
theorem stepSnag?_of_files {s t : Store} {step : Step} (h : Store.Files disk busy s t)
    (hs : stepSnag? disk source base found format (hasScript s) step = none) :
    stepSnag? disk source base found format (hasScript t) step = none := by
  match step, hs with
  | .leaf line (.inclusion target), hs =>
    obtain ⟨q, ha, hq⟩ := aimSnag?_eq_none_iff.mp hs
    exact aimSnag?_eq_none_iff.mpr ⟨q, ha, hasScript_of_files h hq⟩
  | .leaf _ .skip, hs | .leaf _ .data, hs | .leaf _ (.bad _), hs | .enter _ _, hs
  | .leave _, hs => exact hs

/-- **A step passes, or it is a snag**: something is at fault there, or the file that it includes
fails. -/
theorem runs_step (hk : found.isFragment = true ↔ kind = some .fragment) {t : Store} (step : Step)
    (hread : ∀ q, disk.IsCanonical q → ∀ u, Store.Files disk busy t u →
      Settles disk busy q (read q) u) :
    Runs (Step.unrolling source (readData source format)
        (readInclusion disk source base kind read) step) t
      (fun goesOn u => Store.Files disk busy t u ∧
        (goesOn = true → stepSnag? disk source base found format (hasScript u) step = none))
      fun failure u => Store.Files disk busy t u ∧
        ∃ x, stepSnag? disk source base found format (hasScript t) step = some x ∧
          Fails disk busy x (noted source step x t) failure u := by
  match step with
  | .leaf line .skip | .enter line count => exact ⟨.refl, fun _ => rfl⟩
  | .leaf line (.bad misfit) => exact ⟨.refl, _, rfl, .fault⟩
  | .leave count =>
    by_cases hl : repeatLimit < count
    · simp only [Step.unrolling, if_pos hl]
      exact ⟨.refl, _, by simp [stepSnag?, halt_leave_of_lt hl], .fault⟩
    · simp only [Step.unrolling, if_neg hl]
      exact ⟨.refl, fun _ => by simp [stepSnag?, halt_leave_of_le (Nat.not_lt.mp hl)]⟩
  | .leaf line .data =>
    cases hf : format.frame? ⟨source, some line.number⟩ line.content with
    | some frame =>
      have hdata : plainData source format line = .ok frame := by simp only [plainData, hf]
      have hrun : readData source format line = pure frame := by simp only [readData, hf]
      simp only [Step.unrolling, hrun, pure_bind]
      exact ⟨.refl, fun _ => by simp [stepSnag?, halt_data_of_ok hdata]⟩
    | none =>
      have hdata : plainData source format line =
          .error (.layout (.mismatch format.source line.content) ⟨source, some line.number⟩) := by
        simp only [plainData, hf]
      have hrun : readData source format line =
          throw (.layout (.mismatch format.source line.content) ⟨source, some line.number⟩) := by
        simp only [readData, hf]
      simp only [Step.unrolling, hrun, throw_bind]
      exact ⟨.refl, _, by simp [stepSnag?, halt_data_of_error hdata], .fault⟩
  | .leaf line (.inclusion target) =>
    simp only [Step.unrolling, readInclusion_eq hk]
    cases ha : found.aim disk base target with
    | nowhere => exact ⟨.refl, _, by rw [stepSnag?, ha, aimSnag?], .fault⟩
    | astray => exact ⟨.refl, _, by rw [stepSnag?, ha, aimSnag?], .fault⟩
    | file q =>
      have hread := hread q (HeaderLines.isCanonical_of_aim ha)
      refine runs_bind (runs_bind (runs_modify (runs_bind (Runs.imp (hread _ ?_)
        (fun script u hu => ?_) fun failure u hu => ?_))))
      · exact ⟨.refl, rfl, rfl, rfl⟩
      · obtain ⟨hfiles, hstored⟩ := hu
        have hq : hasScript u q = true := by rw [hasScript, hstored]; rfl
        exact ⟨⟨hfiles.scripts, hfiles.counts, hfiles.parsing, hfiles.counting⟩,
          fun _ => aimSnag?_eq_none_iff.mpr ⟨q, ha, hq⟩⟩
      · obtain ⟨hfiles, hfree, hfails⟩ := hu
        have hbefore : hasScript t q = false := hasScript_eq_false_iff.mpr
          (hfiles.scripts.lookup_none (hasScript_eq_false_iff.mp hfree))
        exact ⟨⟨hfiles.scripts, hfiles.counts, hfiles.parsing, hfiles.counting⟩, .file q,
          aimSnag?_eq_file_iff.mpr ⟨ha, hbefore⟩, hfails⟩

/-- **Lines are read up to a snag.** If there is none they make a script. -/
theorem runs_ofLines (busy : List Path)
    (hread : ∀ q, disk.IsCanonical q → ∀ u, Store.Files disk busy s u →
      Settles disk busy q (read q) u) :
    Runs (ofLines disk source base read lines) s
      (fun script u => script.source = source ∧ Header.read source lines = .ok script.header ∧
        Store.Files disk busy s u ∧ ∀ step ∈ (outlineOf lines).steps,
          stepSnag? disk source base (HeaderLines.find lines) script.header.format (hasScript u)
            step = none)
      fun failure u => Store.Files disk busy s u ∧
        ∃ x t, LinesMeet disk read source base lines s failure x t ∧
          Fails disk busy x t failure u := by
  unfold ofLines LinesMeet
  cases hh : Header.read source lines with
  | error failure => exact ⟨.refl, .fault failure, s, ⟨rfl, rfl, rfl⟩, .fault⟩
  | ok header =>
    obtain ⟨-, hkind, -⟩ := Header.ofFound_ok hh
    have hwalk := runs_walk_upTo (R := Store.Files disk busy) (s := s)
      (C := fun failure t step u => ∃ x,
        stepSnag? disk source base (HeaderLines.find lines) header.format (hasScript t) step =
          some x ∧ Fails disk busy x (noted source step x t) failure u)
      (fun u => stepSnag? disk source base (HeaderLines.find lines) header.format (hasScript u))
      (outlineOf lines).steps .refl (fun t u => .trans) (fun t u step => stepSnag?_of_files)
      fun t step ht => runs_step hkind step fun q hq u hu => hread q hq u (ht.trans hu)
    rw [← frames_walk, runs_bind_iff] at hwalk
    refine runs_bind (hwalk.imp (fun frames u hu => ?_) ?_)
    · exact ⟨rfl, rfl, hu.1, hu.2 rfl⟩
    · rintro failure u ⟨hfiles, before, step, after, t, hsteps, hbefore, hstep, x, hx, hfails⟩
      exact ⟨hfiles, x, _, ⟨before, step, after, t, u, hsteps, hbefore, hstep, hx, rfl⟩, hfails⟩

end Lines

/-! ## Files -/

section Files

variable {disk : Disk} {chain : List Path} {p : Path} {s : Store}

/-- The lines of a file that is in progress: they make a script that may be stored, or the file is
left at a snag. -/
theorem settles_text {text : Text} (hp : disk.IsCanonical p) (hm : p ∉ chain)
    (hl : s.scripts.lookup p = none) (hs : disk.source p = .ok text)
    (hread : ∀ q, disk.IsCanonical q → ∀ u, Store.Files disk (p :: chain) (entered p s) u →
      Settles disk (p :: chain) q (parseAt disk (p :: chain) q) u) :
    Runs (ofLines disk (some p.text) p.parent.location (parseAt disk (p :: chain))
        (Text.lines text)) (entered p s)
      (fun script u => Store.Files disk (p :: chain) (entered p s) u ∧ u.scripts.lookup p = none ∧
        script.IsFiled disk p u.scripts)
      fun failure u => Store.Files disk (p :: chain) (entered p s) u ∧ hasScript u p = false ∧
        Fails disk chain (.file p) s failure u := by
  refine (runs_ofLines (p :: chain) hread).imp ?_ ?_
  · rintro script u ⟨hsource, hheader, hfiles, hpasses⟩
    refine ⟨hfiles, (hfiles.scripts.lookup_busy List.mem_cons_self).trans hl,
      hsource, hp, ⟨text, hs, hheader⟩, fun q hq => ?_⟩
    obtain ⟨text', hs', line, hmem, hsaid, target, hd, rfl⟩ := hq
    obtain rfl : text = text' := Except.ok.inj (hs.symm.trans hs')
    exact stored_of_passes hpasses hmem hsaid hd
  · rintro failure u ⟨hfiles, x, t, hmeets, hfails⟩
    have hfree : hasScript u p = false :=
      hasScript_eq_false_iff.mpr ((hfiles.scripts.lookup_busy List.mem_cons_self).trans hl)
    refine ⟨hfiles, hfree, .file hm hfree (u := t) ?_ hfails⟩
    rw [Meets, hs]
    exact hmeets

/-- **A file is stored after all that it includes, or nothing is stored on the trail of the
failure**, whatever was stored before. -/
theorem settles_parseAt (hp : disk.IsCanonical p) (hc : ∀ c ∈ chain, hasScript s c = false) :
    Settles disk chain p (parseAt disk chain p) s := by
  induction hr : room disk.paths chain using Nat.strongRecOn generalizing chain p s with
  | ind k ih =>
    rw [parseAt]
    refine runs_get_bind ?_
    cases hl : s.scripts.lookup p with
    | some script =>
      refine runs_bind (runs_modify (runs_bind (runs_modify (runs_pure ?_))))
      exact ⟨⟨.refl, rfl, rfl, rfl⟩, hl⟩
    | none =>
      by_cases hm : p ∈ chain
      · simp only [dif_pos hm]
        exact runs_throw ⟨.refl, hc p hm, .refused hm⟩
      · simp only [dif_neg hm]
        refine runs_bind (runs_modify (runs_bind (runs_between (runs_bind (runs_modify ?_)))))
        split
        · rename_i fault hs
          have hfree := hasScript_eq_false_iff.mpr hl
          refine runs_throw ⟨⟨.refl, rfl, rfl, rfl⟩, hfree,
            .file hm hfree (u := entered p s) ?_ .fault⟩
          rw [Meets, hs]
          exact ⟨rfl, rfl, rfl⟩
        · rename_i text hs
          have hroom := Disk.room_lt_of_source hm hs
          refine runs_bind (Runs.imp (settles_text (s := s) hp hm ?_ hs fun q hq u hu =>
            ih _ (hr ▸ hroom) hq (fun c hmem => ?_) rfl) ?_ ?_)
          · exact hl
          · -- Nothing is stored meanwhile for the files in progress, which `p` has joined.
            rw [hasScript, hu.scripts.lookup_busy hmem]
            rcases List.mem_cons.mp hmem with rfl | hmem
            · exact hasScript_eq_false_iff.mpr hl
            · exact hc c hmem
          · rintro script u ⟨hfiles, hnone, hfiled⟩
            refine runs_bind (runs_modify (runs_pure (runs_bind (runs_modify (runs_pure ?_)))))
            exact ⟨⟨(hfiles.scripts.mono (List.subset_cons_self p chain)).cons hm hnone hfiled,
              hfiles.counts, congrArg List.tail hfiles.parsing, hfiles.counting⟩,
              Grown.lookup_cons_self⟩
          · rintro failure u ⟨hfiles, hfree, hfails⟩
            exact ⟨⟨hfiles.scripts.mono (List.subset_cons_self p chain), hfiles.counts,
              congrArg List.tail hfiles.parsing, hfiles.counting⟩, hfree, hfails⟩

/-! ## Calls from outside -/

/-- What a demand for the kind adds to the failures. -/
theorem runs_bind_demandKind {x : Reading Script} {Q : Store → Prop} {E : Failure → Store → Prop}
    (typed : Bool) (h : Runs x s (fun _ t => Q t) fun failure t => Q t ∧ E failure t) :
    Runs (x >>= demandKind typed) s (fun _ t => Q t)
      fun failure t => Q t ∧ ((∃ place, failure = .layout .noKind place) ∨ E failure t) := by
  refine runs_bind (h.imp (fun script t ht => ?_) fun _ _ he => ⟨he.1, Or.inr he.2⟩)
  unfold demandKind
  split
  · exact runs_throw ⟨ht, Or.inl ⟨_, rfl⟩⟩
  · exact runs_pure ht

/-- **Reading a file stores nothing on the trail of its failure**, unless all that is wrong is that
it does not declare its kind. -/
theorem runs_parseFile (disk : Disk) (hs : s.parsing = []) (l : Location) (typed : Bool) :
    Runs (parseFile disk l typed) s (fun _ t => Store.Files disk [] s t)
      fun failure t => Store.Files disk [] s t ∧ ((∃ place, failure = .layout .noKind place) ∨
        Fails disk [] (.ofLocation disk l) s failure t) := by
  unfold parseFile Store.resolve Snag.ofLocation
  by_cases hl : l.isSound = true
  · simp only [if_pos hl, pure_bind]
    refine runs_get_bind (runs_bind_demandKind typed ?_)
    rw [hs]
    exact (settles_parseAt ⟨l, hl, rfl⟩ fun _ hc => absurd hc List.not_mem_nil).imp
      (fun _ _ => And.left) fun _ _ h => ⟨h.1, h.2.2⟩
  · simp only [if_neg hl]
    exact runs_throw ⟨.refl, Or.inr .fault⟩

/-- **Reading a text stores nothing on the trail of its failure**, unless all that is wrong is that
it does not declare its kind. -/
theorem runs_parseText (hs : s.parsing = []) (text : Text) (path : Option Text) (typed : Bool) :
    Runs (parseText disk text path typed) s (fun _ t => Store.Files disk [] s t)
      fun failure t => Store.Files disk [] s t ∧ ((∃ place, failure = .layout .noKind place) ∨
        ∃ x u, LinesMeet disk (parseAt disk []) path (baseOf disk path) (Text.lines text) s failure
          x u ∧ Fails disk [] x u failure t) := by
  unfold parseText
  refine runs_get_bind (runs_bind_demandKind typed ?_)
  rw [hs]
  exact (runs_ofLines [] fun q hq _ _ => settles_parseAt hq fun _ hc =>
    absurd hc List.not_mem_nil).imp (fun _ _ h => h.2.2.1) fun _ _ => id

end Files

end FrameScript.Script
