import FrameScript.Proofs.Inclusion
import FrameScript.Proofs.Outline.Unrolling
import FrameScript.Proofs.Script.Header
import FrameScript.Script.Parse
import Mathlib.Logic.Relation

/-!
# Reading scripts without a store

`plainAt` reads a file and, each time anew, the files that it includes; a file in progress is a
fault. Where it ends with a script, every line of every file on the way has been passed, and so the
result depends on the files in progress only as far as the file leads to them.

## Results

* `exists_of_includes`: a file that can be read includes only files that can be read after it.
* `not_mem_of_leads`: a file that can be read leads neither to one in progress nor to itself.
* `plainAt_of_ok_of_apart`: **a script does not depend on the files in progress**, if the file leads
  to none of them.
-/

namespace FrameScript.Script

open Outline

variable {disk : Disk} {source : Option Text} {base : Location}
  {parse parse' : Path → Except Failure Script} {lines : List Text} {p q : Path}
  {chain chain' : List Path}

/-- The frame of a line of data. -/
def plainData (source : Option Text) (format : Format) (line : Line) : Except Failure Frame :=
  match format.frame? ⟨source, some line.number⟩ line.content with
  | some frame => .ok frame
  | none => .error (.layout (.mismatch format.source line.content) ⟨source, some line.number⟩)

/-- The fault of a line that may not include a script or names none. -/
def closedFault (found : HeaderLines) : LayoutFault :=
  if found.isFragment then .includeInFragment else .includeNothing

/-- The frames of the script that a line includes. -/
def plainInclusion (disk : Disk) (source : Option Text) (base : Location) (found : HeaderLines)
    (parse : Path → Except Failure Script) (line : Line) (target : Text) :
    Except Failure (List Frame) :=
  match found.aim disk base target with
  | .nowhere => .error (.layout (closedFault found) ⟨source, some line.number⟩)
  | .astray => .error .badPath
  | .file q => (parse q).map Script.frames

/-- The script that lines make; `parse` tells the scripts of files. -/
def plainLines (disk : Disk) (source : Option Text) (base : Location)
    (parse : Path → Except Failure Script) (lines : List Text) : Except Failure Script :=
  match Header.read source lines with
  | .error failure => .error failure
  | .ok header =>
    ((outlineOf lines).unrolled source (plainData source header.format)
      (plainInclusion disk source base (HeaderLines.find lines) parse)).map (⟨source, header, ·⟩)

/-- A file in progress is a fault, and another one makes the script of its lines. -/
def descent (disk : Disk) : Descent Script where
  closed chain p := .error (cycleFailure chain p)
  opened p parse := plainLines disk (some p.text) p.parent.location parse

/-- The script at a canonical path, while the files of `chain` are in progress. -/
def plainAt (disk : Disk) (chain : List Path) (p : Path) : Except Failure Script :=
  (descent disk).run disk chain p

/-! ## Lines -/

theorem usable_of_read {header : Header} (h : Header.read source lines = .ok header) :
    (HeaderLines.find lines).isUsable = true :=
  (Header.ofFound_ok h).1

theorem aim_of_plainInclusion {found : HeaderLines} {line : Line} {target : Text}
    {frames : List Frame}
    (h : plainInclusion disk source base found parse line target = .ok frames) :
    ∃ q script, found.aim disk base target = .file q ∧ parse q = .ok script ∧
      script.frames = frames := by
  unfold plainInclusion at h
  cases ha : found.aim disk base target with
  | nowhere =>
    rw [ha] at h
    cases h
  | astray =>
    rw [ha] at h
    cases h
  | file q =>
    simp only [ha] at h
    cases hp : parse q with
    | ok script =>
      rw [hp] at h
      exact ⟨q, script, rfl, hp, Except.ok.inj h⟩
    | error failure =>
      rw [hp] at h
      cases h

theorem plainInclusion_of_file {found : HeaderLines} {line : Line} {target : Text}
    {script : Script} (ha : found.aim disk base target = .file q) (hp : parse q = .ok script) :
    plainInclusion disk source base found parse line target = .ok script.frames := by
  simp only [plainInclusion, ha, hp]
  rfl

/-- What it takes for lines to make a script. -/
theorem plainLines_ok {script : Script} (h : plainLines disk source base parse lines = .ok script) :
    ∃ header, Header.read source lines = .ok header ∧
      (outlineOf lines).steps.findSome? (Step.halt source (plainData source header.format)
        (plainInclusion disk source base (HeaderLines.find lines) parse)) = none ∧
      script = ⟨source, header, (outlineOf lines).unroll (plainData source header.format)
        (plainInclusion disk source base (HeaderLines.find lines) parse)⟩ := by
  unfold plainLines at h
  split at h
  · cases h
  · rename_i header hh
    cases hf : (outlineOf lines).steps.findSome? (Step.halt source (plainData source header.format)
        (plainInclusion disk source base (HeaderLines.find lines) parse)) with
    | none =>
      rw [unrolled_of_none hf] at h
      exact ⟨header, hh, hf, (Except.ok.inj h).symm⟩
    | some failure =>
      rw [unrolled_of_some hf] at h
      cases h

/-- Lines that make a script make the same one if the files that they include do. -/
theorem plainLines_of_agree {script : Script}
    (h : plainLines disk source base parse lines = .ok script)
    (hp : ∀ line target q included, .leaf line (.inclusion target) ∈ (outlineOf lines).steps →
      (HeaderLines.find lines).aim disk base target = .file q → parse q = .ok included →
      parse' q = .ok included) :
    plainLines disk source base parse' lines = .ok script := by
  obtain ⟨header, hh, hnone, -⟩ := plainLines_ok h
  simp only [plainLines, hh] at h ⊢
  rw [unrolled_congr fun line target hstep => ?_]
  · exact h
  · obtain ⟨frames, hf⟩ := ok_of_halt_inclusion (List.findSome?_eq_none_iff.mp hnone _ hstep)
    obtain ⟨q, included, ha, hparse, hframes⟩ := aim_of_plainInclusion hf
    rw [hf, ← hframes]
    exact plainInclusion_of_file ha (hp line target q included hstep ha hparse)

/-- Lines fail as the file does that the first of them includes. -/
theorem plainLines_of_first_inclusion {header : Header} {line : Line} {target : Text}
    {next : Outline} {failure : Failure} (hh : Header.read source lines = .ok header)
    (ho : outlineOf lines = .leaf line (.inclusion target) next)
    (ha : (HeaderLines.find lines).aim disk base target = .file q) (hq : parse q = .error failure) :
    plainLines disk source base parse lines = .error failure := by
  have hincluded : plainInclusion disk source base (HeaderLines.find lines) parse line target =
      .error failure := by
    simp only [plainInclusion, ha, hq]
    rfl
  simp only [plainLines, hh, ho]
  rw [unrolled_leaf_of_some (halt_inclusion_of_error hincluded)]
  rfl

/-- A body in which nothing faults has lines that fit only. -/
theorem fits_of_findSome? {o : Outline} {data : Line → Except Failure Frame}
    {included : Line → Text → Except Failure (List Frame)}
    (h : o.steps.findSome? (Step.halt source data included) = none) : o.Fits := by
  intro line misfit hm
  have hnone := List.findSome?_eq_none_iff.mp h _ hm
  cases hnone

/-! ## Files -/

theorem plainAt_of_mem (h : p ∈ chain) :
    plainAt disk chain p = .error (cycleFailure chain p) :=
  Descent.run_of_mem h

theorem plainAt_of_error {fault : ReadFault} (h : p ∉ chain) (hs : disk.source p = .error fault) :
    plainAt disk chain p = .error (.unreadable p.text p.text fault) :=
  Descent.run_of_error h hs

theorem plainAt_of_ok {text : Text} (h : p ∉ chain) (hs : disk.source p = .ok text) :
    plainAt disk chain p =
      plainLines disk (some p.text) p.parent.location (plainAt disk (p :: chain))
        (Text.lines text) :=
  Descent.run_of_ok h hs

/-- A file that includes no file but `q` is read as its lines are when every inclusion is given what
`q` makes. -/
theorem plainAt_of_sole_target {text target : Text} {script : Script} (hc : p ∉ chain)
    (hs : disk.source p = .ok text)
    (ht : ∀ line own, .leaf line (.inclusion own) ∈ (outlineOf (Text.lines text)).steps →
      own = target)
    (hq : disk.canonical (p.parent.location.under (Location.read target)) = q)
    (h : plainLines disk (some p.text) p.parent.location (fun _ => plainAt disk (p :: chain) q)
      (Text.lines text) = .ok script) : plainAt disk chain p = .ok script := by
  rw [plainAt_of_ok hc hs]
  refine plainLines_of_agree h fun line own q' included hstep ha hq' => ?_
  rw [HeaderLines.eq_canonical_of_aim ha, ht line own hstep, hq]
  exact hq'

/-- A file that makes a script is not in progress, and its text is found. -/
theorem source_of_ok {script : Script} (h : plainAt disk chain p = .ok script) :
    p ∉ chain ∧ ∃ text, disk.source p = .ok text := by
  by_cases hc : p ∈ chain
  · rw [plainAt_of_mem hc] at h
    cases h
  · cases hs : disk.source p with
    | ok text => exact ⟨hc, text, rfl⟩
    | error fault =>
      rw [plainAt_of_error hc hs] at h
      cases h

/-- **A file that can be read includes only files that can be read after it.** -/
theorem exists_of_includes {script : Script} (h : plainAt disk chain p = .ok script)
    (hq : Includes disk p q) : ∃ included, plainAt disk (p :: chain) q = .ok included := by
  obtain ⟨text, hs, line, hmem, hsaid, target, hd, hcanon⟩ := hq
  obtain ⟨hc, -⟩ := source_of_ok h
  rw [plainAt_of_ok hc hs] at h
  obtain ⟨header, -, hnone, -⟩ := plainLines_ok h
  have hstep := stepFor_of_fits (fits_of_findSome? hnone) hmem hsaid
  rw [hd] at hstep
  obtain ⟨frames, hf⟩ := ok_of_halt_inclusion (List.findSome?_eq_none_iff.mp hnone _ hstep)
  obtain ⟨q', included, ha, hp, -⟩ := aim_of_plainInclusion hf
  rw [hcanon, ← HeaderLines.eq_canonical_of_aim ha]
  exact ⟨included, hp⟩

/-- **A file that can be read leads neither to one in progress nor to itself.** -/
theorem not_mem_of_leads {script : Script} (h : plainAt disk chain p = .ok script)
    (hq : Relation.TransGen (Includes disk) p q) : q ∉ p :: chain := by
  induction hq using Relation.TransGen.head_induction_on generalizing chain script with
  | single hi =>
    obtain ⟨included, hp⟩ := exists_of_includes h hi
    exact (source_of_ok hp).1
  | head hi _ ih =>
    obtain ⟨included, hp⟩ := exists_of_includes h hi
    exact fun hmem => ih hp (List.mem_cons_of_mem _ hmem)

/-- **A script does not depend on the files in progress**, if the file leads to none of those that
come in addition. -/
theorem plainAt_of_ok_of_apart {script : Script} (h : plainAt disk chain p = .ok script)
    (hc : ∀ c ∈ chain', c ∉ chain → ¬ Relation.ReflTransGen (Includes disk) p c) :
    plainAt disk chain' p = .ok script := by
  induction hr : room disk.paths chain using Nat.strongRecOn generalizing chain chain' p script with
  | ind k ih =>
    obtain ⟨hn, text, hs⟩ := source_of_ok h
    have hn' : p ∉ chain' := fun hp => hc p hp hn Relation.ReflTransGen.refl
    rw [plainAt_of_ok hn hs] at h
    rw [plainAt_of_ok hn' hs]
    refine plainLines_of_agree h fun line target q included hstep ha hp =>
      ih _ ?_ hp (fun c hmem hnot hlead => ?_) rfl
    · exact hr ▸ Disk.room_lt_of_source hn hs
    · rcases List.mem_cons.mp hmem with rfl | hmem
      · exact hnot List.mem_cons_self
      · exact hc c hmem (fun h => hnot (List.mem_cons_of_mem _ h))
          (Relation.ReflTransGen.head (includes_of_step hs hstep ha) hlead)

end FrameScript.Script
