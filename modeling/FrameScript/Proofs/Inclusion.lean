import FrameScript.Disk.Walk
import FrameScript.Proofs.Outline.Steps
import FrameScript.Script.Header

/-!
# Where inclusions lead

A line that includes a script leads to a canonical path, unless no script may be included there or
the path is none that a system takes. Counting and reading scripts agree on this; they differ in
what they make of a line that leads nowhere.

`Includes` says the same of the lines as they are written, without asking whether they fit.

Whoever counts or reads a file goes down into the files that it includes, and comes to a file that
is in progress, to one that cannot be read, or to one more text. `Descent` holds what the two make
of this, and `Descent.run` is the way down, which ends because every file on it leaves less room.
-/

namespace FrameScript

/-- Where a line that includes a script leads: nowhere, because no script may be included or none
is named; to a path that no system takes; or to a canonical path. -/
inductive Aim where
  | nowhere
  | astray
  | file (p : Path)
  deriving DecidableEq

/-- Where a line that names `target` leads, in a script that is seen from `base`. -/
def HeaderLines.aim (found : HeaderLines) (disk : Disk) (base : Location) (target : Text) : Aim :=
  if found.isFragment || target.isEmpty then .nowhere
  else if (base.under (Location.read target)).isSound then
    .file (disk.canonical (base.under (Location.read target)))
  else .astray

namespace HeaderLines

variable {found : HeaderLines} {disk : Disk} {base : Location} {target : Text}

theorem aim_of_closed (h : (found.isFragment || target.isEmpty) = true) :
    found.aim disk base target = .nowhere := by
  rw [aim, if_pos h]

theorem aim_of_not_sound (h : ¬(found.isFragment || target.isEmpty) = true)
    (hs : (base.under (Location.read target)).isSound = false) :
    found.aim disk base target = .astray := by
  rw [aim, if_neg h, if_neg (Bool.eq_false_iff.mp hs)]

theorem aim_of_sound (h : ¬(found.isFragment || target.isEmpty) = true)
    (hs : (base.under (Location.read target)).isSound = true) :
    found.aim disk base target = .file (disk.canonical (base.under (Location.read target))) := by
  rw [aim, if_neg h, if_pos hs]

theorem eq_canonical_of_aim {q : Path} (h : found.aim disk base target = .file q) :
    q = disk.canonical (base.under (Location.read target)) := by
  unfold aim at h
  split at h
  · cases h
  · split at h
    · exact (Aim.file.inj h).symm
    · cases h

theorem not_sound_of_aim (h : found.aim disk base target = .astray) :
    (base.under (Location.read target)).isSound = false := by
  unfold aim at h
  split at h
  · cases h
  · split at h
    · cases h
    · rename_i hs
      exact Bool.eq_false_iff.mpr hs

end HeaderLines

/-- The lines of a script after its header, measured. -/
def bodyOf (lines : List Text) : List Line :=
  Line.measureFrom ((HeaderLines.find lines).bodyStart + 1)
    (lines.drop (HeaderLines.find lines).bodyStart)

/-- Some line of the file `p`, after the header, includes the file `q`. -/
def Includes (disk : Disk) (p q : Path) : Prop :=
  ∃ text, disk.source p = .ok text ∧ ∃ line ∈ bodyOf (Text.lines text), line.isSkipped = false ∧
    ∃ target, Directive.read line.content = .inclusion target ∧
      q = disk.canonical (p.parent.location.under (Location.read target))

/-! ## Going down into files -/

/-- What comes of files: of one that is in progress, and of one with the given lines, if it is told
what comes of others. -/
structure Descent (α : Type) where
  closed : List Path → Path → Except Failure α
  opened : Path → (Path → Except Failure α) → List Text → Except Failure α

namespace Descent

variable {α : Type} {d : Descent α} {disk : Disk} {chain : List Path} {p : Path}

/-- What comes of the file at a canonical path, while the files of `chain` are in progress. -/
def run (d : Descent α) (disk : Disk) (chain : List Path) (p : Path) : Except Failure α :=
  if _hc : p ∈ chain then d.closed chain p
  else
    match _hs : disk.source p with
    | .error fault => .error (.unreadable p.text p.text fault)
    | .ok text => d.opened p (fun q => d.run disk (p :: chain) q) (Text.lines text)
termination_by room disk.paths chain
decreasing_by exact Disk.room_lt_of_source _hc _hs

theorem run_of_mem (h : p ∈ chain) : d.run disk chain p = d.closed chain p := by
  rw [run, dif_pos h]

theorem run_of_error {fault : ReadFault} (h : p ∉ chain) (hs : disk.source p = .error fault) :
    d.run disk chain p = .error (.unreadable p.text p.text fault) := by
  rw [run, dif_neg h]
  split
  · rename_i hs'
    rw [hs] at hs'
    rw [Except.error.inj hs']
  · rename_i hs'
    rw [hs] at hs'
    cases hs'

theorem run_of_ok {text : Text} (h : p ∉ chain) (hs : disk.source p = .ok text) :
    d.run disk chain p = d.opened p (d.run disk (p :: chain)) (Text.lines text) := by
  rw [run, dif_neg h]
  split
  · rename_i hs'
    rw [hs] at hs'
    cases hs'
  · rename_i hs'
    rw [hs] at hs'
    rw [Except.ok.inj hs']

end Descent

/-- The outline of the body of a script. -/
abbrev outlineOf (lines : List Text) : Outline :=
  Outline.ofLines (HeaderLines.find lines).bodyStart lines

theorem includes_of_step {disk : Disk} {p q : Path} {text target : Text} {line : Line}
    (hs : disk.source p = .ok text)
    (hstep : .leaf line (.inclusion target) ∈ (outlineOf (Text.lines text)).steps)
    (ha : (HeaderLines.find (Text.lines text)).aim disk p.parent.location target = .file q) :
    Includes disk p q := by
  obtain ⟨hn, hd⟩ := Outline.agrees_of_mem_steps_build hstep
  exact ⟨text, hs, line, Outline.line_of_mem_steps_build hstep rfl, hn, target, hd,
    HeaderLines.eq_canonical_of_aim ha⟩

end FrameScript
