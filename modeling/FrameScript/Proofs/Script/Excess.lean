import FrameScript.Proofs.Input.Compiling
import FrameScript.Proofs.Script.Memo
import FrameScript.Proofs.Script.Origins
import FrameScript.Script.Load

/-!
# What loading and compiling fail for

A script that cannot be loaded or compiled fails for something that the language of scripts knows:
a fault of a format or of the layout, an unknown name, a value that is no coordinate, a file that is
not available. There are exceptions. A numeral of more than `Numeral.digitLimit` digits passes for a
number everywhere until its value is asked for, a body cannot be repeated more than
`Outline.repeatLimit` times, and not every text is a path. `Excess` lists what a file can ask for in
this way, with the failure that follows, which has no kind. It says nothing of systems that bound
the depth of calls, or that refuse a link which leads back to itself (`Disk.canonical`): here
neither is a reason to fail.

## Results

* `plainAt_error`: reading a file fails for something that the language knows, or for an excess of a
  file that it leads to.
* `misread_of_compileAll`: what compiling fails for, told by the frames.
* `Failure.Kind.isCaseOf_general`: every kind of failure is a case of the general one.
* `known_or_exceeds_of_loadCompiled`: **loading and compiling fail for something that the language
  knows**, unless some file is excessive.
-/

namespace FrameScript

/-- The kinds of failure with which loading and compiling may end. -/
def Failure.Kind.ofLoading : List Failure.Kind :=
  [.format, .layout, .unknownField, .unknownKey, .unavailable, .incompatible, .badValue]

/-- The kind is the other one or a case of it, perhaps of a case of it. -/
def Failure.Kind.IsCaseOf (kind other : Failure.Kind) : Prop :=
  Relation.ReflTransGen (fun kind parent => kind.parent? = some parent) kind other

/-- **Every kind is a case of the general one**, so that whoever is prepared for that is prepared for
every failure with a kind. -/
theorem Failure.Kind.isCaseOf_general (kind : Failure.Kind) : kind.IsCaseOf .general := by
  have hlocated : Failure.Kind.located.IsCaseOf .general := .single rfl
  have hinstruction : Failure.Kind.instruction.IsCaseOf .general := .single rfl
  cases kind with
  | general => exact .refl
  | located => exact hlocated
  | instruction => exact hinstruction
  | format | layout => exact hlocated.head rfl
  | incompatible | unknownKey | unknownField | badValue => exact hinstruction.head rfl
  | unavailable | busy => exact .single rfl

/-- The failure is one that the language of scripts knows, and loading or compiling may end with
it. -/
def Failure.IsKnown (failure : Failure) : Prop :=
  ∃ kind ∈ Failure.Kind.ofLoading, failure.kind? = some kind

/-- What the lines of a script ask for that cannot be given, in a script that is seen from `base`,
and the failure that follows. -/
inductive Excess (base : Location) (lines : List Text) : Failure → Prop
  | button {text number literal : Text} {digits : Nat}
      (hf : (HeaderLines.find lines).formatText = some text)
      (hm : ('M' :: number, literal) ∈ (Format.scan text).2)
      (hn : Numeral.readNat number = .tooLong digits) : Excess base lines (.longNumeral digits)
  | longCount {line : Line} {text : Text} {digits : Nat} (hm : line ∈ bodyOf lines)
      (hs : line.isSkipped = false) (hd : Directive.read line.content = .repetition text)
      (hn : Numeral.readNat text = .tooLong digits) : Excess base lines (.longNumeral digits)
  | largeCount {line : Line} {text : Text} {count : Nat} (hm : line ∈ bodyOf lines)
      (hs : line.isSkipped = false) (hd : Directive.read line.content = .repetition text)
      (hn : Numeral.readNat text = .value count) (hl : Outline.repeatLimit < count) :
      Excess base lines .hugeRepeat
  | path {line : Line} {target : Text} (hm : line ∈ bodyOf lines) (hs : line.isSkipped = false)
      (hd : Directive.read line.content = .inclusion target)
      (hu : (base.under (Location.read target)).isSound = false) : Excess base lines .badPath
  | coordinate {source : Option Text} {header : Header} {line : Line} {frame : Frame}
      {axis : Axis} {value : Text} {digits : Nat} (hh : Header.read source lines = .ok header)
      (hm : line ∈ bodyOf lines) (hs : line.isSkipped = false)
      (hd : Directive.read line.content = .data)
      (hf : header.format.frame? ⟨source, some line.number⟩ line.content = some frame)
      (hv : (axis.name, value) ∈ frame.entries) (hn : Numeral.readInt value = .tooLong digits) :
      Excess base lines (.longNumeral digits)

/-- The failure is one that an excess has which is found at the location itself or in a file that
the one there leads to. -/
def Exceeds (disk : Disk) (l : Location) (failure : Failure) : Prop :=
  (l.isSound = false ∧ failure = .badPath) ∨
    ∃ q text, Relation.ReflTransGen (Includes disk) (disk.canonical l) q ∧
      disk.source q = .ok text ∧ Excess q.parent.location (Text.lines text) failure

namespace Failure

variable {failure : Failure}

theorem isKnown_of_kind {kind : Kind} (h : failure.kind? = some kind)
    (hm : kind ∈ Kind.ofLoading) : failure.IsKnown :=
  ⟨kind, hm, h⟩

theorem isKnown_layout (fault : LayoutFault) (place : Place) : (layout fault place).IsKnown :=
  isKnown_of_kind rfl (by decide)

theorem isKnown_format (fault : FormatFault) (place : Place) : (format fault place).IsKnown :=
  isKnown_of_kind rfl (by decide)

/-- A failure without a kind is none that the language knows. -/
theorem not_isKnown_of_kind (h : failure.kind? = none) : ¬failure.IsKnown := by
  rintro ⟨kind, -, hk⟩
  rw [h] at hk
  cases hk

end Failure

/-! ## Headers -/

/-- Reading a name fails for what it is, unless it is that of a button with too many digits. -/
theorem Field.known_or_long_of_readKind {name : Text} {failure : Failure}
    (h : Field.readKind name = .error failure) :
    failure.IsKnown ∨ ∃ number digits, name = 'M' :: number ∧
      Numeral.readNat number = .tooLong digits ∧ failure = .longNumeral digits := by
  unfold Field.readKind at h
  split at h
  · cases h
  · cases h
  · split at h
    · cases h
    · cases h
      exact Or.inl (Failure.isKnown_of_kind rfl (by decide))
  · rename_i number _ _
    split at h
    · cases h
    · rename_i digits hn
      exact Or.inr ⟨number, digits, rfl, hn, (Except.error.inj h).symm⟩
    · cases h
      exact Or.inl (Failure.isKnown_of_kind rfl (by decide))
  · cases h
    exact Or.inl (Failure.isKnown_of_kind rfl (by decide))

namespace Format

variable {place : Place} {seen : List Text} {pieces : List (Text × Text)} {failure : Failure}

theorem known_or_long_of_readColumns (h : readColumns place seen pieces = .error failure) :
    failure.IsKnown ∨ ∃ number literal digits, ('M' :: number, literal) ∈ pieces ∧
      Numeral.readNat number = .tooLong digits ∧ failure = .longNumeral digits := by
  induction pieces generalizing seen with
  | nil => cases h
  | cons piece rest ih =>
    obtain ⟨name, literal⟩ := piece
    rw [readColumns_cons] at h
    split at h
    · cases h
      exact Or.inl (Failure.isKnown_format _ _)
    · split at h
      · cases h
        exact Or.inl (Failure.isKnown_format _ _)
      · split at h
        · rename_i fault hf
          cases h
          have hk := Field.readKind_of_read_error hf
          rcases Field.known_or_long_of_readKind hk with hknown | ⟨number, digits, rfl, hn, he⟩
          · exact Or.inl hknown
          · exact Or.inr ⟨number, literal, digits, List.mem_cons_self, hn, he⟩
        · split at h
          · rename_i fault hr
            cases h
            rcases ih hr with hknown | ⟨number, later, digits, hm, hn, he⟩
            · exact Or.inl hknown
            · exact Or.inr ⟨number, later, digits, List.mem_cons_of_mem _ hm, hn, he⟩
          · cases h

theorem known_or_long_of_read {text : Text} (h : read text place = .error failure) :
    failure.IsKnown ∨ ∃ number literal digits, ('M' :: number, literal) ∈ (scan text).2 ∧
      Numeral.readNat number = .tooLong digits ∧ failure = .longNumeral digits := by
  unfold read at h
  split at h
  · rename_i hr
    cases h
    exact known_or_long_of_readColumns hr
  · cases h
    exact Or.inl (Failure.isKnown_format _ _)
  · cases h

end Format

/-- **A header fails for what it says**, or for the number of a button. -/
theorem Header.known_or_excess_of_read {source : Option Text} {base : Location}
    {lines : List Text} {failure : Failure} (h : Header.read source lines = .error failure) :
    failure.IsKnown ∨ Excess base lines failure := by
  unfold Header.read Header.ofFound at h
  split at h
  · rename_i fault hk
    cases h
    unfold Header.readKind at hk
    split at hk
    · cases hk
    · split at hk
      · cases hk
      · cases hk
        exact Or.inl (Failure.isKnown_layout _ _)
  · split at h
    · cases h
      exact Or.inl (Failure.isKnown_layout _ _)
    · rename_i text hf
      split at h
      · rename_i fault hr
        cases h
        rcases Format.known_or_long_of_read hr with hknown | ⟨number, literal, digits, hm, hn, rfl⟩
        · exact Or.inl hknown
        · exact Or.inr (.button hf hm hn)
      · cases h

namespace Script

open Outline Reading

variable {disk : Disk} {source : Option Text} {base : Location} {lines : List Text}
  {parse : Path → Except Failure Script} {p : Path} {chain : List Path} {script : Script}
  {failure : Failure}

/-! ## Bodies -/

theorem isKnown_of_plainData {format : Format} {line : Line}
    (h : plainData source format line = .error failure) : failure.IsKnown := by
  unfold plainData at h
  split at h
  · cases h
  · cases h
    exact Failure.isKnown_layout _ _

/-- What a line that includes a script fails for: something that the language knows, its path, or
the script. -/
theorem cases_of_plainInclusion {line : Line} {target : Text} (hm : line ∈ bodyOf lines)
    (hs : line.isSkipped = false) (hd : Directive.read line.content = .inclusion target)
    (h : plainInclusion disk source base (HeaderLines.find lines) parse line target =
      .error failure) :
    failure.IsKnown ∨ Excess base lines failure ∨
      ∃ q, (HeaderLines.find lines).aim disk base target = .file q ∧ parse q = .error failure := by
  unfold plainInclusion at h
  cases ha : (HeaderLines.find lines).aim disk base target with
  | nowhere =>
    rw [ha] at h
    cases h
    exact Or.inl (Failure.isKnown_layout _ _)
  | astray =>
    rw [ha] at h
    cases h
    exact Or.inr (Or.inl (.path hm hs hd (HeaderLines.not_sound_of_aim ha)))
  | file q =>
    simp only [ha] at h
    cases hp : parse q with
    | ok included =>
      rw [hp] at h
      cases h
    | error fault =>
      rw [hp] at h
      cases h
      exact Or.inr (Or.inr ⟨q, rfl, hp⟩)

/-- What a step of a body fails for: something that the language knows, an excess of its line, or
the file that the line includes. -/
theorem cases_of_halt {format : Format} {step : Step} (hstep : step ∈ (outlineOf lines).steps)
    (h : step.halt source (plainData source format)
      (plainInclusion disk source base (HeaderLines.find lines) parse) = some failure) :
    failure.IsKnown ∨ Excess base lines failure ∨ ∃ line target q,
      step = .leaf line (.inclusion target) ∧
        (HeaderLines.find lines).aim disk base target = .file q ∧ parse q = .error failure := by
  have hagrees := agrees_of_mem_steps_build hstep
  match step, hagrees with
  | .leaf line .skip, _ => cases h
  | .leaf line .data, _ =>
    cases hf : plainData source format line with
    | ok frame =>
      rw [halt_data_of_ok hf] at h
      cases h
    | error fault =>
      rw [halt_data_of_error hf] at h
      cases h
      exact Or.inl (isKnown_of_plainData hf)
  | .leaf line (.inclusion target), ⟨hs, hd⟩ =>
    cases hf : plainInclusion disk source base (HeaderLines.find lines) parse line target with
    | ok frames =>
      rw [halt_inclusion_of_ok hf] at h
      cases h
    | error fault =>
      rw [halt_inclusion_of_error hf] at h
      cases h
      have hm : line ∈ bodyOf lines := line_of_mem_steps_build hstep rfl
      rcases cases_of_plainInclusion hm hs hd hf with hknown | hexcess | ⟨q, ha, hp⟩
      · exact Or.inl hknown
      · exact Or.inr (Or.inl hexcess)
      · exact Or.inr (Or.inr ⟨line, target, q, rfl, ha, hp⟩)
  | .leaf line (.bad .stray), _ =>
    cases h
    exact Or.inl (Failure.isKnown_layout _ _)
  | .leaf line (.bad (.badCount text)), _ =>
    cases h
    exact Or.inl (Failure.isKnown_layout _ _)
  | .leaf line (.bad (.longCount digits)), ⟨hs, text, hd, hn⟩ =>
    cases h
    exact Or.inr (Or.inl (.longCount (line_of_mem_steps_build hstep rfl) hs hd hn))
  | .enter line count, _ => cases h
  | .leave count, _ =>
    by_cases hl : repeatLimit < count
    · rw [halt_leave_of_lt hl] at h
      cases h
      -- Whatever ends has begun, and the line where it began has the count.
      obtain ⟨line, henter⟩ := leave_mem_steps_iff.mp hstep
      obtain ⟨hs, text, hd, hn⟩ := agrees_of_mem_steps_build henter
      exact Or.inr (Or.inl (.largeCount (line_of_mem_steps_build henter rfl) hs hd hn hl))
    · rw [halt_leave_of_le (Nat.not_lt.mp hl)] at h
      cases h

theorem cases_of_plainLines (h : plainLines disk source base parse lines = .error failure) :
    failure.IsKnown ∨ Excess base lines failure ∨ ∃ line target q,
      .leaf line (.inclusion target) ∈ (outlineOf lines).steps ∧
        (HeaderLines.find lines).aim disk base target = .file q ∧ parse q = .error failure := by
  unfold plainLines at h
  split at h
  · rename_i fault hh
    cases h
    rcases Header.known_or_excess_of_read hh with hknown | hexcess
    · exact Or.inl hknown
    · exact Or.inr (Or.inl hexcess)
  · rename_i header hh
    cases hf : (outlineOf lines).steps.findSome? (Step.halt source (plainData source header.format)
        (plainInclusion disk source base (HeaderLines.find lines) parse)) with
    | none =>
      rw [unrolled_of_none hf] at h
      cases h
    | some fault =>
      rw [unrolled_of_some hf] at h
      cases h
      obtain ⟨step, hstep, hhalt⟩ := List.exists_of_findSome?_eq_some hf
      rcases cases_of_halt hstep hhalt with hknown | hexcess | ⟨line, target, q, rfl, ha, hp⟩
      · exact Or.inl hknown
      · exact Or.inr (Or.inl hexcess)
      · exact Or.inr (Or.inr ⟨line, target, q, hstep, ha, hp⟩)

/-! ## Files -/

/-- **Reading a file fails for something that the language knows**, or for an excess of a file that
it leads to. -/
theorem plainAt_error (h : plainAt disk chain p = .error failure) :
    failure.IsKnown ∨ ∃ q text, Relation.ReflTransGen (Includes disk) p q ∧
      disk.source q = .ok text ∧ Excess q.parent.location (Text.lines text) failure := by
  induction hr : room disk.paths chain using Nat.strongRecOn generalizing chain p with
  | ind k ih =>
    by_cases hc : p ∈ chain
    · rw [plainAt_of_mem hc] at h
      cases h
      exact Or.inl (Failure.isKnown_layout _ _)
    cases hs : disk.source p with
    | error fault =>
      rw [plainAt_of_error hc hs] at h
      cases h
      exact Or.inl (Failure.isKnown_of_kind rfl (by decide))
    | ok text =>
      rw [plainAt_of_ok hc hs] at h
      rcases cases_of_plainLines h with hknown | hexcess | ⟨line, target, q, hstep, ha, hq⟩
      · exact Or.inl hknown
      · exact Or.inr ⟨p, text, .refl, hs, hexcess⟩
      · have hroom := Disk.room_lt_of_source hc hs
        rcases ih _ (hr ▸ hroom) hq rfl with hknown | ⟨r, text', hlead, hs', hexcess⟩
        · exact Or.inl hknown
        · exact Or.inr ⟨r, text', .head (includes_of_step hs hstep ha) hlead, hs', hexcess⟩

theorem plainFileTyped_error {l : Location} {typed : Bool}
    (h : plainFileTyped disk l typed = .error failure) :
    failure.IsKnown ∨ Exceeds disk l failure := by
  unfold plainFileTyped plainFile at h
  split at h
  · cases hp : plainAt disk [] (disk.canonical l) with
    | ok script =>
      rw [hp, Except.bind, plainDemand] at h
      split at h
      · cases h
        exact Or.inl (Failure.isKnown_layout _ _)
      · cases h
    | error fault =>
      rw [hp] at h
      cases h
      rcases plainAt_error hp with hknown | hexcess
      · exact Or.inl hknown
      · exact Or.inr (Or.inr hexcess)
  · rename_i hsound
    cases h
    exact Or.inr (Or.inl ⟨Bool.eq_false_iff.mpr hsound, rfl⟩)

end Script

/-! ## Compiling -/

/-- An entry of the frame cannot be read: its name or, on an axis of the mouse, its value. -/
def Frame.Misread (frame : Frame) (failure : Failure) : Prop :=
  ∃ name value, (name, value) ∈ frame.entries ∧
    (Field.readKind name = .error failure ∨
      ∃ axis : Axis, name = axis.name ∧ readCoordinate name value = .error failure)

namespace Compiler

variable {compiler : Compiler} {previous : Option Frame} {frame : Frame} {frames : List Frame}
  {draft : Draft} {failure : Failure}

/-- What an entry fails for that cannot be added. -/
theorem cases_of_add {entry : Text × Text} (h : draft.add previous entry = .error failure) :
    Field.readKind entry.1 = .error failure ∨
      ∃ axis : Axis, entry.1 = axis.name ∧ readCoordinate entry.1 entry.2 = .error failure := by
  unfold Draft.add at h
  cases hk : Field.readKind entry.1 with
  | error fault =>
    rw [hk] at h
    cases h
    exact Or.inl rfl
  | ok kind =>
    cases hc : readCoordinate entry.1 entry.2 with
    | ok coordinate => cases kind <;> simp only [hk, hc] at h <;> cases h
    | error fault =>
      cases kind with
      | mouseX =>
        simp only [hk, hc] at h
        cases h
        exact Or.inr ⟨.horizontal, Axis.readKind_eq_iff.mp hk, rfl⟩
      | mouseY =>
        simp only [hk, hc] at h
        cases h
        exact Or.inr ⟨.vertical, Axis.readKind_eq_iff.mp hk, rfl⟩
      | key code =>
        simp only [hk] at h
        cases h
      | button number =>
        simp only [hk] at h
        cases h

theorem misread_of_addAll {entries : List (Text × Text)}
    (hsub : ∀ entry ∈ entries, entry ∈ frame.entries)
    (h : draft.addAll previous entries = .error failure) : frame.Misread failure := by
  induction entries generalizing draft with
  | nil => cases h
  | cons entry rest ih =>
    unfold Draft.addAll at h
    split at h
    · rename_i fault ha
      cases h
      exact ⟨entry.1, entry.2, hsub entry List.mem_cons_self, cases_of_add ha⟩
    · exact ih (fun e he => hsub e (List.mem_cons_of_mem entry he)) h

/-- A move fails for a coordinate of the frame before, if at all. -/
theorem misread_of_repeatsPlace {x y : Int} (h : repeatsPlace previous x y = .error failure) :
    ∃ prior, previous = some prior ∧ prior.Misread failure := by
  unfold repeatsPlace at h
  split at h
  · cases h
  · rename_i prior
    split at h
    · rename_i valueX valueY hx hy
      split at h
      · rename_i fault hc
        cases h
        exact ⟨prior, rfl, _, valueX, Frame.mem_entries_of_value? hx,
          Or.inr ⟨.horizontal, rfl, hc⟩⟩
      · split at h
        · cases hc : readCoordinate Field.mouseYName valueY with
          | ok coordinate =>
            rw [hc] at h
            cases h
          | error fault =>
            rw [hc] at h
            cases h
            exact ⟨prior, rfl, _, valueY, Frame.mem_entries_of_value? hy,
              Or.inr ⟨.vertical, rfl, hc⟩⟩
        · cases h
    · cases h

/-- What a frame fails for that cannot be compiled: its fields, an entry, or an entry of the frame
before. -/
theorem cases_of_compile (h : compiler.compile frame previous = .error failure) :
    failure.IsKnown ∨ ∃ misread, (previous = some misread ∨ misread = frame) ∧
      misread.Misread failure := by
  unfold compile at h
  split at h
  · split at h
    · rename_i fault ha
      cases h
      exact Or.inr ⟨frame, Or.inr rfl, misread_of_addAll (fun _ he => he) ha⟩
    · rename_i draft _
      cases hm : compiler.moveOf previous draft with
      | ok move =>
        rw [hm] at h
        cases h
      | error fault =>
        rw [hm] at h
        cases h
        unfold moveOf at hm
        split at hm
        · rename_i x y _ _
          split at hm
          · cases hr : repeatsPlace previous x y with
            | ok again =>
              rw [hr] at hm
              cases hm
            | error fault =>
              rw [hr] at hm
              cases hm
              obtain ⟨prior, hp, hmis⟩ := misread_of_repeatsPlace hr
              exact Or.inr ⟨prior, Or.inl hp, hmis⟩
          · cases hm
        · cases hm
  · cases h
    exact Or.inl (Failure.isKnown_of_kind rfl (by decide))

theorem cases_of_compileFrom (h : compiler.compileFrom previous frames = .error failure) :
    failure.IsKnown ∨ ∃ misread, (previous = some misread ∨ misread ∈ frames) ∧
      misread.Misread failure := by
  induction frames generalizing previous with
  | nil => cases h
  | cons frame rest ih =>
    unfold compileFrom at h
    split at h
    · rename_i fault hc
      cases h
      rcases cases_of_compile hc with hknown | ⟨misread, hmem | rfl, hmis⟩
      · exact Or.inl hknown
      · exact Or.inr ⟨misread, Or.inl hmem, hmis⟩
      · exact Or.inr ⟨misread, Or.inr List.mem_cons_self, hmis⟩
    · cases hc : compiler.compileFrom (some frame) rest with
      | ok deltas =>
        rw [hc] at h
        cases h
      | error fault =>
        rw [hc] at h
        cases h
        rcases ih hc with hknown | ⟨misread, hmem | hmem, hmis⟩
        · exact Or.inl hknown
        · cases hmem
          exact Or.inr ⟨frame, Or.inr List.mem_cons_self, hmis⟩
        · exact Or.inr ⟨misread, Or.inr (List.mem_cons_of_mem frame hmem), hmis⟩

/-- **Compiling fails for the fields of a frame**, or for an entry of one of the frames. -/
theorem misread_of_compileAll (h : compiler.compileAll frames = .error failure) :
    failure.IsKnown ∨ ∃ frame ∈ frames, frame.Misread failure := by
  rcases cases_of_compileFrom h with hknown | ⟨misread, hmem | hmem, hmis⟩
  · exact Or.inl hknown
  · cases hmem
  · exact Or.inr ⟨misread, hmem, hmis⟩

end Compiler

section Bounds

variable {frame : Frame} {frames : List Frame} {failure : Failure}

theorem misread_of_boundWith {axis : Axis} {bound : Option Int}
    (h : boundWith axis.name bound frame = .error failure) : frame.Misread failure := by
  unfold boundWith at h
  split at h
  · cases h
  · rename_i value hv
    cases hc : readCoordinate axis.name value with
    | ok coordinate =>
      rw [hc] at h
      cases h
    | error fault =>
      rw [hc] at h
      cases h
      exact ⟨axis.name, value, Frame.mem_entries_of_value? hv, Or.inr ⟨axis, rfl, hc⟩⟩

theorem misread_of_boundsWith {boundX boundY : Option Int}
    (h : boundsWith boundX boundY frames = .error failure) :
    ∃ frame ∈ frames, frame.Misread failure := by
  induction frames generalizing boundX boundY with
  | nil => cases h
  | cons frame rest ih =>
    unfold boundsWith at h
    split at h
    · rename_i fault hx
      cases h
      exact ⟨frame, List.mem_cons_self, @misread_of_boundWith _ _ .horizontal _ hx⟩
    · split at h
      · rename_i fault hy
        cases h
        exact ⟨frame, List.mem_cons_self, @misread_of_boundWith _ _ .vertical _ hy⟩
      · obtain ⟨misread, hmem, hmis⟩ := ih h
        exact ⟨misread, List.mem_cons_of_mem frame hmem, hmis⟩

/-- The bounds of the mouse fail for an entry of one of the frames, if at all. -/
theorem misread_of_mouseBounds (h : mouseBounds frames = .error failure) :
    ∃ frame ∈ frames, frame.Misread failure := by
  unfold mouseBounds at h
  cases hb : boundsWith none none frames with
  | ok bounds =>
    rw [hb] at h
    cases h
  | error fault =>
    rw [hb] at h
    cases h
    exact misread_of_boundsWith hb

end Bounds

namespace Script

open Reading

variable {disk : Disk} {l : Location} {typed : Bool} {compiler : Compiler} {script : Script}
  {frame : Frame} {failure : Failure}

/-- An entry that cannot be read is an excess of the line that writes it, or no coordinate. -/
theorem Origin.known_or_excess {q : Path} {text : Text} {header : Header} {line : Line}
    (h : Origin disk q frame text header line) (hm : frame.Misread failure) :
    failure.IsKnown ∨ Excess q.parent.location (Text.lines text) failure := by
  obtain ⟨name, value, hmem, hk | ⟨axis, rfl, hc⟩⟩ := hm
  · obtain ⟨kind, hkind⟩ := h.readKind_of_mem hmem
    rw [hk] at hkind
    cases hkind
  · unfold readCoordinate at hc
    split at hc
    · cases hc
    · split at hc
      · cases hc
      · rename_i digits hn
        cases hc
        exact Or.inr (.coordinate h.read h.mem h.said h.data h.writes hmem hn)
      · cases hc
        exact Or.inl (Failure.isKnown_of_kind rfl (by decide))

/-- An entry of a script that cannot be read is an excess of a file, or no coordinate. -/
theorem known_or_exceeds_of_misread (h : plainFileTyped disk l typed = .ok script)
    (hf : frame ∈ script.frames) (hm : frame.Misread failure) :
    failure.IsKnown ∨ Exceeds disk l failure := by
  have hplain := plainFile_of_typed h
  unfold plainFile at hplain
  split at hplain
  · obtain ⟨q, text, header, line, hlead, ho⟩ := exists_origin hplain hf
    rcases ho.known_or_excess hm with hknown | hexcess
    · exact Or.inl hknown
    · exact Or.inr (Or.inr ⟨q, text, hlead, ho.source, hexcess⟩)
  · cases hplain

/-! ## Loading and compiling -/

/-- The deltas of the script at a location. -/
def loadCompiled (disk : Disk) (l : Location) (typed : Bool) (compiler : Compiler) :
    Reading (List Delta) := do
  let script ← load disk l typed
  compileTold compiler script.frames

theorem gives_load : Gives (Sound disk []) (load disk l typed) (plainFileTyped disk l typed)
    (Sound disk []) :=
  gives_tap (gives_parseFile_typed l typed) fun script _ =>
    gives_bind_ok (gives_tell (blind_sound disk _) _ _ _) (gives_pure script)

theorem gives_compileTold {P : Store → Prop} (hb : Blind P) (frames : List Frame) :
    Gives P (compileTold compiler frames) (compiler.compileAll frames) P := by
  unfold compileTold
  cases compiler.compileAll frames with
  | error failure => exact gives_throw failure
  | ok deltas => exact gives_bind_ok (gives_tell hb _ _ _) (gives_pure deltas)

theorem gives_loadCompiled :
    Gives (Sound disk []) (loadCompiled disk l typed compiler)
      ((plainFileTyped disk l typed).bind fun script => compiler.compileAll script.frames)
      (Sound disk []) := by
  have hload := @gives_load disk l typed
  unfold loadCompiled
  cases hp : plainFileTyped disk l typed with
  | error failure =>
    rw [hp] at hload
    exact gives_bind_error hload
  | ok script =>
    rw [hp] at hload
    exact gives_bind_ok hload (gives_compileTold (blind_sound disk []) script.frames)

/-- **Loading and compiling fail for something that the language knows**, or for an excess of a file
that the script leads to. -/
theorem known_or_exceeds_of_loadCompiled {store : Store} (hs : Sound disk [] store)
    (h : outcome (loadCompiled disk l typed compiler store) = .error failure) :
    failure.IsKnown ∨ Exceeds disk l failure := by
  rw [(gives_loadCompiled store hs).1] at h
  cases hp : plainFileTyped disk l typed with
  | error fault =>
    rw [hp] at h
    cases h
    exact plainFileTyped_error hp
  | ok script =>
    rw [hp] at h
    rcases Compiler.misread_of_compileAll h with hknown | ⟨frame, hf, hmis⟩
    · exact Or.inl hknown
    · exact known_or_exceeds_of_misread hp hf hmis

end Script

end FrameScript
