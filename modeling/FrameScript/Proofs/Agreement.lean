import FrameScript.Proofs.Count.Memo
import FrameScript.Proofs.Script.Memo

/-!
# Counting agrees with reading

Counting frames and reading a script go through the same lines in the same order, and both end at
the first line that they cannot pass. Reading asks for more: that formats can be read, that lines of
data match, and that no count of a repetition is too large. `Conforms` says this of one file.

Where counting ends without a count, reading has ended at the same line or before it. Nothing before
that line is missing, and so whatever reading finds amiss, it is not that a file is unavailable.

## Results

* `number_of_script`: a file that can be read has as many frames as are counted.
* `exists_script_of_number`: a file that has a count can be read, if it conforms and so does
  everything that it leads to.
* `error_of_unavailable`: a file that cannot be read because something is unavailable cannot be
  counted either.
* `parse_ok_iff_count_some`: **counting and reading agree**, each from an empty store.
-/

namespace FrameScript

/-! ## Outlines -/

namespace Outline

variable {source : Option Text} {data : Line → Except Failure Frame}
  {included : Line → Text → Except Failure (List Frame)}
  {count : Text → Except Failure (Option Nat)} {o : Outline}

/-- Counting passes a step that unrolling passes. -/
theorem stop_eq_none_of_halt {step : Step}
    (hi : ∀ line target frames, step = .leaf line (.inclusion target) →
      included line target = .ok frames → count target = .ok (some frames.length))
    (h : step.halt source data included = none) : step.stop count = none := by
  match step with
  | .leaf _ .skip | .leaf _ .data | .enter _ _ | .leave _ => rfl
  | .leaf line (.inclusion target) =>
    obtain ⟨frames, hf⟩ := ok_of_halt_inclusion h
    exact stop_inclusion_of_number (hi line target frames rfl hf)
  | .leaf _ (.bad _) => cases h

/-- **An outline that is unrolled has as many frames as are counted.** -/
theorem counted_of_unrolled {frames : List Frame}
    (h : o.unrolled source data included = .ok frames)
    (hi : ∀ line target block, .leaf line (.inclusion target) ∈ o.steps →
      included line target = .ok block → count target = .ok (some block.length)) :
    o.counted count = .ok (some frames.length) := by
  have hnone := findSome?_of_unrolled_ok h
  have hhalt := List.findSome?_eq_none_iff.mp hnone
  have hstop : o.steps.findSome? (Step.stop count) = none :=
    List.findSome?_eq_none_iff.mpr fun step hs =>
      stop_eq_none_of_halt (fun line target block he => hi line target block (he ▸ hs))
        (hhalt step hs)
  rw [unrolled_of_none hnone] at h
  rw [counted_of_none hstop, ← Except.ok.inj h]
  refine congrArg (fun n => Except.ok (some n)) (length_unroll (fun line hl => ?_) ?_).symm
  · exact ok_of_halt_data (hhalt _ hl)
  · intro line target ht
    obtain ⟨block, hb⟩ := ok_of_halt_inclusion (hhalt _ ht)
    exact ⟨block, hb, (numberOf_eq (hi line target block ht hb)).symm⟩

theorem findSome?_of_counted_number {n : Nat} (h : o.counted count = .ok (some n)) :
    o.steps.findSome? (Step.stop count) = none := by
  cases hf : o.steps.findSome? (Step.stop count) with
  | none => rfl
  | some outcome =>
    obtain ⟨step, -, hs⟩ := List.exists_of_findSome?_eq_some hf
    rw [counted_of_some hf] at h
    exact absurd (h ▸ hs) (stop_ne_number step n)

/-- **An outline that has a count can be unrolled**, if its lines of data can be read, its
repetitions are not too many, and the scripts that it includes can be unrolled. -/
theorem exists_unrolled_of_counted {n : Nat} (h : o.counted count = .ok (some n))
    (hd : ∀ line, .leaf line .data ∈ o.steps → ∃ frame, data line = .ok frame)
    (hl : ∀ line n, .enter line n ∈ o.steps → n ≤ repeatLimit)
    (hi : ∀ line target k, .leaf line (.inclusion target) ∈ o.steps →
      count target = .ok (some k) → ∃ block, included line target = .ok block) :
    ∃ frames, o.unrolled source data included = .ok frames := by
  have hstop := List.findSome?_eq_none_iff.mp (findSome?_of_counted_number h)
  refine ⟨_, unrolled_of_none (List.findSome?_eq_none_iff.mpr fun step hs => ?_)⟩
  match step with
  | .leaf _ .skip | .enter _ _ => rfl
  | .leaf line .data =>
    obtain ⟨frame, hf⟩ := hd line hs
    exact halt_data_of_ok hf
  | .leaf line (.inclusion target) =>
    obtain ⟨block, hb⟩ := hi line target _ hs (number_of_stop_eq_none (hstop _ hs))
    exact halt_inclusion_of_ok hb
  | .leaf line (.bad misfit) =>
    have hbad := hstop _ hs
    cases misfit <;> cases hbad
  | .leave n =>
    obtain ⟨line, hn⟩ := leave_mem_steps_iff.mp hs
    exact halt_leave_of_le (hl line n hn)

/-- Counting fails at a step at which unrolling ends because something is unavailable. -/
theorem exists_stop_of_unavailable {step : Step} {failure : Failure}
    (h : step.halt source data included = some failure)
    (hu : failure.kind? = some .unavailable)
    (hd : ∀ line fault, data line = .error fault → fault.kind? ≠ some .unavailable)
    (he : ∀ line target fault, step = .leaf line (.inclusion target) →
      included line target = .error fault → fault.kind? = some .unavailable →
      ∃ fault', count target = .error fault') :
    ∃ fault, step.stop count = some (.error fault) := by
  match step with
  | .leaf _ .skip | .enter _ _ => cases h
  | .leaf line .data =>
    cases hl : data line with
    | ok frame =>
      rw [halt_data_of_ok hl] at h
      cases h
    | error fault =>
      rw [halt_data_of_error hl] at h
      obtain rfl := Option.some.inj h
      exact absurd hu (hd line fault hl)
  | .leaf line (.inclusion target) =>
    cases hl : included line target with
    | ok block =>
      rw [halt_inclusion_of_ok hl] at h
      cases h
    | error fault =>
      rw [halt_inclusion_of_error hl] at h
      obtain rfl := Option.some.inj h
      obtain ⟨fault', hf⟩ := he line target fault rfl hl hu
      exact ⟨fault', stop_inclusion_of_error hf⟩
  | .leaf line (.bad misfit) =>
    rw [← Option.some.inj h] at hu
    cases misfit <;> cases hu
  | .leave n =>
    by_cases hn : repeatLimit < n
    · rw [halt_leave_of_lt hn] at h
      rw [← Option.some.inj h] at hu
      cases hu
    · rw [halt_leave_of_le (Nat.not_lt.mp hn)] at h
      cases h

/-- **Where unrolling ends because something is unavailable, counting fails**: it comes as far as
the same line, and fails there. -/
theorem counted_error_of_unavailable {failure : Failure}
    (h : o.unrolled source data included = .error failure)
    (hu : failure.kind? = some .unavailable)
    (hd : ∀ line fault, data line = .error fault → fault.kind? ≠ some .unavailable)
    (hi : ∀ line target block, .leaf line (.inclusion target) ∈ o.steps →
      included line target = .ok block → count target = .ok (some block.length))
    (he : ∀ line target fault, .leaf line (.inclusion target) ∈ o.steps →
      included line target = .error fault → fault.kind? = some .unavailable →
      ∃ fault', count target = .error fault') :
    ∃ fault, o.counted count = .error fault := by
  cases hf : o.steps.findSome? (Step.halt source data included) with
  | none =>
    rw [unrolled_of_none hf] at h
    cases h
  | some fault =>
    rw [unrolled_of_some hf] at h
    obtain rfl := Except.error.inj h
    obtain ⟨before, step, after, hsteps, hs, hpassed⟩ := List.findSome?_eq_some_iff.mp hf
    have hmem : ∀ s ∈ before, s ∈ o.steps := fun s hs => by
      rw [hsteps]
      exact List.mem_append_left _ hs
    have hstep : step ∈ o.steps := by
      rw [hsteps]
      exact List.mem_append_right _ List.mem_cons_self
    have hcounted : before.findSome? (Step.stop count) = none :=
      List.findSome?_eq_none_iff.mpr fun s hb =>
        stop_eq_none_of_halt (fun line target block heq => hi line target block (heq ▸ hmem s hb))
          (hpassed s hb)
    obtain ⟨fault', hfault⟩ := exists_stop_of_unavailable hs hu hd
      fun line target g heq => he line target g (heq ▸ hstep)
    refine ⟨fault', counted_of_some ?_⟩
    rw [hsteps, List.findSome?_append, hcounted, Option.none_or, List.findSome?_cons, hfault]

end Outline

/-! ## Files -/

/-- Reading takes the line, if counting does. -/
def Format.Takes (format : Format) (line : Line) : Directive → Prop
  | .data => (format.tokens? line.content).isSome = true
  | .inclusion _ => True
  | .repetition text =>
    ∀ count, Numeral.readNat text = .value count → count ≤ Outline.repeatLimit

/-- What reading a file asks for in addition to what counting it does: the format that the file
declares can be read, every line of data matches it, and no repetition has too large a count. -/
def Conforms (disk : Disk) (p : Path) : Prop :=
  ∃ text declared format, disk.source p = .ok text ∧
    (HeaderLines.find (Text.lines text)).formatText = some declared ∧
    Format.read declared ⟨some p.text, some (HeaderLines.find (Text.lines text)).formatLine⟩ =
      .ok format ∧
    ∀ line ∈ bodyOf (Text.lines text), line.isSkipped = false →
      format.Takes line (Directive.read line.content)

open Outline Reading

variable {disk : Disk} {chain : List Path} {p q : Path}

namespace Script

theorem plainData_ok_iff {source : Option Text} {format : Format} {line : Line} :
    (∃ frame, plainData source format line = .ok frame) ↔
      (format.tokens? line.content).isSome = true := by
  unfold plainData Format.frame?
  cases format.tokens? line.content with
  | none => simp
  | some tokens => simp

theorem kind?_of_plainData {source : Option Text} {format : Format} {line : Line}
    {failure : Failure} (h : plainData source format line = .error failure) :
    failure.kind? ≠ some .unavailable := by
  unfold plainData at h
  split at h
  · cases h
  · cases h
    intro hk
    cases hk

/-- A line that includes a script fails for itself, or with the script. -/
theorem error_of_plainInclusion {source : Option Text} {base : Location} {found : HeaderLines}
    {parse : Path → Except Failure Script} {line : Line} {target : Text} {failure : Failure}
    (h : plainInclusion disk source base found parse line target = .error failure)
    (hu : failure.kind? = some .unavailable) :
    ∃ q, found.aim disk base target = .file q ∧ parse q = .error failure := by
  unfold plainInclusion at h
  cases ha : found.aim disk base target with
  | nowhere =>
    rw [ha] at h
    cases h
    cases hu
  | astray =>
    rw [ha] at h
    cases h
    cases hu
  | file q =>
    simp only [ha] at h
    cases hp : parse q with
    | ok script =>
      rw [hp] at h
      cases h
    | error fault =>
      rw [hp] at h
      rw [← Except.error.inj h]
      exact ⟨q, rfl, hp⟩

/-- **Lines that make a script have as many frames as are counted**, if that is so for the files
that they include. -/
theorem number_of_lines {source : Option Text} {base : Location} {lines : List Text}
    {parse : Path → Except Failure Script} {count : Path → Except Failure (Option Nat)}
    {script : Script} (h : plainLines disk source base parse lines = .ok script)
    (hi : ∀ q included, parse q = .ok included → count q = .ok (some included.frames.length)) :
    Count.plainLines disk base count lines = .ok (some script.frames.length) := by
  obtain ⟨header, hh, hnone, rfl⟩ := plainLines_ok h
  unfold Count.plainLines
  rw [if_pos (usable_of_read hh)]
  refine counted_of_unrolled (unrolled_of_none hnone) fun line target block _ hb => ?_
  obtain ⟨q, included, ha, hp, rfl⟩ := aim_of_plainInclusion hb
  rw [Count.plainTarget_of_file ha]
  exact hi q included hp

/-- **A file that can be read has as many frames as are counted.** -/
theorem number_of_script {script : Script} (h : plainAt disk chain p = .ok script) :
    Count.plainAt disk chain p = .ok (some script.frames.length) := by
  induction hr : room disk.paths chain using Nat.strongRecOn generalizing chain p script with
  | ind k ih =>
    obtain ⟨hc, text, hs⟩ := source_of_ok h
    rw [plainAt_of_ok hc hs] at h
    rw [Count.plainAt_of_ok hc hs]
    exact number_of_lines h fun q included hp => ih _ (hr ▸ Disk.room_lt_of_source hc hs) hp rfl

/-- A file that is read from outside has as many frames as are counted. -/
theorem countFile_of_script {l : Location} {typed : Bool} {script : Script}
    (h : plainFileTyped disk l typed = .ok script) :
    Count.plainFile disk l = .ok (some script.frames.length) := by
  have hplain := plainFile_of_typed h
  unfold plainFile at hplain
  unfold Count.plainFile
  split at hplain
  · rename_i hs
    rw [if_pos hs, number_of_script hplain]
  · cases hplain

/-- A file that can be read conforms. -/
theorem conforms_of_script {script : Script} (h : plainAt disk chain p = .ok script) :
    Conforms disk p := by
  obtain ⟨hc, text, hs⟩ := source_of_ok h
  rw [plainAt_of_ok hc hs] at h
  obtain ⟨header, hh, hnone, -⟩ := plainLines_ok h
  obtain ⟨-, -, declared, hf, hr⟩ := Header.ofFound_ok hh
  have hhalt := List.findSome?_eq_none_iff.mp hnone
  refine ⟨text, declared, header.format, hs, hf, hr, fun line hmem hsaid => ?_⟩
  have hstep := stepFor_of_fits (fits_of_findSome? hnone) hmem hsaid
  cases hd : Directive.read line.content with
  | data =>
    rw [hd] at hstep
    exact plainData_ok_iff.mp (ok_of_halt_data (hhalt _ hstep))
  | inclusion target => trivial
  | repetition number =>
    rw [hd] at hstep
    obtain ⟨count, hn, henter⟩ := hstep
    intro count' hn'
    obtain rfl : count = count' := by
      rw [hn] at hn'
      exact Numeral.value.inj hn'
    by_cases hlarge : repeatLimit < count
    · have hleave := hhalt _ (leave_mem_steps_iff.mpr ⟨line, henter⟩)
      rw [halt_leave_of_lt hlarge] at hleave
      cases hleave
    · exact Nat.not_lt.mp hlarge

/-- **Everything that a file leads to conforms**, if the file can be read. -/
theorem conforms_of_leads {script : Script} (h : plainAt disk chain p = .ok script)
    (hq : Relation.ReflTransGen (Includes disk) p q) : Conforms disk q := by
  induction hq using Relation.ReflTransGen.head_induction_on generalizing chain script with
  | refl => exact conforms_of_script h
  | head hi _ ih =>
    obtain ⟨included, hp⟩ := exists_of_includes h hi
    exact ih hp

/-- **A file that has a count can be read**, if everything that it leads to conforms. -/
theorem exists_script_of_number {n : Nat} (h : Count.plainAt disk chain p = .ok (some n))
    (hall : ∀ q, Relation.ReflTransGen (Includes disk) p q → Conforms disk q) :
    ∃ script, plainAt disk chain p = .ok script := by
  induction hr : room disk.paths chain using Nat.strongRecOn generalizing chain p n with
  | ind k ih =>
    obtain ⟨hc, -⟩ := Count.source_of_number h
    obtain ⟨text, declared, format, hs, hf, hread, hlines⟩ :=
      hall p Relation.ReflTransGen.refl
    rw [Count.plainAt_of_ok hc hs] at h
    unfold Count.plainLines at h
    by_cases hu : (HeaderLines.find (Text.lines text)).isUsable = true
    · rw [if_pos hu] at h
      obtain ⟨kind, hh⟩ := Header.exists_of_usable hu hf hread
      have htakes {step : Step} {line : Line}
          (hstep : step ∈ (outlineOf (Text.lines text)).steps) (hl : step.line? = some line)
          (hsaid : line.isSkipped = false) : format.Takes line (Directive.read line.content) :=
        hlines line (line_of_mem_steps_build hstep hl) hsaid
      have hunrolled : ∃ frames, (outlineOf (Text.lines text)).unrolled (some p.text)
          (plainData (some p.text) format)
          (plainInclusion disk (some p.text) p.parent.location
            (HeaderLines.find (Text.lines text)) (plainAt disk (p :: chain))) = .ok frames := by
        refine exists_unrolled_of_counted h (fun line hstep => ?_) (fun line count hstep => ?_)
          fun line target m hstep hm => ?_
        · obtain ⟨hsaid, hd⟩ := agrees_of_mem_steps_build hstep
          have := htakes hstep rfl hsaid
          rw [hd] at this
          exact plainData_ok_iff.mpr this
        · obtain ⟨hsaid, number, hd, hn⟩ := agrees_of_mem_steps_build hstep
          have := htakes hstep rfl hsaid
          rw [hd] at this
          exact this count hn
        · obtain ⟨q, ha, hq⟩ := Count.aim_of_number hm
          have hi := includes_of_step hs hstep ha
          obtain ⟨included, hp⟩ := ih _ (hr ▸ Disk.room_lt_of_source hc hs) hq
            (fun r hr => hall r (Relation.ReflTransGen.head hi hr)) rfl
          exact ⟨included.frames, plainInclusion_of_file ha hp⟩
      obtain ⟨frames, hframes⟩ := hunrolled
      rw [plainAt_of_ok hc hs]
      simp only [plainLines, Header.read, hh, hframes]
      exact ⟨_, rfl⟩
    · rw [if_neg hu] at h
      cases h

/-- **A file that cannot be read because something is unavailable cannot be counted either.** -/
theorem error_of_unavailable {failure : Failure} (h : plainAt disk chain p = .error failure)
    (hu : failure.kind? = some .unavailable) :
    ∃ fault, Count.plainAt disk chain p = .error fault := by
  induction hr : room disk.paths chain using Nat.strongRecOn generalizing chain p failure with
  | ind k ih =>
    by_cases hc : p ∈ chain
    · rw [plainAt_of_mem hc] at h
      cases h
      cases hu
    · cases hs : disk.source p with
      | error fault => exact ⟨_, Count.plainAt_of_error hc hs⟩
      | ok text =>
        rw [plainAt_of_ok hc hs] at h
        rw [Count.plainAt_of_ok hc hs]
        unfold plainLines at h
        unfold Count.plainLines
        cases hh : Header.read (some p.text) (Text.lines text) with
        | error fault =>
          simp only [hh] at h
          cases h
          exact absurd hu (Header.kind?_of_ofFound hh)
        | ok header =>
          simp only [hh] at h
          rw [if_pos (usable_of_read hh)]
          cases ho : (outlineOf (Text.lines text)).unrolled (some p.text)
              (plainData (some p.text) header.format)
              (plainInclusion disk (some p.text) p.parent.location
                (HeaderLines.find (Text.lines text)) (plainAt disk (p :: chain))) with
          | ok frames =>
            rw [ho] at h
            cases h
          | error fault =>
            rw [ho] at h
            obtain rfl := Except.error.inj h
            refine counted_error_of_unavailable ho hu (fun _ _ => kind?_of_plainData)
              (fun line target block _ hb => ?_) fun line target fault' _ hf hu' => ?_
            · obtain ⟨q, included, ha, hp, rfl⟩ := aim_of_plainInclusion hb
              rw [Count.plainTarget_of_file ha]
              exact number_of_script hp
            · obtain ⟨q, ha, hp⟩ := error_of_plainInclusion hf hu'
              rw [Count.plainTarget_of_file ha]
              exact ih _ (hr ▸ Disk.room_lt_of_source hc hs) hp hu' rfl

theorem outcome_parseFile (disk : Disk) (l : Location) :
    outcome (parseFile disk l false .empty) = plainFile disk l :=
  (gives_parseFile l .empty (sound_empty disk)).1

theorem outcome_countFile (disk : Disk) (l : Location) :
    outcome (Count.countFile disk l .empty) = Count.plainFile disk l :=
  (Count.gives_countFile l .empty (Count.sound_empty disk)).1

/-- **Counting and reading agree**, each from an empty store: a file can be read if and only if it
has a count and everything that it leads to conforms, and then it has as many frames as are
counted. Where the count is missing, reading fails, and not because something is unavailable. -/
theorem parse_ok_iff_count_some (disk : Disk) (l : Location) :
    ((∃ script, outcome (parseFile disk l false .empty) = .ok script) ↔
        (∃ n, outcome (Count.countFile disk l .empty) = .ok (some n)) ∧
          ∀ q, Relation.ReflTransGen (Includes disk) (disk.canonical l) q → Conforms disk q) ∧
      (∀ script, outcome (parseFile disk l false .empty) = .ok script →
        outcome (Count.countFile disk l .empty) = .ok (some script.frames.length)) ∧
      (outcome (Count.countFile disk l .empty) = .ok none →
        ∃ failure, outcome (parseFile disk l false .empty) = .error failure ∧
          failure.kind? ≠ some .unavailable) := by
  rw [outcome_parseFile, outcome_countFile]
  unfold plainFile Count.plainFile
  by_cases hl : l.isSound = true
  · rw [if_pos hl, if_pos hl]
    refine ⟨⟨?_, ?_⟩, fun script h => number_of_script h, fun hnone => ?_⟩
    · rintro ⟨script, h⟩
      exact ⟨⟨_, number_of_script h⟩, fun q hq => conforms_of_leads h hq⟩
    · rintro ⟨⟨n, h⟩, hall⟩
      exact exists_script_of_number h hall
    · cases h : plainAt disk [] (disk.canonical l) with
      | ok script =>
        rw [number_of_script h] at hnone
        cases hnone
      | error failure =>
        refine ⟨failure, rfl, fun hu => ?_⟩
        obtain ⟨fault, hf⟩ := error_of_unavailable h hu
        rw [hf] at hnone
        cases hnone
  · rw [if_neg hl, if_neg hl]
    refine ⟨⟨?_, ?_⟩, ?_, ?_⟩
    · rintro ⟨script, h⟩
      cases h
    · rintro ⟨⟨n, h⟩, -⟩
      cases h
    · intro script h
      cases h
    · intro h
      cases h

end Script

end FrameScript
