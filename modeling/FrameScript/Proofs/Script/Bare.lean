import FrameScript.Proofs.Script.InMemory
import FrameScript.Proofs.Script.Unrolled

/-!
# Directive words without an argument

A directive begins with its word and a blank, and it is looked for when the blanks at the end of the
line have been taken off. Whatever blanks follow a word that has nothing after it, they are gone by
then, and so the word is no directive: the line is data. The checks for a missing argument come too
late. Reading never finds that a line names no script to include, or that a count is empty
(`plainText_names_arguments`).

What becomes of the line is up to the format. If the format does not match the word, reading fails
there, because of the mismatch; if it does, the line makes frames. Counting never looks at the
format, and takes the line for a frame in either case.

## Results

* `Line.read_names_argument`: no measured line includes nothing, or opens a repetition with an empty
  count.
* `plainText_names_arguments`: no reading fails for a missing argument.
* `counted_of_asks`: counting looks at what lines ask for, and at their levels.
* `mem_unroll_of_runs`: a line of data makes a frame if every repetition around it runs.
* `bare_word_is_data`: **a directive word alone is data**, whatever blanks follow it.
-/

namespace FrameScript

namespace Line

open Text

variable {raw word rest : Text} {n : Nat}

/-! ## Words and arguments -/

/-- A measured line that begins with a word and a blank has something after them. -/
theorem argument_ne_nil {mark : Text} (hmark : mark.getLast? = some ' ')
    (h : after? mark (measure n raw).content = some rest) : trim rest ≠ [] := by
  intro hnothing
  have hcontent : (measure n raw).content = mark ++ rest := after?_eq_some_iff.mp h
  have hend : ∃ c ∈ (mark ++ rest).getLast?, isBlank c = true := by
    rcases List.eq_nil_or_concat rest with rfl | ⟨front, c, rfl⟩
    · exact ⟨' ', by rw [List.append_nil, hmark]; rfl, by decide⟩
    · rw [List.concat_eq_append] at hnothing ⊢
      refine ⟨c, ?_, blank_of_trim_eq_nil hnothing c ?_⟩
      · rw [← List.append_assoc, List.getLast?_concat]
        rfl
      · exact List.mem_append_right _ List.mem_cons_self
  obtain ⟨c, hc, hblank⟩ := hend
  rw [← hcontent] at hc
  have hnot := not_blank_of_trimRight (trimLeft (expandTabs raw)) c hc
  rw [hblank] at hnot
  cases hnot

/-- **No measured line includes nothing, or opens a repetition with an empty count.** -/
theorem read_names_argument (n : Nat) (raw : Text) :
    Directive.read (measure n raw).content ≠ .inclusion [] ∧
      Directive.read (measure n raw).content ≠ .repetition [] := by
  unfold Directive.read
  constructor
  · intro h
    split at h
    · rename_i target htarget
      exact argument_ne_nil rfl htarget (Directive.inclusion.inj h)
    · split at h <;> cases h
  · intro h
    split at h
    · cases h
    · split at h
      · rename_i count hcount
        exact argument_ne_nil rfl hcount (Directive.repetition.inj h)
      · cases h

/-- The line consists of the word of a directive, with blanks before and after it at will. -/
structure IsBare (word raw : Text) : Prop where
  named : word = "INCLUDE".toList ∨ word = "REPEAT".toList
  between : ∃ before after, raw = before ++ (word ++ after) ∧
    (∀ c ∈ before, isBlank c = true) ∧ ∀ c ∈ after, isBlank c = true

namespace IsBare

/-- The word is all that is measured, and it is data. -/
theorem measured (h : IsBare word raw) (n : Nat) :
    (measure n raw).content = word ∧ (measure n raw).isSkipped = false ∧
      Directive.read (measure n raw).content = .data := by
  obtain ⟨before, after, rfl, hbefore, hafter⟩ := h.between
  have hword : Trimmed word ∧ word ≠ [] ∧ '\t' ∉ word := by
    rcases h.named with rfl | rfl <;> exact ⟨trimmed_iff_any.mpr (by decide), by decide, by decide⟩
  have hcontent := content_between n hbefore hafter hword.1 hword.2.1 hword.2.2
  rw [isSkipped, hcontent]
  rcases h.named with rfl | rfl <;> exact ⟨rfl, rfl, rfl⟩

/-- Such a line is in no header. -/
theorem unmarked (h : IsBare word raw) : raw.head? ≠ some '!' := by
  intro hhead
  obtain ⟨rest, rfl⟩ := List.head?_eq_some_iff.mp hhead
  obtain ⟨more, hmore⟩ := content_of_mark 0 rest
  rw [(h.measured 0).1] at hmore
  rcases h.named with rfl | rfl <;> cases hmore

end IsBare

/-- What a line asks for, and at which level. -/
def asks (line : Line) : Bool × Option Nat × Directive :=
  (line.isSkipped, line.level?, Directive.read line.content)

theorem exists_of_mem_measureFrom {line : Line} {raws : List Text} (h : line ∈ measureFrom n raws) :
    ∃ m, ∃ raw ∈ raws, line = measure m raw := by
  induction raws generalizing n with
  | nil => exact absurd h List.not_mem_nil
  | cons first raws ih =>
    rcases List.mem_cons.mp h with rfl | h
    · exact ⟨n, first, List.mem_cons_self, rfl⟩
    · obtain ⟨m, raw, hraw, rfl⟩ := ih h
      exact ⟨m, raw, List.mem_cons_of_mem _ hraw, rfl⟩

end Line

namespace Outline

/-! ## Counting looks at what lines ask for -/

section Counting

variable {count : Text → Except Failure (Option Nat)} {level : Nat} {line line' : Line}
  {lines lines' : List Line}

theorem opening_of_asks (h : line'.asks = line.asks) :
    opening level line' = opening level line := by
  obtain ⟨hs, hl, hd⟩ : line'.isSkipped = line.isSkipped ∧ line'.level? = line.level? ∧
      Directive.read line'.content = Directive.read line.content := by
    simpa [Line.asks] using h
  unfold opening
  rw [hs, hl, hd]

/-- What is inside a body is told by what the lines ask for. -/
theorem map_asks_takeWhile (level : Nat) (h : lines'.map Line.asks = lines.map Line.asks) :
    (lines'.takeWhile (isInside level)).map Line.asks =
        (lines.takeWhile (isInside level)).map Line.asks ∧
      (lines'.dropWhile (isInside level)).map Line.asks =
        (lines.dropWhile (isInside level)).map Line.asks := by
  have hinside : isInside level =
      (fun asked : Bool × Option Nat × Directive => asked.1 || asked.2.1.all fun n => level < n) ∘
        Line.asks := rfl
  rw [hinside, ← List.takeWhile_map, ← List.takeWhile_map, ← List.dropWhile_map,
    ← List.dropWhile_map, h]
  exact ⟨rfl, rfl⟩

/-- **Counting looks at what lines ask for, and at their levels**, and not at what they say. -/
theorem counted_of_asks (h : lines'.map Line.asks = lines.map Line.asks) :
    (build level lines').counted count = (build level lines).counted count := by
  induction level, lines using body_induction generalizing lines' with
  | nil level => rw [List.map_eq_nil_iff.mp h]
  | nothing level line rest item ho ih =>
    obtain ⟨line', rest', rfl, hline, hrest⟩ := List.map_eq_cons_iff.mp h
    have hsame : (Step.leaf line' item).stop count = (Step.leaf line item).stop count := by
      cases item with
      | bad misfit => cases misfit <;> rfl
      | _ => rfl
    rw [build_cons, build_cons, opening_of_asks hline, ho]
    cases hs : (Step.leaf line item).stop count with
    | some outcome => rw [counted_leaf_of_some (hsame.trans hs), counted_leaf_of_some hs]
    | none => rw [counted_leaf_of_none (hsame.trans hs), counted_leaf_of_none hs, ih hrest]
  | repetition level line rest k ho ihb ihn =>
    obtain ⟨line', rest', rfl, hline, hrest⟩ := List.map_eq_cons_iff.mp h
    obtain ⟨htake, hdrop⟩ := map_asks_takeWhile level hrest
    rw [build_cons, build_cons, opening_of_asks hline, ho]
    simp only [counted_loop]
    rw [ihb htake, ihn hdrop]

end Counting

/-! ## Lines of data -/

section Data

variable {data : Line → Except Failure Frame}
  {included : Line → Text → Except Failure (List Frame)} {line : Line} {frame : Frame} {o : Outline}

/-- **A line of data makes a frame** if every repetition around it runs. -/
theorem mem_unroll_of_runs (hf : data line = .ok frame) (hnodup : (o.lines.map Line.number).Nodup)
    (hstep : .leaf line .data ∈ o.steps) (hruns : 0 < (o.around line.number).prod) :
    frame ∈ o.unroll data included := by
  induction o with
  | nil => exact absurd hstep List.not_mem_nil
  | leaf first item next ih =>
    rw [lines_leaf, List.map_cons, List.nodup_cons] at hnodup
    rw [unroll]
    rcases List.mem_cons.mp hstep with hsame | hstep
    · cases hsame
      rw [Item.frames, hf]
      exact List.mem_append_left _ List.mem_cons_self
    · exact List.mem_append_right _ (ih hnodup.2 hstep hruns)
  | loop first count body next ihb ihn =>
    rw [lines_loop, List.map_cons, List.map_append, List.nodup_cons, List.nodup_append] at hnodup
    obtain ⟨-, hnodupb, hnodupn, hapart⟩ := hnodup
    rw [around] at hruns
    rw [unroll]
    rw [steps, List.mem_cons, List.mem_append, List.mem_cons] at hstep
    rcases hstep with hsame | hstep | hsame | hstep
    · cases hsame
    · have hn : line.number ∈ body.lines.map Line.number :=
        List.mem_map_of_mem (mem_lines hstep)
      rw [if_pos hn, List.prod_cons] at hruns
      have hframe := ihb hnodupb hstep (Nat.pos_of_mul_pos_left hruns)
      exact List.mem_append_left _ (mem_copies (Nat.pos_of_mul_pos_right hruns) hframe)
    · cases hsame
    · have hn : line.number ∉ body.lines.map Line.number := fun hn =>
        hapart _ hn _ (List.mem_map_of_mem (mem_lines hstep)) rfl
      rw [if_neg hn] at hruns
      exact List.mem_append_right _ (ihn hnodupn hstep hruns)

/-- A line that holds data is data where it stands, unless its indentation does not fit. -/
theorem step_of_read_data {level : Nat} {lines : List Line} {step : Step}
    (hstep : step ∈ (build level lines).steps) (hline : step.line? = some line)
    (hs : line.isSkipped = false) (hd : Directive.read line.content = .data) :
    step = .leaf line .data ∨ step = .leaf line (.bad .stray) := by
  have hagrees := agrees_of_mem_steps_build hstep
  match step, hline, hagrees with
  | .leaf _ .skip, rfl, hskip => exact absurd hskip (Bool.eq_false_iff.mp hs)
  | .leaf _ .data, rfl, _ => exact Or.inl rfl
  | .leaf _ (.inclusion target), rfl, ⟨_, hd'⟩ => cases hd.symm.trans hd'
  | .leaf _ (.bad .stray), rfl, _ => exact Or.inr rfl
  | .leaf _ (.bad (.badCount text)), rfl, ⟨_, hd', _⟩ => cases hd.symm.trans hd'
  | .leaf _ (.bad (.longCount digits)), rfl, ⟨_, text, hd', _⟩ => cases hd.symm.trans hd'
  | .enter _ count, rfl, ⟨_, text, hd', _⟩ => cases hd.symm.trans hd'

end Data

end Outline

/-! ## No argument is missed -/

/-- Whether the failure is that a line names no script to include, or an empty count. -/
def Failure.missesArgument : Failure → Bool
  | .layout .includeNothing _ | .layout (.badCount []) _ => true
  | _ => false

namespace Script

open Outline Reading

section Arguments

variable {disk : Disk} {chain : List Path} {source : Option Text} {base : Location} {p : Path}
  {parse : Path → Except Failure Script} {lines : List Text} {failure : Failure} {line : Line}

/-- Whatever a line of a body asks for, it names it. -/
theorem read_of_mem_bodyOf (h : line ∈ bodyOf lines) :
    Directive.read line.content ≠ .inclusion [] ∧ Directive.read line.content ≠ .repetition [] := by
  obtain ⟨n, raw, -, rfl⟩ := Line.exists_of_mem_measureFrom h
  exact Line.read_names_argument n raw

theorem missesArgument_of_header (h : Header.read source lines = .error failure) :
    failure.missesArgument = false := by
  rcases Header.ofFound_error h with ⟨text, place, rfl⟩ | ⟨place, rfl⟩ | hkind
  · rfl
  · rfl
  · cases failure with
    | layout fault place =>
      exact absurd hkind (by decide : some Failure.Kind.layout ∉ Format.faultKinds)
    | _ => rfl

theorem missesArgument_of_plainInclusion {target : Text}
    (hparse : ∀ q failure, parse q = .error failure → failure.missesArgument = false)
    (hne : target ≠ [])
    (h : plainInclusion disk source base (HeaderLines.find lines) parse line target =
      .error failure) : failure.missesArgument = false := by
  unfold plainInclusion at h
  cases ha : (HeaderLines.find lines).aim disk base target with
  | nowhere =>
    rw [ha] at h
    have hfragment : (HeaderLines.find lines).isFragment = true := by
      unfold HeaderLines.aim at ha
      split at ha
      · rename_i hclosed
        rw [Bool.or_eq_true, List.isEmpty_iff] at hclosed
        exact hclosed.resolve_right hne
      · split at ha <;> cases ha
    rw [← Except.error.inj h, closedFault, if_pos hfragment]
    rfl
  | astray =>
    rw [ha] at h
    rw [← Except.error.inj h]
    rfl
  | file q =>
    simp only [ha] at h
    cases hq : parse q with
    | ok script =>
      rw [hq] at h
      cases h
    | error fault =>
      rw [hq] at h
      rw [← Except.error.inj h]
      exact hparse q fault hq

theorem missesArgument_of_halt {format : Format} {step : Step}
    (hparse : ∀ q failure, parse q = .error failure → failure.missesArgument = false)
    (hstep : step ∈ (outlineOf lines).steps)
    (h : step.halt source (plainData source format)
      (plainInclusion disk source base (HeaderLines.find lines) parse) = some failure) :
    failure.missesArgument = false := by
  have hagrees := agrees_of_mem_steps_build hstep
  match step, hagrees with
  | .leaf line .skip, _ => cases h
  | .leaf line .data, _ =>
    unfold Step.halt plainData at h
    cases hf : format.frame? ⟨source, some line.number⟩ line.content with
    | some frame =>
      simp only [hf] at h
      cases h
    | none =>
      simp only [hf] at h
      rw [← Option.some.inj h]
      rfl
  | .leaf line (.inclusion target), ⟨_, hd⟩ =>
    have hne : target ≠ [] := by
      rintro rfl
      exact (read_of_mem_bodyOf (line_of_mem_steps_build hstep rfl)).1 hd
    cases hf : plainInclusion disk source base (HeaderLines.find lines) parse line target with
    | ok frames =>
      rw [halt_inclusion_of_ok hf] at h
      cases h
    | error fault =>
      rw [halt_inclusion_of_error hf] at h
      rw [← Option.some.inj h]
      exact missesArgument_of_plainInclusion hparse hne hf
  | .leaf line (.bad (.badCount text)), ⟨_, hd, _⟩ =>
    cases text with
    | nil => exact absurd hd (read_of_mem_bodyOf (line_of_mem_steps_build hstep rfl)).2
    | cons c text =>
      rw [← Option.some.inj h]
      rfl
  | .leaf line (.bad .stray), _ | .leaf line (.bad (.longCount digits)), _ =>
    rw [← Option.some.inj h]
    rfl
  | .enter line count, _ => cases h
  | .leave count, _ =>
    by_cases hl : repeatLimit < count
    · rw [halt_leave_of_lt hl] at h
      rw [← Option.some.inj h]
      rfl
    · rw [halt_leave_of_le (Nat.not_lt.mp hl)] at h
      cases h

theorem missesArgument_of_plainLines
    (hparse : ∀ q failure, parse q = .error failure → failure.missesArgument = false)
    (h : plainLines disk source base parse lines = .error failure) :
    failure.missesArgument = false := by
  unfold plainLines at h
  cases hh : Header.read source lines with
  | error fault =>
    simp only [hh] at h
    rw [← Except.error.inj h]
    exact missesArgument_of_header hh
  | ok header =>
    simp only [hh] at h
    cases hf : (outlineOf lines).steps.findSome? (Step.halt source (plainData source header.format)
        (plainInclusion disk source base (HeaderLines.find lines) parse)) with
    | none =>
      rw [unrolled_of_none hf] at h
      cases h
    | some fault =>
      rw [unrolled_of_some hf] at h
      rw [← Except.error.inj h]
      obtain ⟨step, hstep, hhalt⟩ := List.exists_of_findSome?_eq_some hf
      exact missesArgument_of_halt hparse hstep hhalt

theorem missesArgument_of_plainAt (h : plainAt disk chain p = .error failure) :
    failure.missesArgument = false := by
  induction hr : room disk.paths chain using Nat.strongRecOn generalizing chain p failure with
  | ind k ih =>
    by_cases hc : p ∈ chain
    · rw [plainAt_of_mem hc] at h
      rw [← Except.error.inj h]
      rfl
    · cases hs : disk.source p with
      | error fault =>
        rw [plainAt_of_error hc hs] at h
        rw [← Except.error.inj h]
        rfl
      | ok text =>
        rw [plainAt_of_ok hc hs] at h
        refine missesArgument_of_plainLines (fun q failure hq => ?_) h
        exact ih _ (hr ▸ Disk.room_lt_of_source hc hs) hq rfl

/-- **No reading fails for a missing argument**, be it in the text itself or in a file to which it
leads. -/
theorem plainText_names_arguments {text : Text} {path : Option Text} {typed : Bool}
    (h : plainText disk text path typed = .error failure) : failure.missesArgument = false := by
  unfold plainText at h
  cases hplain : plainLines disk path (baseOf disk path) (plainAt disk []) (Text.lines text) with
  | error fault =>
    rw [hplain] at h
    rw [← Except.error.inj h]
    exact missesArgument_of_plainLines (fun _ _ => missesArgument_of_plainAt) hplain
  | ok script =>
    rw [hplain, Except.bind, plainDemand] at h
    split at h
    · rw [← Except.error.inj h]
      rfl
    · cases h

end Arguments

/-! ## Words alone -/

section Words

variable {disk : Disk} {text word raw raw' : Text} {front back : List Text} {path : Option Text}
  {header : Header}

/-- Reading the lines of a text comes to the step. -/
def Reaches (disk : Disk) (path : Option Text) (header : Header) (lines : List Text)
    (step : Step) : Prop :=
  step ∈ upTo (Step.halt path (plainData path header.format)
    (plainInclusion disk path (baseOf disk path) (HeaderLines.find lines) (plainAt disk [])))
    (outlineOf lines).steps

/-- Lines that ask for the same leave the count of a text as it is, if they are in the body. -/
theorem count_of_asks {base : Location} {included : Path → Except Failure (Option Nat)}
    (hu : (HeaderLines.find (front ++ raw :: back)).isUsable = true) (hraw : raw.head? ≠ some '!')
    (h : (Line.measure 0 raw').asks = (Line.measure 0 raw).asks) :
    Count.plainLines disk base included (front ++ raw' :: back) =
      Count.plainLines disk base included (front ++ raw :: back) := by
  have hle := HeaderLines.bodyStart_le_of_unmarked hu hraw
  have hfind := HeaderLines.find_of_unmarked hu hraw (raw' :: back)
  have hasks : ∀ n raw, (Line.measure n raw).asks = (Line.measure 0 raw).asks := fun _ _ => rfl
  have hbody : (bodyOf (front ++ raw' :: back)).map Line.asks =
      (bodyOf (front ++ raw :: back)).map Line.asks := by
    rw [bodyOf, bodyOf, Line.map_measureFrom hasks, Line.map_measureFrom hasks, hfind,
      List.drop_append_of_le_length hle, List.drop_append_of_le_length hle]
    simp only [List.map_append, List.map_cons, h]
  simp only [Count.plainLines, hfind]
  rw [bodyOf, bodyOf, hfind] at hbody
  rw [Outline.ofLines, Outline.ofLines, counted_of_asks hbody]

/-- Where reading comes to a line of data that the format does not match, it fails with the
mismatch. -/
theorem plainText_of_mismatch {line : Line} {typed : Bool}
    (hh : Header.read path (Text.lines text) = .ok header)
    (hreach : Reaches disk path header (Text.lines text) (.leaf line .data))
    (hf : header.format.tokens? line.content = none) :
    plainText disk text path typed = .error (.layout
      (.mismatch header.format.source line.content) ⟨path, some line.number⟩) := by
  have hdata : plainData path header.format line = .error (.layout
      (.mismatch header.format.source line.content) ⟨path, some line.number⟩) := by
    rw [plainData, Format.frame?, hf]
    rfl
  have hhalt := findSome?_eq_of_mem_upTo hreach (halt_data_of_error hdata)
  simp only [plainText, plainLines, hh]
  rw [unrolled_of_some hhalt]
  rfl

/-- A line of data that the format matches makes a frame, if the text can be read and every
repetition around the line runs. -/
theorem mem_frames_of_tokens {line : Line} {typed : Bool} {tokens : List Text} {script : Script}
    (hh : Header.read path (Text.lines text) = .ok header)
    (hstep : .leaf line .data ∈ (outlineOf (Text.lines text)).steps)
    (hf : header.format.tokens? line.content = some tokens)
    (h : plainText disk text path typed = .ok script)
    (hruns : 0 < (Line.enclosing line.number (bodyOf (Text.lines text))).prod) :
    ⟨(header.format.fields.map Field.name).zip tokens, ⟨path, some line.number⟩⟩ ∈
      script.frames := by
  obtain ⟨hplain, -⟩ := bind_plainDemand_eq_ok.mp h
  obtain ⟨header', hh', hnone, rfl⟩ := plainLines_ok hplain
  obtain rfl := Except.ok.inj (hh.symm.trans hh')
  have hdata : plainData path header.format line =
      .ok ⟨(header.format.fields.map Field.name).zip tokens, ⟨path, some line.number⟩⟩ := by
    rw [plainData, Format.frame?, hf]
    rfl
  have haround : (outlineOf (Text.lines text)).around line.number =
      Line.enclosing line.number (bodyOf (Text.lines text)) :=
    around_build (fits_of_findSome? hnone) (nodup_bodyOf _)
  exact mem_unroll_of_runs hdata (nodup_numbers _) hstep (haround ▸ hruns)

/-- **A directive word alone is data**, whatever blanks follow it. In a text with a header that is
read, let a line consist of the word of a directive between blanks. The line is data, unless its
indentation does not fit; and reading never fails for a missing argument, neither here nor in a file
that the text includes. Where reading comes to the line, the format decides. If it does not match
the word, reading fails there with the mismatch; if it does, the line makes a frame of the text,
provided that the text can be read and that every repetition around the line runs. To counting the
line is like any other line of data at its level. -/
theorem bare_word_is_data (disk : Disk)
    (hh : Header.read path (Text.lines text) = .ok header)
    (hlines : Text.lines text = front ++ raw :: back) (hraw : Line.IsBare word raw) :
    (∀ step ∈ (outlineOf (Text.lines text)).steps,
      step.line? = some (Line.measure (front.length + 1) raw) →
        step = .leaf (Line.measure (front.length + 1) raw) .data ∨
          step = .leaf (Line.measure (front.length + 1) raw) (.bad .stray)) ∧
    (∀ typed calls failure,
      outcome (parseText disk text path typed (Store.afterOn disk calls)) = .error failure →
        failure.missesArgument = false) ∧
    (Reaches disk path header (Text.lines text)
        (.leaf (Line.measure (front.length + 1) raw) .data) → ∀ typed calls,
      match header.format.tokens? word with
      | none =>
        outcome (parseText disk text path typed (Store.afterOn disk calls)) =
          .error (.layout (.mismatch header.format.source word) ⟨path, some (front.length + 1)⟩)
      | some tokens => ∀ script,
        outcome (parseText disk text path typed (Store.afterOn disk calls)) = .ok script →
          0 < (Line.enclosing (front.length + 1) (bodyOf (Text.lines text))).prod →
          ⟨(header.format.fields.map Field.name).zip tokens, ⟨path, some (front.length + 1)⟩⟩ ∈
            script.frames) ∧
    ∀ raw' text', (Line.measure 0 raw').asks = (Line.measure 0 raw).asks →
      Text.lines text' = front ++ raw' :: back → ∀ base calls calls',
        outcome (Count.countText disk text base (Store.afterOn disk calls)) =
          outcome (Count.countText disk text' base (Store.afterOn disk calls')) := by
  obtain ⟨hcontent, hsaid, hdata⟩ := hraw.measured (front.length + 1)
  refine ⟨fun step hstep hline => step_of_read_data hstep hline hsaid hdata, ?_, ?_, ?_⟩
  · intro typed calls failure h
    rw [Store.outcome_parseText] at h
    exact plainText_names_arguments h
  · intro hreach typed calls
    rw [Store.outcome_parseText]
    cases hf : header.format.tokens? word with
    | none =>
      have hfail : plainText disk text path typed = _ :=
        plainText_of_mismatch hh hreach (by rw [hcontent, hf])
      rwa [hcontent] at hfail
    | some tokens =>
      intro script h hruns
      exact mem_frames_of_tokens hh (mem_of_mem_upTo hreach) (by rw [hcontent, hf]) h hruns
  · intro raw' text' hasks hlines' base calls calls'
    have hu := usable_of_read hh
    rw [hlines] at hu
    rw [Store.outcome_countText, Store.outcome_countText, hlines, hlines',
      count_of_asks hu hraw.unmarked hasks]

/-- The word is a token of the format: the line makes the only frame, and is counted. -/
theorem bare_word_not_rejected :
    ∃ script, outcome (parseText nestedDisk "!FORMAT: <KA>\nINCLUDE \n".toList
        (some "main.tas".toList) false .empty) = .ok script ∧
      script.frames =
        [⟨[("KA".toList, "INCLUDE".toList)], ⟨some "main.tas".toList, some 2⟩⟩] ∧
      outcome (Count.countText nestedDisk "!FORMAT: <KA>\nINCLUDE \n".toList none .empty) =
        .ok (some 1) := by
  have hframes : (outcome (parseText nestedDisk "!FORMAT: <KA>\nINCLUDE \n".toList
      (some "main.tas".toList) false .empty)).toOption.map Script.frames =
        some [⟨[("KA".toList, "INCLUDE".toList)], ⟨some "main.tas".toList, some 2⟩⟩] := by
    decide +kernel
  obtain ⟨script, h⟩ := exists_ok_of_isSome (Option.isSome_map ▸ congrArg Option.isSome hframes)
  rw [h] at hframes
  exact ⟨script, h, Option.some.inj hframes, by decide +kernel⟩

/-- A text in which the word stands in a repetition, before a blank and a tab. -/
def bareText : Text :=
  "!FORMAT: <KA>\nREPEAT 2\n    INCLUDE \t\n".toList

/-- The line makes a frame, and a line with a dot in its place has the same count. -/
theorem bare_word_is_data_repeated :
    Line.IsBare "INCLUDE".toList "    INCLUDE \t".toList ∧
      (∃ script, outcome (parseText nestedDisk bareText none false
          (Store.afterOn nestedDisk [])) = .ok script ∧
        ⟨[("KA".toList, "INCLUDE".toList)], ⟨none, some 3⟩⟩ ∈ script.frames) ∧
      outcome (Count.countText nestedDisk bareText none (Store.afterOn nestedDisk [])) =
        outcome (Count.countText nestedDisk "!FORMAT: <KA>\nREPEAT 2\n    .\n".toList none
          (Store.afterOn nestedDisk [])) := by
  have hraw : Line.IsBare "INCLUDE".toList "    INCLUDE \t".toList :=
    ⟨Or.inl rfl, "    ".toList, " \t".toList, rfl, List.all_eq_true.mp (by decide),
      List.all_eq_true.mp (by decide)⟩
  have hlines : Text.lines bareText =
      ["!FORMAT: <KA>".toList, "REPEAT 2".toList] ++ "    INCLUDE \t".toList :: [] := by
    decide +kernel
  have hread : (Header.read none (Text.lines bareText)).toOption.map (fun header =>
      (header.format.tokens? "INCLUDE".toList, header.format.fields.map Field.name)) =
        some (some ["INCLUDE".toList], ["KA".toList]) := by decide +kernel
  have hscript : (outcome (parseText nestedDisk bareText none false
      (Store.afterOn nestedDisk []))).toOption.isSome = true := by decide +kernel
  have houtline : outlineOf (Text.lines bareText) =
      .loop (Line.measure 2 "REPEAT 2".toList) 2
        (.leaf (Line.measure 3 "    INCLUDE \t".toList) .data .nil) .nil := by decide +kernel
  obtain ⟨header, hh⟩ := exists_ok_of_isSome (Option.isSome_map ▸ congrArg Option.isSome hread)
  obtain ⟨script, h⟩ := exists_ok_of_isSome hscript
  rw [hh] at hread
  obtain ⟨htokens, hnames⟩ := Prod.mk.inj (Option.some.inj hread)
  obtain ⟨-, -, hreached, hcount⟩ := bare_word_is_data nestedDisk hh hlines hraw
  have hreach : Reaches nestedDisk none header (Text.lines bareText)
      (.leaf (Line.measure 3 "    INCLUDE \t".toList) .data) := by
    rw [Reaches, houtline, steps, upTo_cons_of_none rfl]
    exact List.mem_cons_of_mem _ (mem_upTo_cons_self _ _ _)
  have hframe := hreached hreach false []
  simp only [htokens, hnames] at hframe
  exact ⟨hraw, ⟨script, h, hframe script h (by decide +kernel)⟩,
    hcount "    .".toList _ (by decide) (by decide +kernel) none [] []⟩

end Words

end Script

end FrameScript
