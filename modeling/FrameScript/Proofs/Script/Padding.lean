import FrameScript.Proofs.Outline.Silence
import FrameScript.Proofs.Script.Unrolled

/-!
# Blank lines and comments are inert

Below its header a text may be filled with blank lines and with comments, at any place and with any
margin: between a repetition and its body, within a body, where a body ends, and after the last
line. The text can be read if and only if it could be read before, with the same entries; it has the
same count, or the same failure; and the marks of all other lines say what they said, beside lines
that have been shifted.

## Results

* `IsPadding.find_after`, `IsPadding.wordings_bodyOf`: the header stays; the body reads the same.
* `Script.plainLines_padded`, `Count.plainLines_padded`, `Count.plainMarks_padded`: the statements
  without a store.
* `Script.padding_is_inert`: **blank lines and comments are inert.**
-/

namespace FrameScript

open Filled

/-- The filled text can be written down if no break is in a line that has been put in. -/
theorem Filled.exists_after {filled : List Filled} {text : Text}
    (htext : Text.lines text = before filled)
    (h : ∀ e ∈ filled, e.added = true → ∀ c ∈ e.raw, Text.isBreak c = false) :
    ∃ padded, Text.lines padded = after filled := by
  refine ⟨_, Text.lines_unlines fun raw hm => ?_⟩
  obtain ⟨e, he, rfl⟩ := List.mem_map.mp hm
  cases hadded : e.added with
  | true => exact h e he hadded
  | false => exact Text.isBreak_of_mem_lines (htext ▸ mem_before he hadded)

/-- Lines have been put in below a usable header, and nothing but blank lines and comments. -/
structure IsPadding (filled : List Filled) : Prop where
  usable : (HeaderLines.find (before filled)).isUsable = true
  below : ∀ e ∈ filled.take (HeaderLines.find (before filled)).bodyStart, e.added = false
  silent : ∀ e ∈ filled, e.added = true → Line.isSilent e.raw = true

namespace IsPadding

variable {filled : List Filled}

/-- The lines of the header, in which nothing has been put, and those of the body. -/
theorem exists_split (h : IsPadding filled) :
    ∃ front back, filled = front ++ back ∧ (∀ e ∈ front, e.added = false) ∧
      (∀ e ∈ back, e.added = true → Line.isSilent e.raw = true) ∧
      front.length = (HeaderLines.find (before filled)).bodyStart :=
  ⟨_, _, (List.take_append_drop _ filled).symm, h.below,
    fun e hm => h.silent e (List.mem_of_mem_drop hm),
    List.length_take_of_le ((HeaderLines.bodyStart_le h.usable).trans (length_before_le filled))⟩

/-- **The header stays.** -/
theorem find_after (h : IsPadding filled) :
    HeaderLines.find (after filled) = HeaderLines.find (before filled) := by
  obtain ⟨front, back, rfl, hfront, -, hlength⟩ := h.exists_split
  refine HeaderLines.find_of_take h.usable ?_
  rw [← hlength, before_append hfront, after_append, List.take_left' (length_after front),
    List.take_left' (length_after front)]

/-- The bodies, with and without the lines that have been put in. -/
theorem bodyOf_eq {front back : List Filled} (h : IsPadding (front ++ back))
    (hfront : ∀ e ∈ front, e.added = false)
    (hlength : front.length = (HeaderLines.find (before (front ++ back))).bodyStart) :
    bodyOf (after (front ++ back)) = Line.measureFrom (front.length + 1) (after back) ∧
      bodyOf (before (front ++ back)) = Line.measureFrom (front.length + 1) (before back) := by
  rw [bodyOf, bodyOf, h.find_after, ← hlength, before_append hfront, after_append,
    List.drop_left' (length_after front), List.drop_left' (length_after front)]
  exact ⟨rfl, rfl⟩

/-- **The body reads the same.** -/
theorem wordings_bodyOf (h : IsPadding filled) :
    Line.wordings (bodyOf (after filled)) = Line.wordings (bodyOf (before filled)) := by
  obtain ⟨front, back, rfl, hfront, hback, hlength⟩ := h.exists_split
  obtain ⟨hafter, hbefore⟩ := h.bodyOf_eq hfront hlength
  rw [hafter, hbefore]
  exact wordings_before hback _ _

end IsPadding

namespace Count

open Outline Reading

variable {disk : Disk} {base : Location} {filled : List Filled} {lines : List Text}

theorem plainLines_of_usable {included : Path → Except Failure (Option Nat)}
    (h : (HeaderLines.find lines).isUsable = true) :
    plainLines disk base included lines =
      (outlineOf lines).counted (plainTarget disk base (HeaderLines.find lines) included) :=
  if_pos h

theorem plainMarks_of_usable (h : (HeaderLines.find lines).isUsable = true) :
    plainMarks disk base lines =
      ((outlineOf lines).marked (plainShown disk base (HeaderLines.find lines)) 0).map
        fun marked => Gutter.uniform .header 1 (HeaderLines.find lines).bodyStart ++ marked.1 :=
  if_pos h

/-- **The count stays**, or the failure. -/
theorem plainLines_padded {included : Path → Except Failure (Option Nat)}
    (h : IsPadding filled) :
    plainLines disk base included (after filled) =
      plainLines disk base included (before filled) := by
  have husable : (HeaderLines.find (after filled)).isUsable = true := by
    rw [h.find_after]
    exact h.usable
  rw [plainLines_of_usable husable, plainLines_of_usable h.usable, h.find_after]
  exact counted_of_wordings _ h.wordings_bodyOf

/-- The marks of the lines in the body stay. -/
theorem markList_padded {front back : List Filled} (h : IsPadding (front ++ back))
    (hfront : ∀ e ∈ front, e.added = false)
    (hback : ∀ e ∈ back, e.added = true → Line.isSilent e.raw = true)
    (hlength : front.length = (HeaderLines.find (before (front ++ back))).bodyStart)
    (size : Text → Option Nat) :
    (kept back ((build 0 (bodyOf (after (front ++ back)))).markList size 0).1).map Mark.reading =
      ((build 0 (bodyOf (before (front ++ back)))).markList size 0).1.map Mark.reading := by
  obtain ⟨hafter, hbefore⟩ := h.bodyOf_eq hfront hlength
  rw [hafter, hbefore, ← passAll_outer, ← passAll_outer]
  exact passAll_kept hback _ _

/-- **The marks of the other lines stay**, or the failure. -/
theorem plainMarks_padded (h : IsPadding filled) :
    (plainMarks disk base (after filled)).map (fun marks => (kept filled marks).map Mark.reading) =
      (plainMarks disk base (before filled)).map fun marks => marks.map Mark.reading := by
  have husable : (HeaderLines.find (after filled)).isUsable = true := by
    rw [h.find_after]
    exact h.usable
  have hfault : (outlineOf (after filled)).steps.findSome?
        (Step.fault (plainShown disk base (HeaderLines.find (before filled)))) =
      (outlineOf (before filled)).steps.findSome?
        (Step.fault (plainShown disk base (HeaderLines.find (before filled)))) :=
    fault_of_wordings _ h.wordings_bodyOf
  rw [plainMarks_of_usable husable, plainMarks_of_usable h.usable, h.find_after]
  cases hf : (outlineOf (before filled)).steps.findSome?
      (Step.fault (plainShown disk base (HeaderLines.find (before filled)))) with
  | some failure =>
    rw [marked_of_some hf, marked_of_some (hfault.trans hf)]
    rfl
  | none =>
    rw [marked_of_none hf, marked_of_none (hfault.trans hf)]
    refine congrArg Except.ok ?_
    obtain ⟨front, back, rfl, hfront, hback, hlength⟩ := h.exists_split
    dsimp only
    rw [kept_append hfront ((length_uniform _ _ _).trans hlength.symm), List.map_append,
      List.map_append]
    exact congrArg _ (markList_padded h hfront hback hlength _)

/-! What calls give that find the store as others have left it. -/

theorem outcome_countText_storeAfter (disk : Disk) (text : Text) (base : Option Text)
    (calls : List Call) :
    outcome (countText disk text base (storeAfter disk calls)) =
      plainLines disk (baseOf disk base) (plainAt disk []) (Text.lines text) :=
  (gives_countText text base _ (sound_storeAfter disk calls)).1

theorem outcome_annotate_storeAfter (disk : Disk) (text : Text) (base : Option Text)
    (calls : List Call) :
    outcome (Gutter.annotate disk text base (storeAfter disk calls)) =
      plainMarks disk (baseOf disk base) (Text.lines text) :=
  (gives_annotate text base _ (sound_storeAfter disk calls)).1

end Count

namespace Script

open Outline Reading

variable {disk : Disk} {source : Option Text} {base : Location} {filled : List Filled}
  {parse : Path → Except Failure Script}

/-- Lines with the same header of which the body reads the same make a script with the same
entries. -/
theorem plainLines_of_wordings {lines lines' : List Text} {script : Script}
    (h : plainLines disk source base parse lines = .ok script)
    (hfind : HeaderLines.find lines' = HeaderLines.find lines)
    (hbody : Line.wordings (bodyOf lines') = Line.wordings (bodyOf lines)) :
    ∃ frames, plainLines disk source base parse lines' = .ok { script with frames := frames } ∧
      frames.map Frame.entries = script.frames.map Frame.entries :=
  plainLines_of_yields h hfind (yields_of_wordings hbody (yields_of_script h))

/-- **Blank lines and comments are inert.** Below a usable header a text may be filled with blank
lines and comments, at any place and with any margin. It can be read if and only if it could be read
before, and its frames have the same entries; it has the same count, or none as before, or the same
failure; and the marks of the other lines are of the same kinds and have the same values, beside
the numbers to which the lines have been shifted. -/
theorem padding_is_inert (disk : Disk) {filled : List Filled} (h : IsPadding filled) {text : Text}
    (htext : Text.lines text = before filled) :
    ((∀ e ∈ filled, e.added = true → ∀ c ∈ e.raw, Text.isBreak c = false) →
      ∃ padded, Text.lines padded = after filled) ∧
    ∀ padded, Text.lines padded = after filled →
      (∀ path typed earlier later entries,
        (∃ script,
          outcome (parseText disk padded path typed (answers disk later .empty).2) = .ok script ∧
            script.frames.map Frame.entries = entries) ↔
        ∃ script,
          outcome (parseText disk text path typed (answers disk earlier .empty).2) = .ok script ∧
            script.frames.map Frame.entries = entries) ∧
      ∀ base earlier later,
        outcome (Count.countText disk padded base (Count.storeAfter disk later)) =
            outcome (Count.countText disk text base (Count.storeAfter disk earlier)) ∧
          (outcome (Gutter.annotate disk padded base (Count.storeAfter disk later))).map
              (fun marks => (kept filled marks).map Mark.reading) =
            (outcome (Gutter.annotate disk text base (Count.storeAfter disk earlier))).map
              (fun marks => marks.map Mark.reading) ∧
          ∀ marks,
            outcome (Gutter.annotate disk padded base (Count.storeAfter disk later)) = .ok marks →
            marks.map Mark.number = List.range' 1 filled.length := by
  have hparse (text : Text) (path : Option Text) (typed : Bool) (calls : List Call) :
      outcome (parseText disk text path typed (answers disk calls .empty).2) =
        plainText disk text path typed :=
    (gives_parseText text path typed _ (sound_answers disk calls)).1
  refine ⟨exists_after htext, fun padded hpadded =>
    ⟨fun path typed earlier later entries => ?_, fun base earlier later => ?_⟩⟩
  · simp only [hparse, plainText, bind_plainDemand_eq_ok, hpadded, htext]
    constructor
    · rintro ⟨script, ⟨hscript, hkind⟩, rfl⟩
      obtain ⟨frames, hframes, hsame⟩ :=
        plainLines_of_wordings hscript h.find_after.symm h.wordings_bodyOf.symm
      exact ⟨_, ⟨hframes, hkind⟩, hsame⟩
    · rintro ⟨script, ⟨hscript, hkind⟩, rfl⟩
      obtain ⟨frames, hframes, hsame⟩ :=
        plainLines_of_wordings hscript h.find_after h.wordings_bodyOf
      exact ⟨_, ⟨hframes, hkind⟩, hsame⟩
  · simp only [Count.outcome_countText_storeAfter, Count.outcome_annotate_storeAfter, hpadded,
      htext]
    refine ⟨Count.plainLines_padded h, Count.plainMarks_padded h, fun marks hmarks => ?_⟩
    rw [Count.numbers_of_plainMarks hmarks, length_after]

/-- A text with two repetitions, one in the other. -/
def denseText : Text :=
  "!FORMAT: <KA>\nREPEAT 2\n    a\n    REPEAT 3\n        .\na\n".toList

/-- The lines of the text, with a comment before the body of a repetition, a blank line in it, a
comment in column three where both repetitions end, and blanks after the last line. -/
def loosened : List Filled :=
  [⟨"!FORMAT: <KA>".toList, false⟩, ⟨"REPEAT 2".toList, false⟩, ⟨"# twice".toList, true⟩,
    ⟨"    a".toList, false⟩, ⟨[], true⟩, ⟨"    REPEAT 3".toList, false⟩,
    ⟨"        .".toList, false⟩, ⟨"  # odd".toList, true⟩, ⟨"a".toList, false⟩,
    ⟨" \t ".toList, true⟩]

/-- The last line makes the ninth frame in both texts, once as line 6 and once as line 9. -/
theorem padding_is_inert_loosened :
    IsPadding loosened ∧ Text.lines denseText = before loosened ∧
      ∃ padded marks, Text.lines padded = after loosened ∧
        outcome (Count.countText nestedDisk padded none (Count.storeAfter nestedDisk [])) =
          .ok (some 9) ∧
        outcome (Gutter.annotate nestedDisk padded none (Count.storeAfter nestedDisk [])) =
          .ok marks ∧
        (kept loosened marks).map Mark.reading =
          [(.header, none), (.loop, none), (.data, some 1), (.loop, none), (.data, some 2),
            (.data, some 9)] := by
  have hpadding : IsPadding loosened :=
    ⟨by decide +kernel, by decide +kernel, by decide +kernel⟩
  have htext : Text.lines denseText = before loosened := by decide +kernel
  have hnine : outcome (Count.countText nestedDisk denseText none
      (Count.storeAfter nestedDisk [])) = .ok (some 9) := by decide +kernel
  have hmarks : outcome (Gutter.annotate nestedDisk denseText none
      (Count.storeAfter nestedDisk [])) =
        .ok [⟨1, .header, none⟩, ⟨2, .loop, none⟩, ⟨3, .data, some 1⟩, ⟨4, .loop, none⟩,
          ⟨5, .data, some 2⟩, ⟨6, .data, some 9⟩] := by
    rw [Count.outcome_annotate_storeAfter, htext]
    decide +kernel
  obtain ⟨hexists, hall⟩ := padding_is_inert nestedDisk hpadding htext
  have hunbroken : ∀ e ∈ loosened, e.raw.all (fun c => !Text.isBreak c) = true := by
    decide +kernel
  obtain ⟨padded, hpadded⟩ := hexists fun e he _ c hc => by
    simpa using List.all_eq_true.mp (hunbroken e he) c hc
  obtain ⟨-, hinert⟩ := hall padded hpadded
  obtain ⟨hcount, hsame, -⟩ := hinert none [] []
  rw [hmarks] at hsame
  cases hannotate : outcome (Gutter.annotate nestedDisk padded none
      (Count.storeAfter nestedDisk [])) with
  | error failure =>
    rw [hannotate] at hsame
    cases hsame
  | ok marks =>
    rw [hannotate] at hsame
    exact ⟨hpadding, htext, padded, marks, hpadded, hcount.trans hnine, hannotate,
      Except.ok.inj hsame⟩

end Script

end FrameScript
