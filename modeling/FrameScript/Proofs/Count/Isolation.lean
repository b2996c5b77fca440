import FrameScript.Proofs.Count.Faults
import FrameScript.Proofs.Outline.Pass
import FrameScript.Proofs.Text.Margins

/-!
# Errors do not spread

An error beside a line says that the line is passed over, and the gutter keeps this word: when every
line with an error beside it is emptied, all other marks stay, the emptied lines are marked as blank
ones, and what is left has a count.

The gutter may still give up, and for an obstacle only, on the terms of `Obstructs`: links that lead
back to themselves and the depth of files are none.

The header has no errors, so that the emptied text has the same one; and in the body a reader who
goes down the lines once does not miss the lines that are gone (`Outline.passAll_spare`).

## Results

* `badPath_of_obstructs`: where no count has too many digits, only the name of a script can be an
  obstacle.
* `plainMarks_spared`: the statement without a store.
* `annotate_isolates_errors`: **lines with an error beside them can be emptied.**
-/

namespace FrameScript

/-- No repetition in the body of the script has a count of too many digits. -/
def HasShortCounts (lines : List Text) : Prop :=
  ∀ line ∈ bodyOf lines, ∀ text, Directive.read line.content = .repetition text →
    ∀ digits, Numeral.readNat text ≠ .tooLong digits

/-- The lines of a text, with those emptied beside which an error stands. -/
def spared (marks : List Mark) (lines : List Text) : List Text :=
  List.zipWith Mark.spare marks lines

theorem spared_cons (mark : Mark) (marks : List Mark) (raw : Text) (raws : List Text) :
    spared (mark :: marks) (raw :: raws) = mark.spare raw :: spared marks raws :=
  rfl

theorem mem_of_mem_spared {marks : List Mark} {raws : List Text} {raw : Text}
    (h : raw ∈ spared marks raws) : raw = [] ∨ raw ∈ raws := by
  induction raws generalizing marks with
  | nil => cases marks <;> exact absurd h List.not_mem_nil
  | cons first raws ih =>
    cases marks with
    | nil => exact absurd h List.not_mem_nil
    | cons mark marks =>
      rcases List.mem_cons.mp h with rfl | h
      · unfold Mark.spare
        split
        · exact Or.inl rfl
        · exact Or.inr List.mem_cons_self
      · exact (ih h).imp_right (List.mem_cons_of_mem first)

namespace Outline

variable {count : Text → Except Failure (Option Nat)} {size : Text → Option Nat}

/-- Nothing fails the marking where no error is shown. -/
theorem fault_of_not_errs {step : Step} (h : ¬step.Errs (shownCount count)) :
    step.fault count = none := by
  match step with
  | .leaf _ .skip | .leaf _ .data | .enter _ _ | .leave _ => rfl
  | .leaf _ (.bad misfit) => exact absurd trivial h
  | .leaf line (.inclusion target) =>
    cases ht : count target with
    | ok shown => rw [Step.fault, ht]
    | error failure =>
      refine absurd ?_ h
      change shownCount count target = none
      rw [shownCount, ht]

/-- A body without an error beside its lines is marked. -/
theorem marked_of_clean {o : Outline} {position : Nat}
    (h : ∀ mark ∈ (o.markList (shownCount count) position).1, mark.kind ≠ .error) :
    o.marked count position = .ok (o.markList (shownCount count) position) := by
  refine marked_of_none (List.findSome?_eq_none_iff.mpr fun step hstep => ?_)
  refine fault_of_not_errs fun he => ?_
  obtain ⟨mark, hmark, hkind⟩ := exists_error_iff.mpr ⟨step, hstep, he⟩
  exact h mark hmark hkind

/-- The marks of a body are those of one pass over it. -/
theorem passAll_outer (size : Text → Option Nat) (lines : List Line) :
    (passAll size ⟨[], 0⟩ lines).1 = ((build 0 lines).markList size 0).1 :=
  (passAll_build ⟨[], 0⟩ lines fun _ _ _ _ _ => Nat.zero_le _).1

/-- The marks of a body in which the lines are emptied that have an error beside them. -/
theorem markList_spared (size : Text → Option Nat) (lines : List Line) :
    ((build 0 (List.zipWith spareLine ((build 0 lines).markList size 0).1 lines)).markList
        size 0).1 =
      ((build 0 lines).markList size 0).1.map Mark.emptied := by
  rw [← passAll_outer, ← passAll_outer]
  exact passAll_spare lines (Standing.rise_of_le (Nat.le_refl _))

theorem measureFrom_spared (first : Nat) (marks : List Mark) (raws : List Text) :
    Line.measureFrom first (spared marks raws) =
      List.zipWith spareLine marks (Line.measureFrom first raws) := by
  induction raws generalizing first marks with
  | nil => cases marks <;> rfl
  | cons raw raws ih =>
    cases marks with
    | nil => rfl
    | cons mark marks =>
      have hfirst : Line.measure first (mark.spare raw) =
          spareLine mark (Line.measure first raw) := by
        cases he : mark.isError with
        | true =>
          rw [Mark.spare, spareLine, if_pos he, if_pos he]
          rfl
        | false =>
          rw [Mark.spare, spareLine, if_neg (Bool.eq_false_iff.mp he),
            if_neg (Bool.eq_false_iff.mp he)]
      rw [spared_cons, Line.measureFrom, hfirst, ih, Line.measureFrom, List.zipWith_cons_cons]

end Outline

namespace Count

open Outline Reading

variable {disk : Disk} {base : Location} {lines : List Text} {failure : Failure}
  {marks : List Mark}

/-! ## Obstacles -/

theorem badPath_of_obstacle (hlines : HasShortCounts lines) (h : Obstacle base lines failure) :
    failure = .badPath := by
  cases h with
  | longCount hm hs hd hn => exact absurd hn (hlines _ hm _ hd _)
  | path => rfl

/-- **Where no count has too many digits, only the name of a script can be an obstacle.** -/
theorem badPath_of_obstructs (hlines : HasShortCounts lines)
    (hfiles : ∀ p text, disk.source p = .ok text → HasShortCounts (Text.lines text))
    (h : Obstructs disk base lines failure) : failure = .badPath := by
  rcases h with h | ⟨line, -, -, target, -, q, text, -, hs, h⟩
  · exact badPath_of_obstacle hlines h
  · exact badPath_of_obstacle (hfiles q text hs) h

/-! ## Emptied lines -/

theorem spared_uniform (first : Nat) (raws : List Text) :
    spared (Gutter.uniform .header first raws.length) raws = raws := by
  induction raws generalizing first with
  | nil => rfl
  | cons raw raws ih =>
    rw [List.length_cons, Gutter.uniform, spared_cons, ih]
    rfl

theorem emptied_uniform (first n : Nat) :
    (Gutter.uniform .header first n).map Mark.emptied = Gutter.uniform .header first n := by
  induction n generalizing first with
  | zero => rfl
  | succ n ih =>
    rw [Gutter.uniform, List.map_cons, ih]
    rfl

theorem length_header (hu : (HeaderLines.find lines).isUsable = true) :
    (lines.take (HeaderLines.find lines).bodyStart).length =
      (HeaderLines.find lines).bodyStart :=
  List.length_take_of_le (HeaderLines.bodyStart_le hu)

theorem length_uniform (kind : Mark.Kind) (first n : Nat) :
    (Gutter.uniform kind first n).length = n := by
  have hnumbers := congrArg List.length (numbers_of_uniform kind first n)
  rwa [List.length_map, List.length_range'] at hnumbers

/-- The header keeps its lines. -/
theorem spared_append (hu : (HeaderLines.find lines).isUsable = true) (marks : List Mark) :
    spared (Gutter.uniform .header 1 (HeaderLines.find lines).bodyStart ++ marks) lines =
      lines.take (HeaderLines.find lines).bodyStart ++
        spared marks (lines.drop (HeaderLines.find lines).bodyStart) := by
  have hlength := length_header hu
  have hheader := spared_uniform 1 (lines.take (HeaderLines.find lines).bodyStart)
  rw [hlength] at hheader
  calc
    _ = spared (Gutter.uniform .header 1 (HeaderLines.find lines).bodyStart ++ marks)
          (lines.take (HeaderLines.find lines).bodyStart ++
            lines.drop (HeaderLines.find lines).bodyStart) := by rw [List.take_append_drop]
    _ = spared (Gutter.uniform .header 1 (HeaderLines.find lines).bodyStart)
            (lines.take (HeaderLines.find lines).bodyStart) ++
          spared marks (lines.drop (HeaderLines.find lines).bodyStart) :=
        List.zipWith_append ((length_uniform _ _ _).trans hlength.symm)
    _ = _ := by rw [hheader]

/-- The header of the lines when lines of the body are emptied, and their body. -/
theorem bodyOf_spared (hu : (HeaderLines.find lines).isUsable = true)
    (hm : marks = Gutter.uniform .header 1 (HeaderLines.find lines).bodyStart ++
      Script.bodyMarks disk base lines) :
    HeaderLines.find (spared marks lines) = HeaderLines.find lines ∧
      bodyOf (spared marks lines) =
        List.zipWith spareLine (Script.bodyMarks disk base lines) (bodyOf lines) := by
  subst hm
  have hlength := length_header hu
  have hfind : HeaderLines.find (spared (Gutter.uniform .header 1
      (HeaderLines.find lines).bodyStart ++ Script.bodyMarks disk base lines) lines) =
        HeaderLines.find lines := by
    refine HeaderLines.find_of_take hu ?_
    rw [spared_append hu, List.take_left' hlength]
  refine ⟨hfind, ?_⟩
  rw [bodyOf, hfind, spared_append hu, List.drop_left' hlength, measureFrom_spared]
  rfl

/-- **Lines with an error beside them can be emptied**, without a store: all other marks stay, and
what is left has a count. -/
theorem plainMarks_spared (hu : (HeaderLines.find lines).isUsable = true)
    (h : plainMarks disk base lines = .ok marks) :
    plainMarks disk base (spared marks lines) = .ok (marks.map Mark.emptied) ∧
      (∀ mark ∈ marks.map Mark.emptied, mark.kind ≠ .error) ∧
      ∃ n, plainLines disk base (plainAt disk []) (spared marks lines) = .ok (some n) := by
  have hm := plainMarks_eq_ok hu h
  obtain ⟨hfind, hbody⟩ := bodyOf_spared hu hm
  have hclean : ∀ mark ∈ marks.map Mark.emptied, mark.kind ≠ .error := by
    intro mark hmark
    obtain ⟨old, -, rfl⟩ := List.mem_map.mp hmark
    exact of_decide_eq_false (Mark.isError_emptied old)
  have hsplit : marks.map Mark.emptied =
      Gutter.uniform .header 1 (HeaderLines.find lines).bodyStart ++
        (Script.bodyMarks disk base lines).map Mark.emptied := by
    rw [hm, List.map_append, emptied_uniform]
  have houtline : Outline.ofLines (HeaderLines.find lines).bodyStart (spared marks lines) =
      build 0 (List.zipWith spareLine (Script.bodyMarks disk base lines) (bodyOf lines)) := by
    rw [← hbody, bodyOf, hfind]
    rfl
  have hlist : ((build 0 (List.zipWith spareLine (Script.bodyMarks disk base lines)
      (bodyOf lines))).markList
        (shownCount (plainShown disk base (HeaderLines.find lines))) 0).1 =
      (Script.bodyMarks disk base lines).map Mark.emptied :=
    markList_spared _ (bodyOf lines)
  have hmarks : plainMarks disk base (spared marks lines) = .ok (marks.map Mark.emptied) := by
    unfold plainMarks
    simp only [hfind, if_pos hu, houtline]
    rw [marked_of_clean fun mark hmark => ?_, hsplit, ← hlist]
    · rfl
    · refine hclean mark ?_
      rw [hsplit, ← hlist]
      exact List.mem_append_right _ hmark
  have hne : spared marks lines ≠ [] := by
    rintro hnil
    rw [hnil] at hfind
    rw [← hfind] at hu
    cases hu
  exact ⟨hmarks, hclean, (plainMarks_without_error_iff hne).mp ⟨_, hmarks, hclean⟩⟩

/-! ## Texts -/

/-- **Errors do not spread.** Where the header of a text is usable and the gutter of the text has
marks, the lines beside which an error stands can be emptied: the marks of all other lines stay as
they are, the emptied lines are marked as blank ones, and what is left has a count. The gutter has
marks unless there is an obstacle, and if no repetition in the text or in a file has a count of too
many digits, that is the name of a script that no system takes for a path. -/
theorem annotate_isolates_errors (disk : Disk) (text : Text)
    (hu : (HeaderLines.find (Text.lines text)).isUsable = true) (base : Option Text)
    (earlier later others : List Call) :
    (HasShortCounts (Text.lines text) →
      (∀ p text, disk.source p = .ok text → HasShortCounts (Text.lines text)) →
      ∀ failure, outcome (Gutter.annotate disk text base (storeAfter disk earlier)) =
          .error failure →
        failure = .badPath ∧ Obstructs disk (baseOf disk base) (Text.lines text) .badPath) ∧
    ∀ marks, outcome (Gutter.annotate disk text base (storeAfter disk earlier)) = .ok marks →
      (∃ cleared, Text.lines cleared = spared marks (Text.lines text)) ∧
      ∀ cleared, Text.lines cleared = spared marks (Text.lines text) →
        outcome (Gutter.annotate disk cleared base (storeAfter disk later)) =
            .ok (marks.map Mark.emptied) ∧
          (∀ mark ∈ marks.map Mark.emptied, mark.kind ≠ .error) ∧
          ∃ n, outcome (countText disk cleared base (storeAfter disk others)) = .ok (some n) := by
  have hannotate (text : Text) (calls : List Call) :
      outcome (Gutter.annotate disk text base (storeAfter disk calls)) =
        plainMarks disk (baseOf disk base) (Text.lines text) :=
    (gives_annotate text base _ (sound_storeAfter disk calls)).1
  simp only [hannotate]
  refine ⟨fun hlines hfiles failure h => ?_, fun marks h => ⟨?_, fun cleared hcleared => ?_⟩⟩
  · have hobstructs := obstructs_of_plainMarks h
    obtain rfl := badPath_of_obstructs hlines hfiles hobstructs
    exact ⟨rfl, hobstructs⟩
  · refine ⟨_, Text.lines_unlines fun raw hraw c hc => ?_⟩
    rcases mem_of_mem_spared hraw with rfl | hraw
    · exact absurd hc List.not_mem_nil
    · exact Text.isBreak_of_mem_lines hraw c hc
  · obtain ⟨hmarks, hclean, n, hn⟩ := plainMarks_spared hu h
    rw [hcleared]
    refine ⟨hmarks, hclean, n, ?_⟩
    rw [(gives_countText cleared base _ (sound_storeAfter disk others)).1, hcleared, hn]

/-- A text with a line that is too deep, and a repetition without a count, with a line below it. -/
def raggedText : Text :=
  "!FORMAT: <KA>\nREPEAT 2\n    a\n        a\n    .\nREPEAT x\n    a\na\n".toList

/-- The lines of the text, with three of them emptied. -/
def raggedCleared : List Text :=
  ["!FORMAT: <KA>", "REPEAT 2", "    a", "", "    .", "", "", "a"].map String.toList

/-- The last line makes the fifth frame, with the three lines and without them. -/
theorem annotate_isolates_errors_ragged :
    (HeaderLines.find (Text.lines raggedText)).isUsable = true ∧
      ∃ cleared, Text.lines cleared = raggedCleared ∧
        outcome (Gutter.annotate Script.nestedDisk cleared none
          (storeAfter Script.nestedDisk [])) =
          .ok [⟨1, .header, none⟩, ⟨2, .loop, none⟩, ⟨3, .data, some 1⟩, ⟨4, .blank, none⟩,
            ⟨5, .data, some 2⟩, ⟨6, .blank, none⟩, ⟨7, .blank, none⟩, ⟨8, .data, some 5⟩] := by
  have hu : (HeaderLines.find (Text.lines raggedText)).isUsable = true := by decide +kernel
  have hmarks : outcome (Gutter.annotate Script.nestedDisk raggedText none
      (storeAfter Script.nestedDisk [])) =
        .ok [⟨1, .header, none⟩, ⟨2, .loop, none⟩, ⟨3, .data, some 1⟩, ⟨4, .error, none⟩,
          ⟨5, .data, some 2⟩, ⟨6, .error, none⟩, ⟨7, .error, none⟩, ⟨8, .data, some 5⟩] := by
    decide +kernel
  obtain ⟨-, hall⟩ := annotate_isolates_errors Script.nestedDisk raggedText hu none [] [] []
  obtain ⟨⟨cleared, hcleared⟩, hspared⟩ := hall _ hmarks
  refine ⟨hu, cleared, hcleared.trans (by decide +kernel), ?_⟩
  exact (hspared cleared hcleared).1

end Count

end FrameScript
