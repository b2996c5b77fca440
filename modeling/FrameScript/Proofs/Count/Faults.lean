import FrameScript.Proofs.Count.Gutter
import FrameScript.Proofs.Nesting
import FrameScript.Proofs.Text.Margins

/-!
# Where the gutter gives up

The gutter means to go on after every line, and it does after each that does not fit and after an
included script that cannot be read or has no count. Two things it does not expect: a repetition
whose count passes for a number but has more than `Numeral.digitLimit` digits, and the name of a
script that no system takes for a path. Either ends the gutter with a failure that has no kind, even
if it stands in a script that is included, however far away.

`Obstacle` lists the two, with the failure that follows; `Obstructs` says that one of them is in
the lines or in a file to which they lead.

The list is complete for readers that go as deep as the files are nested, on a disk that passes
through a link that leads back to itself (`Disk.canonical`). Where a system bounds the depth of
calls or refuses such a link, the gutter can give up at these too.

## Results

* `plainAt_error`: counting a file fails for a file that cannot be read, or for an obstacle.
* `obstructs_of_plainMarks`: the gutter fails for an obstacle only.
* `mark_of_errs`: an error is shown beside each line that cannot be dealt with.
* `annotate_marks_unless_obstructed`: **the gutter has a mark for every line**, and an error beside
  each that cannot be dealt with, **unless there is an obstacle**.
-/

namespace FrameScript

namespace Outline

/-! ## A mark for every line -/

variable {size : Text → Option Nat} {position : Nat}

/-- **Every line has a mark**, and the marks stand in the order of the lines. -/
theorem numbers_of_markList (position : Nat) (o : Outline) :
    (o.markList size position).1.map Mark.number = o.lines.map Line.number := by
  induction o generalizing position with
  | nil => rfl
  | leaf line item next ih =>
    have hnumber : (Mark.ofItem size position line item).number = line.number := by
      cases item with
      | inclusion target =>
        rw [Mark.ofItem]
        split <;> rfl
      | _ => rfl
    rw [markList, List.map_cons, hnumber, ih, lines_leaf, List.map_cons]
  | loop line n body next ihb ihn =>
    rw [markList, List.cons_append, List.map_cons, List.map_append, ihb, ihn, lines_loop,
      List.map_cons, List.map_append]

/-- An error is shown beside each line that cannot be dealt with. -/
theorem mark_of_errs {o : Outline} {line : Line} {item : Item} (h : .leaf line item ∈ o.steps)
    (he : (Step.leaf line item).Errs size) (position : Nat) :
    ⟨line.number, .error, none⟩ ∈ (o.markList size position).1 := by
  induction o generalizing position with
  | nil => exact absurd h List.not_mem_nil
  | leaf line' item' next ih =>
    rcases List.mem_cons.mp h with hsame | h
    · cases hsame
      have hmark : Mark.ofItem size position line item = ⟨line.number, .error, none⟩ := by
        cases item with
        | inclusion target =>
          have hsize : size target = none := he
          rw [Mark.ofItem, hsize]
        | bad misfit => rfl
        | _ => exact he.elim
      rw [markList, hmark]
      exact List.mem_cons_self
    · exact List.mem_cons_of_mem _ (ih h _)
  | loop line' n body next ihb ihn =>
    rw [steps, List.mem_cons, List.mem_append, List.mem_cons] at h
    rcases h with hsame | h | hsame | h
    · cases hsame
    · exact List.mem_cons_of_mem _ (List.mem_append_left _ (ihb h position))
    · cases hsame
    · exact List.mem_cons_of_mem _ (List.mem_append_right _ (ihn h _))

end Outline

namespace Count

open Outline Reading

/-! ## Obstacles -/

/-- What the lines of a script ask for that the gutter does not expect, in a script that is seen
from `base`, and the failure that follows. -/
inductive Obstacle (base : Location) (lines : List Text) : Failure → Prop
  | longCount {line : Line} {text : Text} {digits : Nat} (hm : line ∈ bodyOf lines)
      (hs : line.isSkipped = false) (hd : Directive.read line.content = .repetition text)
      (hn : Numeral.readNat text = .tooLong digits) : Obstacle base lines (.longNumeral digits)
  | path {line : Line} {target : Text} (hm : line ∈ bodyOf lines) (hs : line.isSkipped = false)
      (hd : Directive.read line.content = .inclusion target)
      (hu : (base.under (Location.read target)).isSound = false) : Obstacle base lines .badPath

/-- An obstacle is in a file to which the file `p` leads, or in `p` itself. -/
def ObstructedAt (disk : Disk) (p : Path) (failure : Failure) : Prop :=
  ∃ q text, Relation.ReflTransGen (Includes disk) p q ∧ disk.source q = .ok text ∧
    Obstacle q.parent.location (Text.lines text) failure

/-- An obstacle is in the lines, or in a file to which one of them leads. How deep the files are
nested, and links that lead back to themselves, are no obstacles here. -/
def Obstructs (disk : Disk) (base : Location) (lines : List Text) (failure : Failure) : Prop :=
  Obstacle base lines failure ∨
    ∃ line ∈ bodyOf lines, line.isSkipped = false ∧ ∃ target,
      Directive.read line.content = .inclusion target ∧
        ObstructedAt disk (disk.canonical (base.under (Location.read target))) failure

variable {disk : Disk} {base : Location} {lines : List Text} {p q : Path} {chain : List Path}
  {included : Path → Except Failure (Option Nat)} {failure : Failure} {text : Text}

theorem Obstacle.kind (h : Obstacle base lines failure) : failure.kind? = none := by
  cases h <;> rfl

theorem Obstructs.kind (h : Obstructs disk base lines failure) : failure.kind? = none := by
  rcases h with h | ⟨line, -, -, target, -, q, text, -, -, h⟩
  · exact h.kind
  · exact h.kind

/-! ## Counting -/

theorem cases_of_plainTarget {line : Line} {target : Text}
    (hstep : .leaf line (.inclusion target) ∈ (outlineOf lines).steps)
    (h : plainTarget disk base (HeaderLines.find lines) included target = .error failure) :
    Obstacle base lines failure ∨
      ∃ q, (HeaderLines.find lines).aim disk base target = .file q ∧
        included q = .error failure := by
  obtain ⟨hs, hd⟩ := agrees_of_mem_steps_build hstep
  have hm : line ∈ bodyOf lines := line_of_mem_steps_build hstep rfl
  unfold plainTarget at h
  cases ha : (HeaderLines.find lines).aim disk base target with
  | nowhere =>
    rw [ha] at h
    cases h
  | astray =>
    rw [ha] at h
    cases h
    exact Or.inl (.path hm hs hd (HeaderLines.not_sound_of_aim ha))
  | file q =>
    rw [ha] at h
    exact Or.inr ⟨q, rfl, h⟩

/-- A count of too many digits is an obstacle. -/
theorem obstacle_of_longCount {line : Line} {digits : Nat}
    (hstep : .leaf line (.bad (.longCount digits)) ∈ (outlineOf lines).steps) :
    Obstacle base lines (.longNumeral digits) := by
  obtain ⟨hs, text, hd, hn⟩ := agrees_of_mem_steps_build hstep
  exact .longCount (line_of_mem_steps_build hstep rfl) hs hd hn

/-- Counting lines fails for an obstacle in them, or for a file that one of them includes. -/
theorem cases_of_plainLines (h : plainLines disk base included lines = .error failure) :
    Obstacle base lines failure ∨ ∃ line target q,
      .leaf line (.inclusion target) ∈ (outlineOf lines).steps ∧
        (HeaderLines.find lines).aim disk base target = .file q ∧
        included q = .error failure := by
  unfold plainLines at h
  by_cases hu : (HeaderLines.find lines).isUsable = true
  · simp only [if_pos hu] at h
    cases hf : (outlineOf lines).steps.findSome?
        (Step.stop (plainTarget disk base (HeaderLines.find lines) included)) with
    | none =>
      rw [counted_of_none hf] at h
      cases h
    | some outcome =>
      rw [counted_of_some hf] at h
      subst h
      obtain ⟨step, hstep, hstop⟩ := List.exists_of_findSome?_eq_some hf
      match step with
      | .leaf line (.inclusion target) =>
        have htarget : plainTarget disk base (HeaderLines.find lines) included target =
            .error failure := by
          rw [Step.stop] at hstop
          split at hstop
          · cases hstop
          · exact Option.some.inj hstop
        rcases cases_of_plainTarget hstep htarget with hobstacle | ⟨q, ha, hq⟩
        · exact Or.inl hobstacle
        · exact Or.inr ⟨line, target, q, hstep, ha, hq⟩
      | .leaf line (.bad (.longCount digits)) =>
        cases hstop
        exact Or.inl (obstacle_of_longCount hstep)
  · simp only [if_neg hu] at h
    cases h

/-- **Counting a file fails for a file that cannot be read, or for an obstacle** in a file that it
leads to. -/
theorem plainAt_error (h : plainAt disk chain p = .error failure) :
    (∃ path opened fault, failure = .unreadable path opened fault) ∨
      ObstructedAt disk p failure := by
  induction hr : room disk.paths chain using Nat.strongRecOn generalizing chain p with
  | ind k ih =>
    by_cases hc : p ∈ chain
    · rw [plainAt_of_mem hc] at h
      cases h
    cases hs : disk.source p with
    | error fault =>
      rw [plainAt_of_error hc hs] at h
      cases h
      exact Or.inl ⟨_, _, _, rfl⟩
    | ok text =>
      rw [plainAt_of_ok hc hs] at h
      rcases cases_of_plainLines h with hobstacle | ⟨line, target, q, hstep, ha, hq⟩
      · exact Or.inr ⟨p, text, .refl, hs, hobstacle⟩
      · have hless := hr ▸ Disk.room_lt_of_source hc hs
        rcases ih _ hless hq rfl with hunread | ⟨r, text', hlead, hs', hobstacle⟩
        · exact Or.inl hunread
        · exact Or.inr ⟨r, text', .head (includes_of_step hs hstep ha) hlead, hs', hobstacle⟩

/-! ## The gutter -/

/-- What fails the gutter is no file that cannot be read. -/
theorem readable_eq_error_iff {e : Except Failure (Option Nat)} :
    readable e = .error failure ↔
      e = .error failure ∧ ∀ path opened fault, failure ≠ .unreadable path opened fault := by
  unfold readable
  split
  · refine ⟨nofun, fun ⟨he, hne⟩ => ?_⟩
    exact absurd (Except.error.inj he).symm (hne _ _ _)
  · rename_i hother
    refine ⟨fun he => ⟨he, ?_⟩, And.left⟩
    rintro path opened fault rfl
    exact hother _ _ _ he

/-- What the gutter cannot show for a line that includes a script fails for an obstacle. -/
theorem obstructs_of_plainShown {line : Line} {target : Text}
    (hstep : .leaf line (.inclusion target) ∈ (outlineOf lines).steps)
    (h : plainShown disk base (HeaderLines.find lines) target = .error failure) :
    Obstructs disk base lines failure := by
  obtain ⟨hs, hd⟩ := agrees_of_mem_steps_build hstep
  have hm : line ∈ bodyOf lines := line_of_mem_steps_build hstep rfl
  unfold plainShown at h
  split at h
  · cases h
  · obtain ⟨hfile, hread⟩ := readable_eq_error_iff.mp h
    unfold plainFile at hfile
    split at hfile
    · rcases plainAt_error hfile with ⟨path, opened, fault, he⟩ | hobstructed
      · exact absurd he (hread _ _ _)
      · exact Or.inr ⟨line, hm, hs, target, hd, hobstructed⟩
    · rename_i hsound
      cases hfile
      exact Or.inl (.path hm hs hd (Bool.eq_false_iff.mpr hsound))

theorem obstructs_of_fault {step : Step} (hstep : step ∈ (outlineOf lines).steps)
    (h : step.fault (plainShown disk base (HeaderLines.find lines)) = some failure) :
    Obstructs disk base lines failure := by
  match step with
  | .leaf line (.inclusion target) =>
    cases ht : plainShown disk base (HeaderLines.find lines) target with
    | ok shown =>
      rw [Step.fault, ht] at h
      cases h
    | error fault =>
      rw [Step.fault, ht] at h
      cases h
      exact obstructs_of_plainShown hstep ht
  | .leaf line (.bad (.longCount digits)) =>
    cases h
    exact Or.inl (obstacle_of_longCount hstep)

/-- The gutter gives up at a step that fails it, below a usable header. -/
theorem plainMarks_eq_error_iff :
    plainMarks disk base lines = .error failure ↔
      (HeaderLines.find lines).isUsable = true ∧
        (outlineOf lines).steps.findSome?
          (Step.fault (plainShown disk base (HeaderLines.find lines))) = some failure := by
  unfold plainMarks
  by_cases hu : (HeaderLines.find lines).isUsable = true
  · simp only [hu, true_and]
    cases hf : (outlineOf lines).steps.findSome?
        (Step.fault (plainShown disk base (HeaderLines.find lines))) with
    | none =>
      rw [marked_of_none hf]
      exact ⟨nofun, nofun⟩
    | some fault =>
      rw [marked_of_some hf]
      exact ⟨fun h => congrArg some (Except.error.inj h),
        fun h => congrArg Except.error (Option.some.inj h)⟩
  · simp only [if_neg hu]
    exact ⟨nofun, fun h => absurd h.1 hu⟩

/-- **The gutter fails for an obstacle only.** -/
theorem obstructs_of_plainMarks (h : plainMarks disk base lines = .error failure) :
    Obstructs disk base lines failure := by
  obtain ⟨-, hf⟩ := plainMarks_eq_error_iff.mp h
  obtain ⟨step, hstep, hfault⟩ := List.exists_of_findSome?_eq_some hf
  exact obstructs_of_fault hstep hfault

theorem numbers_of_uniform (kind : Mark.Kind) (first n : Nat) :
    (Gutter.uniform kind first n).map Mark.number = List.range' first n := by
  induction n generalizing first with
  | zero => rfl
  | succ n ih => rw [Gutter.uniform, List.map_cons, ih, List.range'_succ]

/-- The marks below a usable header are those of the outline. -/
theorem plainMarks_eq_ok (hu : (HeaderLines.find lines).isUsable = true) {marks : List Mark}
    (h : plainMarks disk base lines = .ok marks) :
    marks = Gutter.uniform .header 1 (HeaderLines.find lines).bodyStart ++
      Script.bodyMarks disk base lines := by
  unfold plainMarks at h
  simp only [if_pos hu] at h
  cases hf : (outlineOf lines).steps.findSome?
      (Step.fault (plainShown disk base (HeaderLines.find lines))) with
  | none =>
    rw [marked_of_none hf] at h
    exact (Except.ok.inj h).symm
  | some fault =>
    rw [marked_of_some hf] at h
    cases h

/-- **There is one mark for every line**, in the order of the lines. -/
theorem numbers_of_plainMarks {marks : List Mark} (h : plainMarks disk base lines = .ok marks) :
    marks.map Mark.number = List.range' 1 lines.length := by
  by_cases hu : (HeaderLines.find lines).isUsable = true
  · obtain ⟨index, -, hlt, hstart⟩ := HeaderLines.exists_formatIndex hu
    have hlines : (outlineOf lines).lines = bodyOf lines := lines_steps_build 0 _
    rw [plainMarks_eq_ok hu h, List.map_append, numbers_of_uniform, Script.bodyMarks,
      numbers_of_markList, hlines, bodyOf, Line.number_measureFrom, List.length_drop, hstart,
      Nat.add_comm (index + 1) 1, List.range'_append_1]
    congr 1
    omega
  · unfold plainMarks at h
    simp only [if_neg hu] at h
    rw [← Except.ok.inj h, numbers_of_uniform]

/-! ## Calls from outside -/

/-- The line cannot be dealt with: it does not fit, or includes a script without a count. -/
def Spoils (disk : Disk) (base : Location) (found : HeaderLines) : Item → Prop
  | .bad _ => True
  | .inclusion target =>
    found.isFragment = true ∨ target = [] ∨
      ∀ n, outcome (countFile disk (base.under (Location.read target)) .empty) ≠ .ok (some n)
  | _ => False

/-- The gutter gives up at the line: its count has too many digits, or counting the script that it
includes ends with a failure that has no kind. Counting is without a bound on how deep files are
nested, and a link that leads back to itself gives no failure of this sort. -/
def GivesUpAt (disk : Disk) (base : Location) (found : HeaderLines) : Item → Prop
  | .bad (.longCount _) => True
  | .inclusion target =>
    found.isFragment = false ∧ target ≠ [] ∧ ∃ failure,
      outcome (countFile disk (base.under (Location.read target)) .empty) = .error failure ∧
        failure.kind? = none
  | _ => False

variable {found : HeaderLines} {line : Line} {item : Item}

theorem errs_of_spoils (h : Spoils disk base found item) :
    (Step.leaf line item).Errs (shownCount (plainShown disk base found)) := by
  cases item with
  | bad misfit => trivial
  | inclusion target =>
    change shownCount (plainShown disk base found) target = none
    cases ht : plainShown disk base found target with
    | error failure => rw [shownCount, ht]
    | ok shown =>
      rw [shownCount, ht]
      cases shown with
      | none => rfl
      | some n =>
        unfold plainShown at ht
        split at ht
        · cases ht
        · rename_i hopen
          rw [Bool.or_eq_true, not_or, List.isEmpty_iff] at hopen
          rcases h with hf | hnil | hcount
          · exact absurd hf hopen.1
          · exact absurd hnil hopen.2
          · rw [Script.outcome_countFile] at hcount
            exact absurd (readable_eq_iff.mp ht) (hcount n)
  | skip => exact h.elim
  | data => exact h.elim

theorem givesUpAt_iff (hstep : .leaf line item ∈ (outlineOf lines).steps) :
    GivesUpAt disk base (HeaderLines.find lines) item ↔ ∃ failure,
      (Step.leaf line item).fault (plainShown disk base (HeaderLines.find lines)) =
        some failure := by
  cases item with
  | inclusion target =>
    have hfault (failure : Failure) :
        (Step.leaf line (.inclusion target)).fault
            (plainShown disk base (HeaderLines.find lines)) = some failure ↔
          plainShown disk base (HeaderLines.find lines) target = .error failure := by
      rw [Step.fault]
      cases plainShown disk base (HeaderLines.find lines) target with
      | error fault => simp
      | ok shown => simp
    simp only [hfault]
    constructor
    · rintro ⟨hf, hne, failure, hcount, hkind⟩
      have hopen : ¬((HeaderLines.find lines).isFragment || target.isEmpty) = true := by
        simp [hf, hne]
      rw [Script.outcome_countFile] at hcount
      refine ⟨failure, ?_⟩
      rw [plainShown, if_neg hopen, readable_eq_error_iff]
      refine ⟨hcount, ?_⟩
      rintro path opened fault rfl
      cases hkind
    · rintro ⟨failure, hshown⟩
      have hkind := (obstructs_of_plainShown hstep hshown).kind
      unfold plainShown at hshown
      split at hshown
      · cases hshown
      · rename_i hopen
        rw [Bool.or_eq_true, not_or, List.isEmpty_iff, Bool.not_eq_true] at hopen
        refine ⟨hopen.1, hopen.2, failure, ?_, hkind⟩
        rw [Script.outcome_countFile]
        exact (readable_eq_error_iff.mp hshown).1
  | bad misfit => cases misfit <;> simp [GivesUpAt, Step.fault]
  | skip => simp [GivesUpAt, Step.fault]
  | data => simp [GivesUpAt, Step.fault]

/-- **The gutter has a mark for every line, unless there is an obstacle.** If it has marks, they are
those of the lines in their order, and an error stands beside every line that cannot be dealt with;
without a usable header this is every line. It has none if and only if, below a usable header, there
is a line at which it gives up; and then the failure is that of an obstacle, which is in the text or
in a file to which the text leads. -/
theorem annotate_marks_unless_obstructed (disk : Disk) (text : Text) (base : Option Text)
    (earlier : List Call) :
    (∀ marks, outcome (Gutter.annotate disk text base (storeAfter disk earlier)) = .ok marks →
      marks.map Mark.number = List.range' 1 (Text.lines text).length ∧
        ((HeaderLines.find (Text.lines text)).isUsable = false →
          ∀ mark ∈ marks, mark.kind = .error) ∧
        ((HeaderLines.find (Text.lines text)).isUsable = true →
          ∀ line item, .leaf line item ∈ (outlineOf (Text.lines text)).steps →
            Spoils disk (baseOf disk base) (HeaderLines.find (Text.lines text)) item →
            ⟨line.number, .error, none⟩ ∈ marks)) ∧
      ((∃ failure,
          outcome (Gutter.annotate disk text base (storeAfter disk earlier)) = .error failure) ↔
        (HeaderLines.find (Text.lines text)).isUsable = true ∧
          ∃ line item, .leaf line item ∈ (outlineOf (Text.lines text)).steps ∧
            GivesUpAt disk (baseOf disk base) (HeaderLines.find (Text.lines text)) item) ∧
      ∀ failure,
        outcome (Gutter.annotate disk text base (storeAfter disk earlier)) = .error failure →
        Obstructs disk (baseOf disk base) (Text.lines text) failure := by
  rw [(gives_annotate text base _ (sound_storeAfter disk earlier)).1]
  refine ⟨fun marks h => ⟨numbers_of_plainMarks h, fun hu mark hmark => ?_,
    fun hu line item hstep hspoils => ?_⟩, ?_, fun failure h => obstructs_of_plainMarks h⟩
  · unfold plainMarks at h
    simp only [hu, Bool.false_eq_true, if_false] at h
    rw [← Except.ok.inj h] at hmark
    exact Script.kind_of_mem_uniform hmark
  · rw [plainMarks_eq_ok hu h]
    exact List.mem_append_right _ (mark_of_errs hstep (errs_of_spoils hspoils) 0)
  · simp only [plainMarks_eq_error_iff, exists_and_left]
    refine and_congr_right fun _ => ⟨fun ⟨failure, hf⟩ => ?_, fun ⟨line, item, hstep, hgives⟩ => ?_⟩
    · obtain ⟨step, hstep, hfault⟩ := List.exists_of_findSome?_eq_some hf
      match step with
      | .leaf line item => exact ⟨line, item, hstep, (givesUpAt_iff hstep).mpr ⟨failure, hfault⟩⟩
      | .enter line count => cases hfault
      | .leave count => cases hfault
    · obtain ⟨failure, hfault⟩ := (givesUpAt_iff hstep).mp hgives
      refine Option.ne_none_iff_exists'.mp fun hnone => ?_
      rw [List.findSome?_eq_none_iff.mp hnone _ hstep] at hfault
      cases hfault

/-! A text that repeats nothing, but so often that the count passes the limit. -/

/-- A line that opens a repetition with a count of `n` ones. -/
def longLine (n : Nat) : Text :=
  "REPEAT ".toList ++ List.replicate n '1'

/-- The text. -/
def longText (n : Nat) : Text :=
  "!FORMAT: <KA>".toList ++ '\n' :: longLine n

theorem readNat_ones {n : Nat} (h : Numeral.digitLimit < n) :
    Numeral.readNat (List.replicate n '1') = .tooLong n := by
  have hdigits (k : Nat) :
      (List.replicate k '1').mapM Text.digit? = some (List.replicate k 1) := by
    have hone : Text.digit? '1' = some 1 := by decide
    induction k with
    | zero => rfl
    | succ k ih => simp [List.replicate_succ, List.mapM_cons, hone, ih]
  have hne : (List.replicate n 1).isEmpty = false := by
    simp only [List.isEmpty_replicate, decide_eq_false_iff_not]
    omega
  rw [Numeral.readNat, hdigits]
  simp only [Numeral.ofDigitList, hne, List.length_replicate, if_pos h, Bool.false_eq_true,
    if_false]

theorem trimmed_ones (n : Nat) : Text.Trimmed (List.replicate n '1') := by
  have hone : Text.isBlank '1' = false := by decide
  refine ⟨fun c hc => ?_, fun c hc => ?_⟩
  · rwa [List.eq_of_mem_replicate (List.mem_of_mem_head? hc)]
  · rwa [List.eq_of_mem_replicate (List.mem_of_mem_getLast? hc)]

theorem mem_longLine {n : Nat} {c : Char} (h : c ∈ longLine n) :
    c ∈ "REPEAT ".toList ∨ c = '1' :=
  (List.mem_append.mp h).imp_right List.eq_of_mem_replicate

theorem measure_longLine {n : Nat} (h : 0 < n) :
    Line.measure 2 (longLine n) = ⟨2, 0, longLine n⟩ := by
  have htab : '\t' ∉ longLine n := by
    intro hm
    rcases mem_longLine hm with hm | hm
    · exact absurd hm (by decide +kernel)
    · exact absurd hm (by decide)
  have hones : List.replicate n '1' ≠ [] := by
    rw [Ne, List.replicate_eq_nil_iff]
    omega
  have hfirst : (longLine n).head? = some 'R' := rfl
  have hlast : (longLine n).getLast? = (List.replicate n '1').getLast? :=
    List.getLast?_append_of_ne_nil _ hones
  have htrim : Text.Trimmed (longLine n) := by
    refine ⟨fun c hc => ?_, hlast ▸ (trimmed_ones n).last⟩
    rw [hfirst] at hc
    rw [← Option.some.inj hc]
    decide
  rw [Line.measure_of_trimmed 2 htrim, Line.expandTabs_eq_self htab]

theorem lines_longText (n : Nat) :
    Text.lines (longText n) = ["!FORMAT: <KA>".toList, longLine n] := by
  have hheader : ∀ c ∈ "!FORMAT: <KA>".toList, Text.isBreak c = false :=
    Text.unbroken_of_any (by decide)
  have hstart : ∀ c ∈ "REPEAT ".toList, Text.isBreak c = false :=
    Text.unbroken_of_any (by decide)
  have hone : Text.isBreak '1' = false := by decide
  have hne : longLine n ≠ [] := List.append_ne_nil_of_left_ne_nil (by decide) _
  have hline : Text.lines (longLine n) = [longLine n] := by
    refine Text.lines_of_unbroken hne fun c hc => ?_
    rcases mem_longLine hc with hc | rfl
    · exact hstart c hc
    · exact hone
  have hlines := Text.lines_append_break hheader (longLine n)
  rw [hline] at hlines
  exact hlines

theorem opening_longLine {n : Nat} (h : Numeral.digitLimit < n) :
    opening 0 (Line.measure 2 (longLine n)) = .nothing (.bad (.longCount n)) := by
  have hread : Directive.read (longLine n) = .repetition (List.replicate n '1') := by
    have hinclude : Text.after? Directive.includeMark (longLine n) = none := rfl
    have hrepeat : Text.after? Directive.repeatMark (longLine n) = some (List.replicate n '1') :=
      Text.after?_eq_some_iff.mpr rfl
    have htrim : Text.trim (List.replicate n '1') = List.replicate n '1' := by
      rw [Text.trim, (Text.trimLeft_eq_self (trimmed_ones n).head).2]
      exact Text.trimRight_eq_self_iff.mpr (trimmed_ones n).last
    simp only [Directive.read, hinclude, hrepeat, htrim]
  have hskip : (⟨2, 0, longLine n⟩ : Line).isSkipped = false := rfl
  have hlevel : (⟨2, 0, longLine n⟩ : Line).level? = some 0 := by simp [Line.level?]
  rw [measure_longLine (Nat.zero_lt_of_lt h), opening, hskip, if_neg Bool.false_ne_true,
    if_pos hlevel, hread]
  simp only [readNat_ones h]

/-- **A count of too many digits ends the gutter.** -/
theorem outcome_annotate_longText {n : Nat} (h : Numeral.digitLimit < n) (disk : Disk)
    (base : Option Text) :
    outcome (Gutter.annotate disk (longText n) base .empty) = .error (.longNumeral n) := by
  have hbody : bodyOf (Text.lines (longText n)) = [Line.measure 2 (longLine n)] := by
    rw [lines_longText]
    rfl
  have houtline : outlineOf (Text.lines (longText n)) =
      leaf (Line.measure 2 (longLine n)) (.bad (.longCount n)) nil := by
    change build 0 (bodyOf (Text.lines (longText n))) = _
    rw [hbody, build_cons, opening_longLine h, build]
  rw [(gives_annotate _ base .empty (sound_empty _)).1]
  refine plainMarks_eq_error_iff.mpr ⟨?_, ?_⟩
  · rw [lines_longText]
    rfl
  · rw [houtline]
    rfl

/-- The gutter has no mark for either of two lines, the second of which cannot be dealt with. -/
theorem annotate_longText_fails :
    (Text.lines (longText 4301)).length = 2 ∧
      outcome (Gutter.annotate Script.nestedDisk (longText 4301) none .empty) =
        .error (.longNumeral 4301) :=
  ⟨by rw [lines_longText]; rfl, outcome_annotate_longText (by decide) Script.nestedDisk none⟩

end Count

end FrameScript
