import FrameScript.Proofs.Count.Isolation
import FrameScript.Proofs.Outline.Grammar
import Mathlib.Data.List.TakeWhile

/-!
# Lines that say nothing

Blank lines and comments are met by three readers that pass over them in ways of their own: two look
ahead for the next line that says something, and the third goes down the lines with the repetitions
that are open. To none of them does such a line make a difference, wherever it stands. Whoever looks
at the lines one by one, with a `Cursor`, is not even shown it.

Two outlines are compared by their `core`, which has neither lines that say nothing nor numbers of
lines. It is the outline of the lines that say something (`core_build`), and all that counting a
body depends on.

## Results

* `Line.isSkipped_measure`: which lines say nothing, told by the text of the line.
* `core_build`: **the core of an outline is the outline of the lines that say something.**
* `yields_of_wordings`, `counted_of_wordings`, `fault_of_wordings`: what a body yields, its count,
  and where marking it fails depend on these lines only.
* `Cursor.gives_said`: **a cursor gives the lines that say something**, and no others.
* `Cursor.yields_of_gives`: what a script yields can be told from them.
* `passAll_kept`: **the marks of the other lines stay** when lines are put in that say nothing.
-/

namespace FrameScript

namespace Line

/-! ## Which lines say nothing -/

/-- A blank line, or a comment after any margin. -/
def isSilent (raw : Text) : Bool :=
  match Text.trimLeft raw with
  | [] => true
  | c :: _ => c == '#'

/-- Tabs are blanks before they are expanded and after. -/
theorem trimLeft_expandTabs (raw : Text) :
    Text.trimLeft (expandTabs raw) = expandTabs (Text.trimLeft raw) := by
  induction raw with
  | nil => rfl
  | cons c raw ih =>
    by_cases htab : c = '\t'
    · subst htab
      exact ih
    · have hexpand : expandTabs (c :: raw) = c :: expandTabs raw := by
        rw [expandTabs, List.flatMap_cons, if_neg htab]
        rfl
      cases hc : Text.isBlank c with
      | true =>
        rw [hexpand, Text.trimLeft, List.dropWhile_cons_of_pos hc, Text.trimLeft,
          List.dropWhile_cons_of_pos hc]
        exact ih
      | false =>
        have hnot := Bool.eq_false_iff.mp hc
        rw [Text.trimLeft, hexpand, List.dropWhile_cons_of_neg hnot, Text.trimLeft,
          List.dropWhile_cons_of_neg hnot, hexpand]

/-- **A line says nothing if it is blank or a comment**, whatever its margin is. -/
theorem isSkipped_measure (number : Nat) (raw : Text) :
    (measure number raw).isSkipped = isSilent raw := by
  have hcontent : (measure number raw).content =
      Text.trimRight (expandTabs (Text.trimLeft raw)) := by
    rw [← trimLeft_expandTabs]
    rfl
  unfold isSkipped isSilent
  rw [hcontent]
  cases htrim : Text.trimLeft raw with
  | nil => rfl
  | cons c rest =>
    have hblank : Text.isBlank c = false := Text.blank_of_trimLeft htrim
    have htab : c ≠ '\t' := by
      rintro rfl
      cases hblank
    have hexpand : expandTabs (c :: rest) = c :: expandTabs rest := by
      rw [expandTabs, List.flatMap_cons, if_neg htab]
      rfl
    rw [hexpand, Text.trimRight_cons, if_neg (Bool.eq_false_iff.mp hblank)]
    by_cases htail : Text.trimRight (expandTabs rest) = []
    · rw [if_pos htail]
    · rw [if_neg htail]

/-- The line without its number. -/
def anonymous (line : Line) : Line :=
  { line with number := 0 }

/-- The lines that say something, without their numbers. -/
def said (lines : List Line) : List Line :=
  (wordings lines).map fun wording => ⟨0, wording.1, wording.2⟩

variable {line : Line} {rest : List Line} {level : Nat}

theorem wordings_cons_of_skipped (h : line.isSkipped = true) :
    wordings (line :: rest) = wordings rest := by
  have hnot : ¬line.isSaid = true := by simp [isSaid, h]
  rw [wordings, List.filter_cons_of_neg hnot, wordings]

theorem wordings_cons_of_said (h : line.isSkipped = false) :
    wordings (line :: rest) = line.wording :: wordings rest := by
  rw [wordings, List.filter_cons_of_pos (Outline.isSaid_of_said h), List.map_cons, wordings]

theorem said_cons_of_skipped (h : line.isSkipped = true) : said (line :: rest) = said rest := by
  rw [said, wordings_cons_of_skipped h, said]

theorem said_cons_of_said (h : line.isSkipped = false) :
    said (line :: rest) = line.anonymous :: said rest := by
  rw [said, wordings_cons_of_said h, List.map_cons, said]
  rfl

/-- Lines that say nothing belong to every body, so that leaving them out moves no end of a body. -/
theorem said_span (level : Nat) (lines : List Line) :
    (said lines).takeWhile (Outline.isInside level) =
        said (lines.takeWhile (Outline.isInside level)) ∧
      (said lines).dropWhile (Outline.isInside level) =
        said (lines.dropWhile (Outline.isInside level)) := by
  induction lines with
  | nil => exact ⟨rfl, rfl⟩
  | cons line rest ih =>
    obtain ⟨htake, hdrop⟩ := ih
    cases hs : line.isSkipped with
    | true =>
      have hin : Outline.isInside level line = true := by simp [Outline.isInside, hs]
      rw [List.takeWhile_cons_of_pos hin, List.dropWhile_cons_of_pos hin, said_cons_of_skipped hs,
        said_cons_of_skipped hs]
      exact ⟨htake, hdrop⟩
    | false =>
      have hsame : Outline.isInside level line.anonymous = Outline.isInside level line := rfl
      rw [said_cons_of_said hs]
      cases hin : Outline.isInside level line with
      | true =>
        rw [hin] at hsame
        rw [List.takeWhile_cons_of_pos hin, List.dropWhile_cons_of_pos hin,
          List.takeWhile_cons_of_pos hsame, List.dropWhile_cons_of_pos hsame, said_cons_of_said hs,
          htake, hdrop]
        exact ⟨rfl, rfl⟩
      | false =>
        have hnot := Bool.eq_false_iff.mp hin
        rw [List.takeWhile_cons_of_neg hnot, List.dropWhile_cons_of_neg hnot,
          List.takeWhile_cons_of_neg (hsame ▸ hnot), List.dropWhile_cons_of_neg (hsame ▸ hnot),
          said_cons_of_said hs]
        exact ⟨rfl, rfl⟩

end Line

namespace Outline

open Line

/-! ## Cores -/

/-- The outline without lines that say nothing and without numbers of lines. -/
def core : Outline → Outline
  | nil => nil
  | leaf line item next =>
    match item with
    | .skip => core next
    | item => leaf line.anonymous item (core next)
  | loop line count body next => loop line.anonymous count (core body) (core next)

variable {level : Nat} {lines others : List Line} {o : Outline}

theorem core_leaf {line : Line} {item : Item} {next : Outline} (h : item ≠ .skip) :
    (leaf line item next).core = leaf line.anonymous item next.core := by
  cases item with
  | skip => exact absurd rfl h
  | data | inclusion target | bad misfit => rfl

/-- A line that opens nothing is passed over just if it says nothing. -/
theorem skipped_iff_of_opening {line : Line} {item : Item}
    (h : opening level line = .nothing item) : line.isSkipped = true ↔ item = .skip := by
  have hspec := of_opening level line
  cases hs : line.isSkipped with
  | true =>
    rw [opening_of_skipped hs] at h
    cases h
    exact iff_of_true rfl rfl
  | false =>
    refine iff_of_false Bool.false_ne_true ?_
    rintro rfl
    rw [h] at hspec
    exact Bool.eq_false_iff.mp hs hspec

/-- **The core of an outline is the outline of the lines that say something.** -/
theorem core_build (level : Nat) (lines : List Line) :
    (build level lines).core = build level (said lines) := by
  induction level, lines using body_induction with
  | nil level =>
    show (build level []).core = build level []
    rw [build]
    rfl
  | nothing level line rest item ho ih =>
    have hsame : opening level line.anonymous = opening level line := rfl
    rw [build_cons, ho]
    cases hs : line.isSkipped with
    | true =>
      obtain rfl := (skipped_iff_of_opening ho).mp hs
      rw [said_cons_of_skipped hs]
      exact ih
    | false =>
      rw [said_cons_of_said hs, build_cons, hsame, ho, ← ih]
      exact core_leaf fun he => Bool.eq_false_iff.mp hs ((skipped_iff_of_opening ho).mpr he)
  | repetition level line rest count ho ihb ihn =>
    have hsame : opening level line.anonymous = opening level line := rfl
    have hs : line.isSkipped = false := by
      rw [← Bool.not_eq_true]
      intro hs
      rw [opening_of_skipped hs] at ho
      cases ho
    obtain ⟨htake, hdrop⟩ := said_span level rest
    rw [build_cons, ho, said_cons_of_said hs, build_cons, hsame, ho]
    dsimp only
    rw [htake, hdrop, ← ihb, ← ihn, core]

theorem stop_leaf (count : Text → Except Failure (Option Nat)) (line other : Line) (item : Item) :
    (Step.leaf line item).stop count = (Step.leaf other item).stop count := by
  match item with
  | .skip | .data | .inclusion _ => rfl
  | .bad .stray | .bad (.badCount _) | .bad (.longCount _) => rfl

theorem fault_leaf (count : Text → Except Failure (Option Nat)) (line other : Line) (item : Item) :
    (Step.leaf line item).fault count = (Step.leaf other item).fault count := by
  match item with
  | .skip | .data | .inclusion _ => rfl
  | .bad .stray | .bad (.badCount _) | .bad (.longCount _) => rfl

/-- The core of an outline has the same count. -/
theorem counted_core (count : Text → Except Failure (Option Nat)) (o : Outline) :
    o.core.counted count = o.counted count := by
  induction o with
  | nil => rfl
  | leaf line item next ih =>
    by_cases hitem : item = .skip
    · subst hitem
      rw [counted_skip]
      exact ih
    · rw [core_leaf hitem]
      have hstop := stop_leaf count line.anonymous line item
      cases hs : (Step.leaf line item).stop count with
      | some outcome => rw [counted_leaf_of_some hs, counted_leaf_of_some (hstop.trans hs)]
      | none => rw [counted_leaf_of_none hs, counted_leaf_of_none (hstop.trans hs), ih]
  | loop line n body next ihb ihn => rw [core, counted_loop, counted_loop, ihb, ihn]

/-- Marking the core of an outline fails as marking the outline does. -/
theorem fault_core (count : Text → Except Failure (Option Nat)) (o : Outline) :
    o.core.steps.findSome? (Step.fault count) = o.steps.findSome? (Step.fault count) := by
  induction o with
  | nil => rfl
  | leaf line item next ih =>
    by_cases hitem : item = .skip
    · subst hitem
      exact ih
    · rw [core_leaf hitem, steps, steps, List.findSome?_cons, List.findSome?_cons, ih,
        fault_leaf count line.anonymous line item]
  | loop line n body next ihb ihn =>
    simp only [core, steps, List.findSome?_cons, List.findSome?_append, ihb, ihn]
    rfl

theorem core_of_wordings (h : wordings lines = wordings others) :
    (build level lines).core = (build level others).core := by
  rw [core_build, core_build, said, said, h]

/-! ## Bodies with the same wording -/

/-- **What a body yields depends on the lines that say something only.** -/
theorem yields_of_wordings {α : Type} {r : Reader α} {v : List α}
    (h : wordings lines = wordings others) (hy : Yields r level others v) :
    Yields r level lines v :=
  .of_filter (hy.filter.congr h)

/-- **The count of a body depends on the lines that say something only.** -/
theorem counted_of_wordings (count : Text → Except Failure (Option Nat))
    (h : wordings lines = wordings others) :
    (build level lines).counted count = (build level others).counted count := by
  rw [← counted_core, core_of_wordings h, counted_core]

/-- **Where marking a body fails depends on the lines that say something only.** -/
theorem fault_of_wordings (count : Text → Except Failure (Option Nat))
    (h : wordings lines = wordings others) :
    (build level lines).steps.findSome? (Step.fault count) =
      (build level others).steps.findSome? (Step.fault count) := by
  rw [← fault_core, core_of_wordings h, fault_core]

end Outline

/-! ## A cursor on the lines -/

/-- Numbers that begin one later are all one later. -/
theorem Line.measureFrom_succ (first : Nat) (raws : List Text) :
    Line.measureFrom (first + 1) raws =
      (Line.measureFrom first raws).map fun line => { line with number := line.number + 1 } := by
  induction raws generalizing first with
  | nil => rfl
  | cons raw rest ih =>
    rw [Line.measureFrom, Line.measureFrom, List.map_cons, ih (first + 1)]
    rfl

namespace Cursor

/-- Whoever advances the cursor again and again is given these lines, with the numbers that are told
of them, and then there are no more. Nowhere on the way is the cursor astray. -/
inductive Gives : Cursor → List Line → Prop
  | done {cursor : Cursor} (ha : cursor.isAstray = false) (h : cursor.advance? = none) :
      Gives cursor []
  | next {cursor cursor' : Cursor} {line : Line} {number : Nat} {given : List Line}
      (ha : cursor.isAstray = false) (h : cursor.advance? = some (line, (number : Int), cursor'))
      (hr : Gives cursor' given) : Gives cursor ({ line with number } :: given)

variable {cursor : Cursor} {given given' : List Line} {lines rest : List Text} {raw : Text}
  {n : Nat}

theorem Gives.unique (h : Gives cursor given) (h' : Gives cursor given') : given = given' := by
  induction h generalizing given' with
  | done _ hnone =>
    cases h' with
    | done => rfl
    | next _ hsome => rw [hnone] at hsome; cases hsome
  | next _ hsome _ ih =>
    cases h' with
    | done _ hnone => rw [hsome] at hnone; cases hnone
    | next _ hsome' hr =>
      rw [hsome] at hsome'
      obtain ⟨rfl, hrest⟩ := Prod.mk.inj (Option.some.inj hsome')
      obtain ⟨hnumber, rfl⟩ := Prod.mk.inj hrest
      rw [ih hr, Int.ofNat_inj.mp hnumber]

/-- A place that is counted from the beginning is not astray. -/
theorem isAstray_natCast (lines : List Text) (n : Nat) : (⟨lines, n⟩ : Cursor).isAstray = false :=
  decide_eq_false (by show ¬(n : Int) < -(lines.length : Int); omega)

/-- A line that says nothing is passed over: the cursor before it advances as the one after it. -/
theorem advance?_of_silent (h : lines.drop n = raw :: rest) (hs : Line.isSilent raw = true) :
    (⟨lines, n⟩ : Cursor).advance? = (⟨lines, (n + 1 : Nat)⟩ : Cursor).advance?.map
      fun (line, number, cursor) => ({ line with number := line.number + 1 }, number, cursor) := by
  have hahead : (⟨lines, n⟩ : Cursor).ahead = raw :: rest := h
  have hafter : (⟨lines, (n + 1 : Nat)⟩ : Cursor).ahead = rest := by
    show lines.drop (n + 1) = rest
    rw [List.drop_add_one_eq_tail_drop, h, List.tail_cons]
  have hfind : (Line.measureFrom 1 (raw :: rest)).find? (!·.isSkipped) =
      ((Line.measureFrom 1 rest).find? (!·.isSkipped)).map
        fun line => { line with number := line.number + 1 } := by
    rw [Line.measureFrom, List.find?_cons_of_neg (by simp [Line.isSkipped_measure, hs]),
      Line.measureFrom_succ, List.find?_map]
    rfl
  simp only [advance?, peek?, hahead, hafter, hfind, Option.map_map]
  congr 1
  funext line
  have hnumber : (n : Int) + (line.number + 1 : Nat) = (n + 1 : Nat) + line.number := by omega
  simp only [Function.comp_apply, hnumber]

/-- A line that says something is given next. -/
theorem advance?_of_said (h : lines.drop n = raw :: rest) (hs : Line.isSilent raw = false) :
    (⟨lines, n⟩ : Cursor).advance? =
      some (Line.measure 1 raw, ((n + 1 : Nat) : Int), ⟨lines, (n + 1 : Nat)⟩) := by
  have hahead : (⟨lines, n⟩ : Cursor).ahead = raw :: rest := h
  simp only [advance?, peek?, hahead, Line.measureFrom]
  rw [List.find?_cons_of_pos (by simp [Line.isSkipped_measure, hs])]
  rfl

theorem Gives.of_silent (hg : Gives ⟨lines, (n + 1 : Nat)⟩ given) (h : lines.drop n = raw :: rest)
    (hs : Line.isSilent raw = true) : Gives ⟨lines, n⟩ given := by
  have hadvance := advance?_of_silent h hs
  cases hg with
  | done _ hnone =>
    rw [hnone] at hadvance
    exact .done (isAstray_natCast lines n) hadvance
  | @next _ cursor line number _ _ hsome hr =>
    have hgiven : (⟨lines, n⟩ : Cursor).advance? =
        some ({ line with number := line.number + 1 }, (number : Int), cursor) := by
      rw [hadvance, hsome]
      rfl
    exact @Gives.next _ _ { line with number := line.number + 1 } _ _ (isAstray_natCast lines n)
      hgiven hr

/-- **A cursor gives the lines that say something**, from its place on and with their numbers. -/
theorem gives_said (lines : List Text) (n : Nat) :
    Gives ⟨lines, n⟩ ((Line.measureFrom (n + 1) (lines.drop n)).filter Line.isSaid) := by
  generalize hraws : lines.drop n = raws
  induction raws generalizing n with
  | nil =>
    refine .done (isAstray_natCast lines n) ?_
    have hahead : (⟨lines, n⟩ : Cursor).ahead = [] := hraws
    rw [advance?, peek?, hahead]
    rfl
  | cons raw rest ih =>
    have hrest : lines.drop (n + 1) = rest := by
      rw [List.drop_add_one_eq_tail_drop, hraws, List.tail_cons]
    rw [Line.measureFrom]
    cases hs : Line.isSilent raw with
    | true =>
      rw [List.filter_cons_of_neg (by simp [Line.isSaid, Line.isSkipped_measure, hs])]
      exact (ih (n + 1) hrest).of_silent hraws hs
    | false =>
      rw [List.filter_cons_of_pos (by simp [Line.isSaid, Line.isSkipped_measure, hs])]
      exact .next (isAstray_natCast lines n) (advance?_of_said hraws hs) (ih (n + 1) hrest)

/-- **What a script yields can be told from what a cursor gives** that begins after the header:
these are the lines that the readers of the body go by. -/
theorem yields_of_gives {α : Type} {r : Outline.Reader α} {v : List α}
    (h : Gives ⟨lines, (HeaderLines.find lines).bodyStart⟩ given) :
    Outline.Yields r 0 given v ↔ Outline.Yields r 0 (bodyOf lines) v := by
  obtain rfl := h.unique (gives_said lines _)
  exact ⟨.of_filter, .filter⟩

end Cursor

/-! ## Lines that are put in -/

/-- A line of a text, and whether it has been put in. -/
structure Filled where
  raw : Text
  added : Bool
  deriving DecidableEq

namespace Filled

variable {α : Type}

/-- Of a list with an element for every line, those of the lines that have not been put in. -/
def kept : List Filled → List α → List α
  | e :: filled, a :: rest => if e.added then kept filled rest else a :: kept filled rest
  | _, _ => []

/-- The lines with those that have been put in. -/
def after (filled : List Filled) : List Text :=
  filled.map raw

/-- The lines without those that have been put in. -/
def before (filled : List Filled) : List Text :=
  kept filled (after filled)

variable {e : Filled} {filled : List Filled} {a : α} {l : List α}

theorem kept_cons_of_added (h : e.added = true) : kept (e :: filled) (a :: l) = kept filled l :=
  if_pos h

theorem kept_cons_of_old (h : e.added = false) :
    kept (e :: filled) (a :: l) = a :: kept filled l :=
  if_neg (Bool.eq_false_iff.mp h)

/-- Nothing has been put in before the body. -/
theorem kept_append {front back : List Filled} {first : List α}
    (h : ∀ e ∈ front, e.added = false) (hl : first.length = front.length) :
    kept (front ++ back) (first ++ l) = first ++ kept back l := by
  induction front generalizing first with
  | nil =>
    rw [List.length_eq_zero_iff.mp hl]
    rfl
  | cons e front ih =>
    obtain ⟨he, hfront⟩ := List.forall_mem_cons.mp h
    cases first with
    | nil => cases hl
    | cons a first =>
      rw [List.cons_append, List.cons_append, kept_cons_of_old he,
        ih hfront (Nat.succ.inj hl), List.cons_append]

theorem after_append (front back : List Filled) :
    after (front ++ back) = after front ++ after back :=
  List.map_append

theorem length_after (filled : List Filled) : (after filled).length = filled.length :=
  List.length_map _

theorem before_append {front back : List Filled} (h : ∀ e ∈ front, e.added = false) :
    before (front ++ back) = after front ++ before back := by
  rw [before, after_append]
  exact kept_append h (length_after front)

theorem before_cons_of_added (h : e.added = true) : before (e :: filled) = before filled :=
  kept_cons_of_added h

theorem before_cons_of_old (h : e.added = false) :
    before (e :: filled) = e.raw :: before filled :=
  kept_cons_of_old h

theorem after_cons (e : Filled) (filled : List Filled) :
    after (e :: filled) = e.raw :: after filled :=
  List.map_cons

theorem mem_before (hm : e ∈ filled) (h : e.added = false) : e.raw ∈ before filled := by
  induction filled with
  | nil => exact absurd hm List.not_mem_nil
  | cons first filled ih =>
    rcases List.mem_cons.mp hm with rfl | hm
    · rw [before_cons_of_old h]
      exact List.mem_cons_self
    · cases hadded : first.added with
      | true =>
        rw [before_cons_of_added hadded]
        exact ih hm
      | false =>
        rw [before_cons_of_old hadded]
        exact List.mem_cons_of_mem _ (ih hm)

theorem length_before_le (filled : List Filled) : (before filled).length ≤ filled.length := by
  induction filled with
  | nil => exact Nat.le_refl 0
  | cons e filled ih =>
    cases hadded : e.added with
    | true =>
      rw [before_cons_of_added hadded]
      exact Nat.le_succ_of_le ih
    | false =>
      rw [before_cons_of_old hadded]
      exact Nat.succ_le_succ ih

/-- Lines that have been put in and say nothing leave the wordings as they are. -/
theorem wordings_before (h : ∀ e ∈ filled, e.added = true → Line.isSilent e.raw = true)
    (m n : Nat) :
    Line.wordings (Line.measureFrom m (after filled)) =
      Line.wordings (Line.measureFrom n (before filled)) := by
  induction filled generalizing m n with
  | nil => rfl
  | cons e filled ih =>
    obtain ⟨he, hrest⟩ := List.forall_mem_cons.mp h
    have hskipped := Line.isSkipped_measure m e.raw
    rw [after_cons, Line.measureFrom]
    cases hadded : e.added with
    | true =>
      rw [he hadded] at hskipped
      rw [before_cons_of_added hadded, Line.wordings_cons_of_skipped hskipped]
      exact ih hrest (m + 1) n
    | false =>
      rw [before_cons_of_old hadded, Line.measureFrom]
      cases hsilent : Line.isSilent e.raw with
      | true =>
        have hsame := (Line.isSkipped_measure n e.raw).trans hsilent
        rw [hsilent] at hskipped
        rw [Line.wordings_cons_of_skipped hskipped, Line.wordings_cons_of_skipped hsame]
        exact ih hrest (m + 1) (n + 1)
      | false =>
        have hsame := (Line.isSkipped_measure n e.raw).trans hsilent
        rw [hsilent] at hskipped
        rw [Line.wordings_cons_of_said hskipped, Line.wordings_cons_of_said hsame,
          ih hrest (m + 1) (n + 1)]
        rfl

end Filled

/-- What a mark says, apart from the number of its line. -/
def Mark.reading (mark : Mark) : Mark.Kind × Option Nat :=
  (mark.kind, mark.value)

namespace Outline

open Filled

variable {size : Text → Option Nat} {s : Standing} {filled : List Filled}

theorem reading_ofItem (size : Text → Option Nat) (position n : Nat) (line : Line) (item : Item) :
    (Mark.ofItem size position { line with number := n } item).reading =
      (Mark.ofItem size position line item).reading := by
  cases item with
  | skip | data | bad misfit => rfl
  | inclusion target =>
    rw [Mark.ofItem, Mark.ofItem]
    cases size target <;> rfl

theorem enter_renumbered (size : Text → Option Nat) (s : Standing) (level n : Nat) (line : Line) :
    (enter size s level { line with number := n }).1.reading =
        (enter size s level line).1.reading ∧
      (enter size s level { line with number := n }).2 = (enter size s level line).2 := by
  have hsame : opening level { line with number := n } = opening level line := rfl
  unfold enter
  rw [hsame]
  cases opening level line with
  | nothing item => exact ⟨reading_ofItem size s.position n line item, rfl⟩
  | repetition count => exact ⟨rfl, rfl⟩

/-- The number of a line does not matter to what its mark says, or to where it leaves the reader. -/
theorem pass_renumbered (size : Text → Option Nat) (s : Standing) (n : Nat) (line : Line) :
    (pass size s { line with number := n }).1.reading = (pass size s line).1.reading ∧
      (pass size s { line with number := n }).2 = (pass size s line).2 := by
  have hskip : ({ line with number := n } : Line).isSkipped = line.isSkipped := rfl
  have hlevel : ({ line with number := n } : Line).level? = line.level? := rfl
  unfold pass
  rw [hskip, hlevel]
  split
  · exact ⟨rfl, rfl⟩
  · split
    · exact ⟨rfl, rfl⟩
    · split
      · exact ⟨rfl, rfl⟩
      · exact enter_renumbered size _ _ n line

/-- **The marks of the other lines stay** when lines are put in that say nothing. -/
theorem passAll_kept (h : ∀ e ∈ filled, e.added = true → Line.isSilent e.raw = true) (m n : Nat) :
    (kept filled (passAll size s (Line.measureFrom m (after filled))).1).map Mark.reading =
      (passAll size s (Line.measureFrom n (before filled))).1.map Mark.reading := by
  induction filled generalizing s m n with
  | nil => rfl
  | cons e filled ih =>
    obtain ⟨he, hrest⟩ := List.forall_mem_cons.mp h
    rw [after_cons, Line.measureFrom, passAll]
    cases hadded : e.added with
    | true =>
      have hs : (Line.measure m e.raw).isSkipped = true :=
        (Line.isSkipped_measure m e.raw).trans (he hadded)
      rw [kept_cons_of_added hadded, before_cons_of_added hadded, pass_of_skipped hs]
      exact ih hrest (m + 1) n
    | false =>
      have hline : { Line.measure n e.raw with number := m } = Line.measure m e.raw := rfl
      obtain ⟨hreading, hstanding⟩ := pass_renumbered size s m (Line.measure n e.raw)
      rw [hline] at hreading hstanding
      rw [kept_cons_of_old hadded, before_cons_of_old hadded, List.map_cons, Line.measureFrom,
        passAll, List.map_cons, hreading, hstanding, ih hrest (m + 1) (n + 1)]

end Outline

end FrameScript
