import FrameScript.Proofs.Annotation
import FrameScript.Proofs.Outline.Errors

/-!
# The gutter and the count

Counting a text ends at the first line that it cannot count. The gutter goes on after such a line,
counts each included script in a call of its own, and passes over one that cannot be read. Nothing
of this lets it miss an error or find one too many: it shows no error if and only if the text has a
count, and has then gone past that many frames after the last line, which shows beside a line of
data that is added to the text.

## Results

* `plainShown_eq_iff`: the gutter and the count know of the same numbers of included scripts.
* `find_of_take`: a usable header depends on the lines before the body only, so that a line that is
  added at the end changes nothing about it (`find_concat`).
* `plainMarks_without_error_iff`, `plainMarks_concat`: the two statements without a store.
* `annotate_without_error_iff`: **a text is annotated without an error if and only if it has a
  count**, and a line of data after it is numbered by the count and one more.
-/

namespace FrameScript

theorem Line.measureFrom_append (first : Nat) (raws more : List Text) :
    measureFrom first (raws ++ more) =
      measureFrom first raws ++ measureFrom (first + raws.length) more := by
  induction raws generalizing first with
  | nil => rfl
  | cons raw rest ih =>
    rw [List.cons_append, measureFrom, ih, measureFrom, List.length_cons, List.cons_append,
      Nat.add_assoc, Nat.add_comm 1]

namespace HeaderLines

variable {lines : List Text}

theorem declared?_take (mark : Text) (lines : List Text) {n : Nat} (h : 0 < n) :
    declared? mark (lines.take n) = declared? mark lines := by
  obtain ⟨n, rfl⟩ := Nat.exists_eq_succ_of_ne_zero (Nat.ne_of_gt h)
  cases lines <;> rfl

/-- The format of a usable header is in one of the lines, and the body begins after it. -/
theorem exists_formatIndex (h : (find lines).isUsable = true) :
    ∃ index, (if (declared? kindMark lines).isSome then 1 else 0) = index ∧
      index < lines.length ∧ (find lines).bodyStart = index + 1 := by
  refine ⟨_, rfl, ?_⟩
  rw [isUsable, Bool.and_eq_true] at h
  have hformat : (declared? formatMark
      (lines.drop (if (declared? kindMark lines).isSome then 1 else 0))).isSome = true := h.1
  refine ⟨Nat.lt_of_not_le fun hle => ?_, if_pos hformat⟩
  rw [List.drop_eq_nil_of_le hle] at hformat
  cases hformat

/-- **A usable header depends on the lines before the body only.** -/
theorem find_of_take (h : (find lines).isUsable = true) {more : List Text}
    (htake : more.take (find lines).bodyStart = lines.take (find lines).bodyStart) :
    find more = find lines := by
  obtain ⟨index, hindex, -, hstart⟩ := exists_formatIndex h
  rw [hstart] at htake
  have hkind : declared? kindMark more = declared? kindMark lines := by
    rw [← declared?_take kindMark more (Nat.succ_pos index), htake,
      declared?_take kindMark lines (Nat.succ_pos index)]
  have hformat : declared? formatMark (more.drop index) =
      declared? formatMark (lines.drop index) := by
    have hdrop : (more.drop index).take 1 = (lines.drop index).take 1 := by
      rw [List.take_drop, List.take_drop, htake]
    rw [← declared?_take formatMark (more.drop index) Nat.one_pos, hdrop,
      declared?_take formatMark (lines.drop index) Nat.one_pos]
  unfold find
  simp only [hkind, hindex, hformat]

/-- The body of a usable script begins after one of its lines. -/
theorem bodyStart_le (h : (find lines).isUsable = true) :
    (find lines).bodyStart ≤ lines.length := by
  obtain ⟨index, -, hlt, hstart⟩ := exists_formatIndex h
  omega

/-- **A line that is added at the end changes nothing about a usable header.** -/
theorem find_concat (h : (find lines).isUsable = true) (raw : Text) :
    find (lines ++ [raw]) = find lines :=
  find_of_take h (List.take_append_of_le_length (bodyStart_le h))

end HeaderLines

/-- A line that is added at the end comes last in the body. -/
theorem bodyOf_concat {lines : List Text} (h : (HeaderLines.find lines).isUsable = true)
    (raw : Text) :
    bodyOf (lines ++ [raw]) = bodyOf lines ++ [Line.measure (lines.length + 1) raw] := by
  obtain ⟨index, -, hlt, hstart⟩ := HeaderLines.exists_formatIndex h
  have hnumber : index + 1 + 1 + (lines.length - (index + 1)) = lines.length + 1 := by omega
  rw [bodyOf, HeaderLines.find_concat h, bodyOf, hstart, List.drop_append_of_le_length hlt,
    Line.measureFrom_append, List.length_drop, hnumber]
  rfl

namespace Count

open Outline Reading

variable {disk : Disk} {base : Location} {found : HeaderLines} {target : Text}
  {lines : List Text}

/-! ## Numbers of included scripts -/

theorem readable_eq_iff {e : Except Failure (Option Nat)} {n : Nat} :
    readable e = .ok (some n) ↔ e = .ok (some n) := by
  unfold readable
  split
  · exact ⟨nofun, nofun⟩
  · rfl

/-- **The gutter and the count know of the same numbers of included scripts.** -/
theorem plainShown_eq_iff {n : Nat} :
    plainTarget disk base found (plainAt disk []) target = .ok (some n) ↔
      plainShown disk base found target = .ok (some n) := by
  unfold plainTarget plainShown
  by_cases hc : (found.isFragment || target.isEmpty) = true
  · rw [HeaderLines.aim_of_closed hc, if_pos hc]
  · rw [if_neg hc, readable_eq_iff, plainFile]
    cases hs : (base.under (Location.read target)).isSound with
    | false =>
      rw [HeaderLines.aim_of_not_sound hc hs, if_neg Bool.false_ne_true]
    | true => rw [HeaderLines.aim_of_sound hc hs, if_pos rfl]

/-! ## Texts -/

/-- **The gutter shows no error if and only if the lines have a count.** -/
theorem plainMarks_without_error_iff (hne : lines ≠ []) :
    (∃ marks, plainMarks disk base lines = .ok marks ∧ ∀ mark ∈ marks, mark.kind ≠ .error) ↔
      ∃ n, plainLines disk base (plainAt disk []) lines = .ok (some n) := by
  unfold plainMarks plainLines
  by_cases hu : (HeaderLines.find lines).isUsable = true
  · simp only [if_pos hu]
    rw [← marked_without_error_iff (fun _ _ => plainShown_eq_iff) 0]
    constructor
    · rintro ⟨marks, hm, hclean⟩
      cases hb : (outlineOf lines).marked (plainShown disk base (HeaderLines.find lines)) 0 with
      | error failure =>
        rw [hb] at hm
        cases hm
      | ok body =>
        rw [hb] at hm
        obtain rfl := Except.ok.inj hm
        exact ⟨body, rfl, fun mark hmark => hclean mark (List.mem_append_right _ hmark)⟩
    · rintro ⟨body, hb, hclean⟩
      refine ⟨_, congrArg _ hb, fun mark hmark => ?_⟩
      rcases List.mem_append.mp hmark with hmark | hmark
      · rw [Script.kind_of_mem_uniform hmark]
        decide
      · exact hclean mark hmark
  · simp only [if_neg hu]
    refine ⟨fun ⟨marks, hm, hclean⟩ => ?_, nofun⟩
    obtain rfl := Except.ok.inj hm
    obtain ⟨line, rest, rfl⟩ := List.exists_cons_of_ne_nil hne
    exact absurd rfl (hclean _ List.mem_cons_self)

/-- **A line of data after the last is numbered by the count and one more.** -/
theorem plainMarks_concat {n : Nat} {raw : Text}
    (hn : plainLines disk base (plainAt disk []) lines = .ok (some n))
    (hraw : (Line.measure (lines.length + 1) raw).IsOuterData) :
    ∃ marks, plainMarks disk base lines = .ok marks ∧
      plainMarks disk base (lines ++ [raw]) =
        .ok (marks ++ [⟨lines.length + 1, .data, some (n + 1)⟩]) := by
  unfold plainLines at hn
  by_cases hu : (HeaderLines.find lines).isUsable = true
  · simp only [if_pos hu] at hn
    have hbuild : outlineOf (lines ++ [raw]) =
        (outlineOf lines).concat (Line.measure (lines.length + 1) raw) .data := by
      change build 0 (bodyOf (lines ++ [raw])) = _
      rw [bodyOf_concat hu, build_concat _ hraw.said hraw.level hraw.data]
      rfl
    have hend := marked_concat_data (Line.measure (lines.length + 1) raw)
      (fun _ _ => plainShown_eq_iff) hn
    obtain ⟨body, hbody, hlonger⟩ := hend
    rw [← hbuild] at hlonger
    refine ⟨Gutter.uniform .header 1 (HeaderLines.find lines).bodyStart ++ body, ?_, ?_⟩
    · rw [plainMarks, if_pos hu, hbody]
      rfl
    · rw [outlineOf, HeaderLines.find_concat hu] at hlonger
      simp only [plainMarks, HeaderLines.find_concat hu, if_pos hu, hlonger, List.append_assoc]
      rfl
  · simp only [if_neg hu] at hn
    cases hn

/-- The store that calls leave which begin with an empty one. -/
def storeAfter (disk : Disk) (calls : List Call) : Store :=
  (answers disk calls .empty).2

theorem sound_storeAfter (disk : Disk) (calls : List Call) :
    Sound disk [] (storeAfter disk calls) :=
  sound_answers disk calls

/-- **A text is annotated without an error if and only if it has a count**, whatever has been
counted and annotated before each of the two. And if it has, a line of data that is added to it at
the first column is numbered by the count and one more, and the marks of the other lines stay. -/
theorem annotate_without_error_iff (disk : Disk) (text : Text) (base : Option Text)
    (hne : Text.lines text ≠ []) (earlier others : List Call) :
    ((∃ marks, outcome (Gutter.annotate disk text base (storeAfter disk earlier)) = .ok marks ∧
        ∀ mark ∈ marks, mark.kind ≠ .error) ↔
      ∃ n, outcome (countText disk text base (storeAfter disk others)) = .ok (some n)) ∧
    ∀ n, outcome (countText disk text base (storeAfter disk others)) = .ok (some n) →
      ∀ longer raw, Text.lines longer = Text.lines text ++ [raw] →
        (Line.measure ((Text.lines text).length + 1) raw).IsOuterData →
        ∃ marks, outcome (Gutter.annotate disk text base (storeAfter disk earlier)) = .ok marks ∧
          outcome (Gutter.annotate disk longer base (storeAfter disk earlier)) =
            .ok (marks ++ [⟨(Text.lines text).length + 1, .data, some (n + 1)⟩]) := by
  have hannotate (text : Text) :
      outcome (Gutter.annotate disk text base (storeAfter disk earlier)) =
        plainMarks disk (baseOf disk base) (Text.lines text) :=
    (gives_annotate text base _ (sound_storeAfter disk earlier)).1
  have hcount : outcome (countText disk text base (storeAfter disk others)) =
      plainLines disk (baseOf disk base) (plainAt disk []) (Text.lines text) :=
    (gives_countText text base _ (sound_storeAfter disk others)).1
  rw [hannotate, hcount]
  refine ⟨plainMarks_without_error_iff hne, fun n hn longer raw hlonger hraw => ?_⟩
  rw [hannotate, hlonger]
  exact plainMarks_concat hn hraw

/-- A text that ends within two repetitions, of which the inner one never runs. -/
def openText : Text :=
  "!FORMAT: <KA>\na\nREPEAT 5\n    a\n    .\n    REPEAT 0\n        a\n".toList

/-- The text makes eleven frames, and a line of data after it the twelfth. -/
theorem annotate_without_error_iff_open :
    Text.lines openText ≠ [] ∧
      outcome (countText Script.nestedDisk openText none (storeAfter Script.nestedDisk [])) =
        .ok (some 11) ∧
      ∃ marks, outcome (Gutter.annotate Script.nestedDisk (openText ++ ['a']) none
        (storeAfter Script.nestedDisk [])) = .ok (marks ++ [⟨8, .data, some 12⟩]) := by
  have hne : Text.lines openText ≠ [] := by decide
  have hn : outcome (countText Script.nestedDisk openText none
      (storeAfter Script.nestedDisk [])) = .ok (some 11) := by decide +kernel
  have hraw : (Line.measure 8 ['a']).IsOuterData := ⟨by decide, by decide, by decide⟩
  obtain ⟨-, hlast⟩ := annotate_without_error_iff Script.nestedDisk openText none hne [] []
  obtain ⟨marks, -, hlonger⟩ := hlast 11 hn (openText ++ ['a']) ['a'] (by decide) hraw
  exact ⟨hne, hn, marks, hlonger⟩

end Count

end FrameScript
