import FrameScript.Proofs.Agreement
import FrameScript.Proofs.Count.Gutter
import FrameScript.Proofs.Outline.Readers
import FrameScript.Proofs.Script.Calls
import FrameScript.Proofs.Script.Provenance
import FrameScript.Proofs.Text.Margins

/-!
# Unrolling a repetition by hand

Whoever takes a repetition out of a text and writes its body down as often as it runs, a level
further out, changes nothing about the input: the text can be read as before, its frames have the
same entries, and it has the same count. It does not matter where the repetition stands, what is in
its body, or what becomes of the lines in it that say nothing.

Reading and counting both follow the rules of `Outline.Yields`, by which a repetition may be
unrolled anywhere; what is left is to see that the text that is written has the same header, and a
body that reads like the one that the rules speak of.

## Results

* `measure_outdented`: a line of a body is measured a level further out when four columns are taken
  off it.
* `isRepetition_of_opener?`: every line that opens a repetition has a body.
* `yields_bodyOf_unrolled`: the bodies of a text and of the unrolled one yield the same.
* `yields_of_script`, `plainLines_of_yields`: what a body yields are the entries of the script.
* `unroll_repetition`: **a repetition can be unrolled by hand.**
-/

namespace FrameScript

namespace Line

open Text

/-- The line as it is written with one level of its indentation taken off, and spaces for tabs. -/
def outdented (raw : Text) : Text :=
  (expandTabs raw).drop levelWidth

variable {raw : Text} {n : Nat}

theorem drop_takeWhile {p : Char → Bool} {s : Text} {k : Nat} (h : k ≤ (s.takeWhile p).length) :
    (s.drop k).takeWhile p = (s.takeWhile p).drop k ∧ (s.drop k).dropWhile p = s.dropWhile p := by
  induction k generalizing s with
  | zero => exact ⟨rfl, rfl⟩
  | succ k ih =>
    cases s with
    | nil => exact absurd h (Nat.not_succ_le_zero k)
    | cons c s =>
      by_cases hc : p c = true
      · rw [List.takeWhile_cons_of_pos hc] at h ⊢
        rw [List.dropWhile_cons_of_pos hc]
        exact ih (Nat.le_of_succ_le_succ h)
      · rw [List.takeWhile_cons_of_neg hc] at h
        exact absurd h (Nat.not_succ_le_zero k)

/-- **A line that is indented is measured a level further out** when its first columns are taken
off. -/
theorem measure_outdented (h : levelWidth ≤ (measure n raw).indent) :
    measure n (outdented raw) = (measure n raw).outdent := by
  have htab : '\t' ∉ outdented raw := fun hm => not_mem_expandTabs (List.mem_of_mem_drop hm)
  obtain ⟨htake, hdrop⟩ := drop_takeWhile h
  rw [measure, expandTabs_eq_self htab, outdented, htake, trimLeft, hdrop, List.length_drop]
  rfl

/-- No break comes into a line that is written a level further out. -/
theorem unbroken_outdented (h : ∀ c ∈ raw, isBreak c = false) :
    ∀ c ∈ outdented raw, isBreak c = false := by
  intro c hm
  obtain ⟨d, hd, hc⟩ := List.mem_flatMap.mp (List.mem_of_mem_drop hm)
  split at hc
  · rw [List.eq_of_mem_replicate hc]
    decide
  · rw [List.mem_singleton.mp hc]
    exact h d hd

theorem levelWidth_le_of_level? {line : Line} {level : Nat} (h : line.level? = some (level + 1)) :
    levelWidth ≤ line.indent := by
  unfold level? at h
  unfold levelWidth at h ⊢
  split at h
  · have hdiv := Option.some.inj h
    omega
  · cases h

/-- What does not depend on the number of a line may be read off the line as it is written. -/
theorem map_measureFrom {β : Type} {f : Line → β}
    (hf : ∀ n raw, f (measure n raw) = f (measure 0 raw))
    (first : Nat) (raws : List Text) :
    (measureFrom first raws).map f = (raws.map (measure 0)).map f := by
  induction raws generalizing first with
  | nil => rfl
  | cons raw raws ih => rw [measureFrom, List.map_cons, ih, hf, List.map_cons, List.map_cons]

/-! ## Headers -/

/-- What is left of a line that begins with an exclamation mark begins with it. -/
theorem content_of_mark (n : Nat) (rest : Text) :
    ∃ more, (measure n ('!' :: rest)).content = '!' :: more := by
  have hmark : isBlank '!' = false := by decide
  have hexpand : expandTabs ('!' :: rest) = '!' :: expandTabs rest := rfl
  have hleft : trimLeft ('!' :: expandTabs rest) = '!' :: expandTabs rest :=
    List.dropWhile_cons_of_neg (Bool.eq_false_iff.mp hmark)
  have hcontent : (measure n ('!' :: rest)).content =
      trimRight (trimLeft (expandTabs ('!' :: rest))) := rfl
  rw [hcontent, hexpand, hleft, trimRight_cons, hmark]
  split
  · exact ⟨[], rfl⟩
  · exact ⟨_, rfl⟩

/-- So it holds data at most. -/
theorem unmarked_of_read (h : Directive.read (measure 0 raw).content ≠ .data) :
    raw.head? ≠ some '!' := by
  intro hhead
  obtain ⟨rest, rfl⟩ := List.head?_eq_some_iff.mp hhead
  obtain ⟨more, hcontent⟩ := content_of_mark 0 rest
  rw [hcontent] at h
  exact h rfl

theorem ne_data_of_opener? {line : Line} {found : Nat × Nat} (h : line.opener? = some found) :
    Directive.read line.content ≠ .data := by
  intro hd
  rw [opener?_eq_none (Or.inr (opens?_of_data hd))] at h
  cases h

end Line

namespace HeaderLines

variable {front back : List Text} {raw : Text}

theorem mark_of_declared? (mark : Text)
    (h : (declared? ('!' :: mark) (raw :: back)).isSome = true) : ∃ rest, raw = '!' :: rest := by
  rw [declared?, Option.isSome_map] at h
  obtain ⟨found, hfound⟩ := Option.isSome_iff_exists.mp h
  exact ⟨mark ++ found, Text.after?_eq_some_iff.mp hfound⟩

/-- The lines of a usable header begin with an exclamation mark. -/
theorem mark_of_lt_bodyStart (h : (find (front ++ raw :: back)).isUsable = true)
    (hlt : front.length < (find (front ++ raw :: back)).bodyStart) :
    ∃ rest, raw = '!' :: rest := by
  obtain ⟨index, hindex, -, hstart⟩ := exists_formatIndex h
  rw [isUsable, Bool.and_eq_true] at h
  have hformat : (declared? formatMark ((front ++ raw :: back).drop index)).isSome = true :=
    hindex ▸ h.1
  rw [hstart] at hlt
  rcases Nat.lt_or_eq_of_le (Nat.le_of_lt_succ hlt) with hfirst | hlast
  · by_cases hkind : (declared? kindMark (front ++ raw :: back)).isSome = true
    · rw [if_pos hkind] at hindex
      obtain rfl : front = [] := List.length_eq_zero_iff.mp (by omega)
      exact mark_of_declared? "TYPE: ".toList hkind
    · rw [if_neg hkind] at hindex
      omega
  · rw [← hlast, List.drop_left] at hformat
    exact mark_of_declared? "FORMAT: ".toList hformat

/-- A line that does not begin with an exclamation mark is in the body. -/
theorem bodyStart_le_of_unmarked (h : (find (front ++ raw :: back)).isUsable = true)
    (hraw : raw.head? ≠ some '!') : (find (front ++ raw :: back)).bodyStart ≤ front.length := by
  refine Nat.le_of_not_lt fun hlt => ?_
  obtain ⟨rest, rfl⟩ := mark_of_lt_bodyStart h hlt
  exact hraw rfl

/-- Such a line and what follows it change nothing about the header. -/
theorem find_of_unmarked (h : (find (front ++ raw :: back)).isUsable = true)
    (hraw : raw.head? ≠ some '!') (more : List Text) :
    find (front ++ more) = find (front ++ raw :: back) := by
  have hle := bodyStart_le_of_unmarked h hraw
  refine find_of_take h ?_
  rw [List.take_append_of_le_length hle, List.take_append_of_le_length hle]

end HeaderLines

namespace Outline

/-! ## Unrolling a repetition -/

/-- In a text, the line `opener` opens a repetition of `count` at the level. Its body is `block`,
the lines up to the first that says something and is not deeper; `back` is what follows. -/
structure IsRepetition (level count : Nat) (opener : Text) (block back : List Text) : Prop where
  opens : (Line.measure 0 opener).opener? = some (level, count)
  inside : ∀ raw ∈ block, isInside level (Line.measure 0 raw) = true
  ends : ∀ raw ∈ back.head?, ¬isInside level (Line.measure 0 raw) = true

/-- Copies of the lines that say something, each written a level further out. -/
def unrolledBlock (count : Nat) (block : List Text) : List Text :=
  copies count ((block.filter fun raw => (Line.measure 0 raw).isSaid).map Line.outdented)

/-- The lines read like the unrolled block, apart from lines that say nothing. -/
def IsUnrolled (count : Nat) (block middle : List Text) : Prop :=
  Line.wordings (middle.map (Line.measure 0)) =
    Line.wordings ((unrolledBlock count block).map (Line.measure 0))

instance (count : Nat) (block middle : List Text) : Decidable (IsUnrolled count block middle) :=
  inferInstanceAs (Decidable (_ = _))

variable {α : Type} {r : Reader α} {level count : Nat} {opener : Text}
  {front block back middle lines : List Text} {b v : List α}

/-- Every line that opens a repetition has a body, and the rest of the text follows it. -/
theorem isRepetition_of_opener? (h : (Line.measure 0 opener).opener? = some (level, count))
    (rest : List Text) :
    IsRepetition level count opener (rest.takeWhile fun raw => isInside level (Line.measure 0 raw))
      (rest.dropWhile fun raw => isInside level (Line.measure 0 raw)) where
  opens := h
  inside _ := List.mem_takeWhile_imp
  ends := head_of_dropWhile _ rest

theorem IsRepetition.unmarked (h : IsRepetition level count opener block back) :
    opener.head? ≠ some '!' :=
  Line.unmarked_of_read (Line.ne_data_of_opener? h.opens)

/-- The unrolled block reads like copies of the body of the repetition. -/
theorem wordings_unrolledBlock (h : Yields r (level + 1) (block.map (Line.measure 0)) b) :
    Line.wordings ((unrolledBlock count block).map (Line.measure 0)) =
      copies count (((block.map (Line.measure 0)).filter Line.isSaid).map
        fun line => line.outdent.wording) := by
  have houtdent : ∀ raw ∈ block.filter (fun raw => (Line.measure 0 raw).isSaid),
      Line.measure 0 (Line.outdented raw) = (Line.measure 0 raw).outdent := by
    intro raw hm
    obtain ⟨hm, hsaid⟩ := List.mem_filter.mp hm
    obtain ⟨n, hn, hl⟩ := h.level_of_mem _ (List.mem_map_of_mem hm)
      (by simpa [Line.isSaid] using hsaid)
    obtain ⟨m, rfl⟩ := Nat.exists_eq_succ_of_ne_zero (Nat.ne_zero_of_lt hn)
    exact Line.measure_outdented (Line.levelWidth_le_of_level? hl)
  have hmeasured : ((block.filter fun raw => (Line.measure 0 raw).isSaid).map Line.outdented).map
      (Line.measure 0) = ((block.map (Line.measure 0)).filter Line.isSaid).map Line.outdent := by
    rw [List.filter_map, List.map_map, List.map_map]
    exact List.map_congr_left houtdent
  have hsaid : (((block.map (Line.measure 0)).filter Line.isSaid).map Line.outdent).filter
      Line.isSaid = ((block.map (Line.measure 0)).filter Line.isSaid).map Line.outdent := by
    rw [List.filter_eq_self]
    intro line hm
    obtain ⟨deeper, hdeeper, rfl⟩ := List.mem_map.mp hm
    exact (List.mem_filter.mp hdeeper).2
  rw [unrolledBlock, map_copies, hmeasured, Line.wordings, filter_copies, hsaid, map_copies,
    List.map_map]
  rfl

/-- A text and the unrolled one yield the same. -/
theorem yields_unrolledText (hrep : IsRepetition level count opener block back)
    (hmiddle : IsUnrolled count block middle)
    (h : Yields r 0 ((front ++ opener :: (block ++ back)).map (Line.measure 0)) v) :
    Yields r 0 ((front ++ (middle ++ back)).map (Line.measure 0)) v := by
  obtain ⟨hs, hl⟩ := Line.level_of_opener? hrep.opens
  have hinside : ∀ line ∈ block.map (Line.measure 0), isInside level line = true := by
    intro line hm
    obtain ⟨raw, hraw, rfl⟩ := List.mem_map.mp hm
    exact hrep.inside raw hraw
  have hends : ∀ line ∈ (back.map (Line.measure 0)).head?, ¬isInside level line = true := by
    intro line hm
    rw [List.head?_map] at hm
    obtain ⟨raw, hraw, rfl⟩ := Option.mem_map.mp hm
    exact hrep.ends raw hraw
  rw [List.map_append, List.map_cons, List.map_append] at h
  rw [List.map_append, List.map_append]
  exact h.replace hs hl (Line.opens?_of_opener? hrep.opens) hinside hends
    fun b hb => hb.of_copies count (hmiddle.trans (wordings_unrolledBlock hb))

/-- The body of a text yields what its lines do, whatever their numbers. -/
theorem yields_bodyOf_iff :
    Yields r level (bodyOf lines) v ↔
      Yields r level ((lines.drop (HeaderLines.find lines).bodyStart).map (Line.measure 0)) v := by
  have hsame := Line.map_measureFrom (fun _ _ => rfl : ∀ n raw,
      (Line.measure n raw).wording = (Line.measure 0 raw).wording)
    ((HeaderLines.find lines).bodyStart + 1) (lines.drop (HeaderLines.find lines).bodyStart)
  exact ⟨fun h => h.congr hsame.symm, fun h => h.congr hsame⟩

/-- Whatever may stand in place of the last lines of a text, wherever it begins, may do so in its
body, if the first of these lines is in no header. -/
theorem yields_bodyOf_of_tail {raw : Text} {more : List Text}
    (hu : (HeaderLines.find (front ++ raw :: back)).isUsable = true)
    (hraw : raw.head? ≠ some '!')
    (htail : ∀ front, Yields r 0 ((front ++ raw :: back).map (Line.measure 0)) v →
      Yields r 0 ((front ++ more).map (Line.measure 0)) v)
    (h : Yields r 0 (bodyOf (front ++ raw :: back)) v) : Yields r 0 (bodyOf (front ++ more)) v := by
  have hle := HeaderLines.bodyStart_le_of_unmarked hu hraw
  rw [yields_bodyOf_iff, List.drop_append_of_le_length hle] at h
  rw [yields_bodyOf_iff, HeaderLines.find_of_unmarked hu hraw, List.drop_append_of_le_length hle]
  exact htail _ h

/-- **The bodies of a text and of the unrolled one yield the same.** -/
theorem yields_bodyOf_unrolled
    (hu : (HeaderLines.find (front ++ opener :: (block ++ back))).isUsable = true)
    (hrep : IsRepetition level count opener block back)
    (hmiddle : IsUnrolled count block middle)
    (h : Yields r 0 (bodyOf (front ++ opener :: (block ++ back))) v) :
    Yields r 0 (bodyOf (front ++ (middle ++ back))) v :=
  yields_bodyOf_of_tail hu hrep.unmarked (fun _ => yields_unrolledText hrep hmiddle) h

end Outline

namespace Count

open Outline

variable {disk : Disk} {base : Location} {level count n : Nat} {opener : Text}
  {front block back middle : List Text}

/-- **The lines of the unrolled text have the same count.** -/
theorem plainLines_unrolled {included : Path → Except Failure (Option Nat)}
    (hrep : IsRepetition level count opener block back)
    (hmiddle : IsUnrolled count block middle)
    (h : plainLines disk base included (front ++ opener :: (block ++ back)) = .ok (some n)) :
    plainLines disk base included (front ++ (middle ++ back)) = .ok (some n) := by
  unfold plainLines at h
  by_cases hu : (HeaderLines.find (front ++ opener :: (block ++ back))).isUsable = true
  · simp only [if_pos hu] at h
    have hfind := HeaderLines.find_of_unmarked hu hrep.unmarked (middle ++ back)
    have hyields : Yields (.counting (plainTarget disk base
        (HeaderLines.find (front ++ opener :: (block ++ back))) included)) 0
        (bodyOf (front ++ opener :: (block ++ back))) (List.replicate n ()) :=
      yields_iff_counted.mpr (by rw [List.length_replicate]; exact h)
    have hcounted := yields_iff_counted.mp (yields_bodyOf_unrolled hu hrep hmiddle hyields)
    rw [List.length_replicate, bodyOf, hfind] at hcounted
    simp only [plainLines, hfind, if_pos hu]
    exact hcounted
  · simp only [if_neg hu] at h
    cases h

end Count

namespace Script

open Outline Reading

variable {disk : Disk} {source : Option Text} {base : Location} {level count : Nat} {opener : Text}
  {front block back middle : List Text}

/-! ## Reading -/

/-- The reader of entries: of a line of data, those of its frame, and of a script that is included,
those of all of its frames. -/
def entriesReader (disk : Disk) (base : Location) (format : Format) (found : HeaderLines)
    (parse : Path → Except Failure Script) : Reader (List (Text × Text)) where
  data content := (format.tokens? content).map fun tokens =>
    (format.fields.map Field.name).zip tokens
  included target :=
    match found.aim disk base target with
    | .file q => (parse q).toOption.map fun script => script.frames.map Frame.entries
    | _ => none
  repeats n := n ≤ repeatLimit

/-- **The entries of frames do not depend on where the lines stand.** -/
theorem follows_entriesReader (disk : Disk) (source : Option Text) (base : Location)
    (format : Format) (found : HeaderLines) (parse : Path → Except Failure Script) :
    (entriesReader disk base format found parse).Follows Frame.entries (plainData source format)
      (plainInclusion disk source base found parse) where
  data line a := by
    simp only [entriesReader, plainData, Format.frame?]
    cases format.tokens? line.content <;> simp
  included line target b := by
    simp only [entriesReader, plainInclusion]
    cases found.aim disk base target with
    | nowhere | astray => simp
    | file q => cases hp : parse q <;> simp [hp, Except.map, Except.toOption]
  repeats n := Iff.rfl

section Scripts

variable {parse : Path → Except Failure Script} {script : Script} {lines lines' : List Text}

/-- **What a body yields are the entries of the script.** -/
theorem yields_of_script (h : plainLines disk source base parse lines = .ok script) :
    Yields (entriesReader disk base script.header.format (HeaderLines.find lines) parse) 0
      (bodyOf lines) (script.frames.map Frame.entries) := by
  obtain ⟨header, -, hnone, rfl⟩ := plainLines_ok h
  have hfollows := follows_entriesReader disk source base header.format (HeaderLines.find lines)
    parse
  exact (yields_iff_unrolled hfollows source).mpr ⟨_, unrolled_of_none hnone, rfl⟩

/-- Lines with the same header and a body that yields the same make a script with the same
entries. -/
theorem plainLines_of_yields (h : plainLines disk source base parse lines = .ok script)
    (hfind : HeaderLines.find lines' = HeaderLines.find lines)
    (hyields : Yields (entriesReader disk base script.header.format (HeaderLines.find lines) parse)
      0 (bodyOf lines') (script.frames.map Frame.entries)) :
    ∃ frames, plainLines disk source base parse lines' = .ok { script with frames := frames } ∧
      frames.map Frame.entries = script.frames.map Frame.entries := by
  obtain ⟨header, hh, -, rfl⟩ := plainLines_ok h
  have hh' : Header.read source lines' = .ok header := by
    rw [Header.read, hfind]
    exact hh
  have hfollows := follows_entriesReader disk source base header.format (HeaderLines.find lines)
    parse
  obtain ⟨frames, hframes, hsame⟩ := (yields_iff_unrolled hfollows source).mp hyields
  refine ⟨frames, ?_, hsame⟩
  have hbody : (outlineOf lines').unrolled source (plainData source header.format)
      (plainInclusion disk source base (HeaderLines.find lines) parse) = .ok frames := hframes
  simp only [plainLines, hh', hfind, hbody]
  rfl

/-- **The lines of the unrolled text make a script with the same header and the same entries.** -/
theorem plainLines_unrolled (hrep : IsRepetition level count opener block back)
    (hmiddle : IsUnrolled count block middle)
    (h : plainLines disk source base parse (front ++ opener :: (block ++ back)) = .ok script) :
    ∃ frames, plainLines disk source base parse (front ++ (middle ++ back)) =
        .ok { script with frames := frames } ∧
      frames.map Frame.entries = script.frames.map Frame.entries := by
  obtain ⟨header, hh, -, -⟩ := plainLines_ok h
  have hu := usable_of_read hh
  exact plainLines_of_yields h (HeaderLines.find_of_unmarked hu hrep.unmarked _)
    (yields_bodyOf_unrolled hu hrep hmiddle (yields_of_script h))

end Scripts

/-! ## Texts -/

/-- **The unrolled text can be written down.** -/
theorem exists_unrolled {text : Text} (h : Text.lines text = front ++ opener :: (block ++ back))
    (count : Nat) :
    ∃ unrolled, Text.lines unrolled = front ++ (unrolledBlock count block ++ back) := by
  have hlines : Text.lines text = front ++ (opener :: block ++ back) := h
  refine Text.exists_replaced hlines fun raw hm => ?_
  obtain ⟨deeper, hdeeper, rfl⟩ := List.mem_map.mp (mem_of_mem_copies hm)
  have hline : deeper ∈ Text.lines text := by
    rw [h]
    simp [(List.mem_filter.mp hdeeper).1]
  exact Line.unbroken_outdented (Text.isBreak_of_mem_lines hline)

/-- **A repetition can be unrolled by hand.** If a text can be read, and in place of a line that
opens a repetition and its body there are as many copies of the lines of the body as the repetition
runs, each a level further out, then that text can be read, and its frames have the same entries;
and it has the same count, from wherever included scripts are seen. From where reading sees them,
that is the number of the frames. Lines that say nothing may stand among the copies. -/
theorem unroll_repetition (disk : Disk) {text : Text} {path : Option Text} {typed : Bool}
    {script : Script} (earlier : List Call)
    (h : outcome (parseText disk text path typed (answers disk earlier .empty).2) = .ok script)
    (hlines : Text.lines text = front ++ opener :: (block ++ back))
    (hrep : IsRepetition level count opener block back) :
    (∃ unrolled, Text.lines unrolled = front ++ (unrolledBlock count block ++ back)) ∧
    ∀ unrolled middle, IsUnrolled count block middle →
      Text.lines unrolled = front ++ (middle ++ back) →
      (∀ later, ∃ again,
        outcome (parseText disk unrolled path typed (answers disk later .empty).2) = .ok again ∧
          again.frames.map Frame.entries = script.frames.map Frame.entries) ∧
      ∀ base calls later,
        (∀ n, outcome (Count.countText disk text base (Count.storeAfter disk calls)) =
            .ok (some n) →
          outcome (Count.countText disk unrolled base (Count.storeAfter disk later)) =
            .ok (some n)) ∧
        (Count.baseOf disk base = baseOf disk path →
          outcome (Count.countText disk text base (Count.storeAfter disk calls)) =
            .ok (some script.frames.length)) := by
  have hparse (text : Text) (calls : List Call) :
      outcome (parseText disk text path typed (answers disk calls .empty).2) =
        plainText disk text path typed :=
    (gives_parseText text path typed _ (sound_answers disk calls)).1
  have hcount (text : Text) (base : Option Text) (calls : List Count.Call) :
      outcome (Count.countText disk text base (Count.storeAfter disk calls)) =
        Count.plainLines disk (Count.baseOf disk base) (Count.plainAt disk []) (Text.lines text) :=
    (Count.gives_countText text base _ (Count.sound_storeAfter disk calls)).1
  obtain ⟨hplain, hkind⟩ := bind_plainDemand_eq_ok.mp ((hparse text earlier).symm.trans h)
  refine ⟨exists_unrolled hlines count, fun unrolled middle hmiddle hunrolled =>
    ⟨fun later => ?_, fun base calls later => ⟨fun n hn => ?_, fun hbase => ?_⟩⟩⟩
  · rw [hlines] at hplain
    obtain ⟨frames, hframes, hsame⟩ := plainLines_unrolled hrep hmiddle hplain
    refine ⟨{ script with frames := frames }, ?_, hsame⟩
    rw [hparse, plainText, hunrolled]
    exact bind_plainDemand_eq_ok.mpr ⟨hframes, hkind⟩
  · rw [hcount, hlines] at hn
    rw [hcount, hunrolled]
    exact Count.plainLines_unrolled hrep hmiddle hn
  · rw [hcount, hbase]
    exact number_of_lines hplain fun q included hq => number_of_script hq

/-- The lines of a repetition, with tabs, a blank line, a comment and another repetition. -/
def tabbedBlock : List Text :=
  ["\ta".toList, [], "    REPEAT 3".toList, "# once".toList, "\t\t.".toList]

/-- A text with the repetition. -/
def tabbedText : Text :=
  "!FORMAT: <KA>\nREPEAT 2\n\ta\n\n    REPEAT 3\n# once\n\t\t.\na\n".toList

/-- The text with the repetition unrolled, and the comment in its place. -/
def flatText : Text :=
  "!FORMAT: <KA>\na\nREPEAT 3\n# once\n    .\na\nREPEAT 3\n    .\na\n".toList

/-- Both texts make nine frames, with the same entries. -/
theorem unroll_repetition_tabbed :
    IsRepetition 0 2 "REPEAT 2".toList tabbedBlock [['a']] ∧
      ∃ script again,
        outcome (parseText nestedDisk tabbedText none false (answers nestedDisk [] .empty).2) =
          .ok script ∧
        outcome (parseText nestedDisk flatText none false (answers nestedDisk [] .empty).2) =
          .ok again ∧
        again.frames.map Frame.entries = script.frames.map Frame.entries ∧
        outcome (Count.countText nestedDisk flatText none (Count.storeAfter nestedDisk [])) =
          .ok (some 9) := by
  have hrep : IsRepetition 0 2 "REPEAT 2".toList tabbedBlock [['a']] :=
    isRepetition_of_opener? (by decide) (tabbedBlock ++ [['a']])
  have hlines : Text.lines tabbedText =
      ["!FORMAT: <KA>".toList] ++ "REPEAT 2".toList :: (tabbedBlock ++ [['a']]) := by
    decide +kernel
  have hflat : Text.lines flatText = ["!FORMAT: <KA>".toList] ++
      ([['a'], "REPEAT 3".toList, "# once".toList, "    .".toList, ['a'], "REPEAT 3".toList,
        "    .".toList] ++ [['a']]) := by
    decide +kernel
  have hread : (outcome (parseText nestedDisk tabbedText none false
      (answers nestedDisk [] .empty).2)).toOption.isSome = true := by decide +kernel
  have hnine : outcome (Count.countText nestedDisk tabbedText none
      (Count.storeAfter nestedDisk [])) = .ok (some 9) := by decide +kernel
  obtain ⟨script, hscript⟩ : ∃ script, outcome (parseText nestedDisk tabbedText none false
      (answers nestedDisk [] .empty).2) = .ok script := exists_ok_of_isSome hread
  obtain ⟨-, hall⟩ := unroll_repetition nestedDisk [] hscript hlines hrep
  obtain ⟨hagain, hcount⟩ := hall flatText _ (by decide +kernel) hflat
  obtain ⟨again, hread, hsame⟩ := hagain []
  exact ⟨hrep, script, again, hscript, hread, hsame, (hcount none [] []).1 9 hnine⟩

end Script

end FrameScript
