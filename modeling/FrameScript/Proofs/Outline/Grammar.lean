import FrameScript.Proofs.Nesting
import FrameScript.Proofs.Outline.Numbering

/-!
# Bodies without an outline

What a body yields can be told by rules, one for each thing that a line may ask for: a line of data
yields one value, a line that includes a script the values of the script, and a repetition the
values of its body as often as it runs. The rule for a repetition does not say where its body ends.
It need not: a line that is deeper can only belong to the body, a line that is not can only come
after it, and lines that say nothing may stand anywhere (`yields_cons_iff`).

The rules look at a line without its number and may be used from either end of a body, so that they
tell at once what happens to the values when lines are moved, copied or left out. Repetitions can be
unrolled for this reason.

## Results

* `yields_cons_iff`: **the rules follow the outline of the body.**
* `Yields.filter`, `Yields.of_filter`: lines that say nothing may be left out and put in.
* `Yields.congr`, `Yields.relevel`: numbers do not matter, and a body may stand at another level.
* `Yields.replace_at`: **lines may be replaced** in a body, at any depth.
* `Yields.replace`: a repetition may be replaced by whatever yields its values, and copies of its
  body do, a level further out (`Yields.of_copies`).
* `Yields.replace_inclusion`: a line that includes a script may be replaced likewise, and the body
  of the script does, at the level of the line (`Yields.indented`).
-/

namespace FrameScript

namespace Line

/-- How a line reads: its indentation and its content. -/
def wording (line : Line) : Nat × Text :=
  (line.indent, line.content)

/-- The line without one level of its indentation. -/
def outdent (line : Line) : Line :=
  { line with indent := line.indent - levelWidth }

/-- The line says something. -/
def isSaid (line : Line) : Bool :=
  !line.isSkipped

/-- How lines read, apart from those that say nothing. -/
def wordings (lines : List Line) : List (Nat × Text) :=
  (lines.filter isSaid).map wording

/-- The line with so many levels of indentation more. -/
def indented (levels : Nat) (line : Line) : Line :=
  { line with indent := levelWidth * levels + line.indent }

variable {line : Line} {level : Nat}

theorem level?_eq_some_iff : line.level? = some level ↔ line.indent = levelWidth * level := by
  unfold level? levelWidth
  split
  · rw [Option.some.injEq]
    omega
  · refine ⟨nofun, fun h => ?_⟩
    omega

theorem level?_outdent (h : line.level? = some (level + 1)) : line.outdent.level? = some level := by
  rw [level?_eq_some_iff] at h ⊢
  rw [outdent, h, Nat.mul_succ, Nat.add_sub_cancel]

theorem level?_indented (levels : Nat) (h : line.level? = some level) :
    (line.indented levels).level? = some (level + levels) := by
  rw [level?_eq_some_iff] at h ⊢
  rw [indented, h, Nat.mul_add, Nat.add_comm]

end Line

namespace Outline

/-! ## The rules -/

/-- What the lines of a body are to a reader: the value of a line of data with the given content,
the values of a script that is included, and whether a body can be repeated so often. -/
structure Reader (α : Type) where
  data : Text → Option α
  included : Text → Option (List α)
  repeats : Nat → Prop

/-- The lines, as a body at the level, yield the values. -/
inductive Yields {α : Type} (r : Reader α) : (level : Nat) → List Line → List α → Prop
  | nil {level : Nat} : Yields r level [] []
  | skip {level : Nat} {line : Line} {rest : List Line} {v : List α}
      (hs : line.isSkipped = true) (hr : Yields r level rest v) : Yields r level (line :: rest) v
  | data {level : Nat} {line : Line} {rest : List Line} {a : α} {v : List α}
      (hs : line.isSkipped = false) (hl : line.level? = some level)
      (hd : Directive.read line.content = .data) (ha : r.data line.content = some a)
      (hr : Yields r level rest v) : Yields r level (line :: rest) (a :: v)
  | inclusion {level : Nat} {line : Line} {rest : List Line} {target : Text} {b v : List α}
      (hs : line.isSkipped = false) (hl : line.level? = some level)
      (hd : Directive.read line.content = .inclusion target) (hi : r.included target = some b)
      (hr : Yields r level rest v) : Yields r level (line :: rest) (b ++ v)
  | repetition {level count : Nat} {line : Line} {block rest : List Line} {b v : List α}
      (hs : line.isSkipped = false) (hl : line.level? = some level)
      (ho : line.opens? = some count) (hn : r.repeats count)
      (hb : Yields r (level + 1) block b) (hr : Yields r level rest v) :
      Yields r level (line :: (block ++ rest)) (copies count b ++ v)

variable {α : Type} {r : Reader α} {level count : Nat} {line : Line}
  {lines front back block middle : List Line} {b v w : List α}

theorem filter_copies (p : α → Bool) (n : Nat) (l : List α) :
    (copies n l).filter p = copies n (l.filter p) := by
  induction n with
  | zero => rw [copies_zero, copies_zero, List.filter_nil]
  | succ n ih => rw [copies_succ, copies_succ, List.filter_append, ih]

theorem map_copies {β : Type} (f : α → β) (n : Nat) (l : List α) :
    (copies n l).map f = copies n (l.map f) := by
  induction n with
  | zero => rw [copies_zero, copies_zero, List.map_nil]
  | succ n ih => rw [copies_succ, copies_succ, List.map_append, ih]

namespace Yields

/-- What two bodies yield, one after the other. -/
theorem append (hf : Yields r level front v) (hb : Yields r level back w) :
    Yields r level (front ++ back) (v ++ w) := by
  induction hf with
  | nil => exact hb
  | skip hs _ ih => exact .skip hs (ih hb)
  | data hs hl hd ha _ ih => exact .data hs hl hd ha (ih hb)
  | inclusion hs hl hd hi _ ih =>
    rw [List.append_assoc]
    exact .inclusion hs hl hd hi (ih hb)
  | repetition hs hl ho hn hbody _ _ ih =>
    rw [List.append_assoc, List.cons_append, List.append_assoc]
    exact .repetition hs hl ho hn hbody (ih hb)

theorem copies (h : Yields r level lines v) (n : Nat) :
    Yields r level (copies n lines) (Outline.copies n v) := by
  induction n with
  | zero =>
    rw [copies_zero, copies_zero]
    exact .nil
  | succ n ih =>
    rw [copies_succ, copies_succ]
    exact h.append ih

/-- Lines that say nothing yield nothing. -/
theorem of_skipped (h : ∀ line ∈ lines, line.isSkipped = true) : Yields r level lines [] := by
  induction lines with
  | nil => exact .nil
  | cons line rest ih =>
    obtain ⟨hs, hrest⟩ := List.forall_mem_cons.mp h
    exact .skip hs (ih hrest)

theorem tail (h : Yields r level (line :: lines) v) (hs : line.isSkipped = true) :
    Yields r level lines v := by
  cases h with
  | skip _ hr => exact hr
  | data hn | inclusion hn | repetition hn => exact absurd hs (Bool.eq_false_iff.mp hn)

/-! ## Where bodies end -/

/-- A line that says something is at the level of the body that it begins. -/
theorem level_of_head (h : Yields r level (line :: lines) v) (hs : line.isSkipped = false) :
    line.level? = some level := by
  cases h with
  | skip hn _ => exact absurd hn (Bool.eq_false_iff.mp hs)
  | data _ hl | inclusion _ hl | repetition _ hl => exact hl

/-- The lines that say something are at the level of the body or deeper. -/
theorem level_of_mem (h : Yields r level lines v) :
    ∀ line ∈ lines, line.isSkipped = false → ∃ n, level ≤ n ∧ line.level? = some n := by
  induction h with
  | nil => exact fun l hm => absurd hm List.not_mem_nil
  | skip hs _ ih =>
    exact List.forall_mem_cons.mpr ⟨fun hn => absurd hs (Bool.eq_false_iff.mp hn), ih⟩
  | data _ hl _ _ _ ih | inclusion _ hl _ _ _ ih =>
    exact List.forall_mem_cons.mpr ⟨fun _ => ⟨_, Nat.le_refl _, hl⟩, ih⟩
  | repetition _ hl _ _ _ _ ihb ihr =>
    refine List.forall_mem_cons.mpr ⟨fun _ => ⟨_, Nat.le_refl _, hl⟩, fun l hm hs => ?_⟩
    rcases List.mem_append.mp hm with hm | hm
    · obtain ⟨n, hn, hln⟩ := ihb l hm hs
      exact ⟨n, Nat.le_of_succ_le hn, hln⟩
    · exact ihr l hm hs

/-- The lines of a body are inside the one around it. -/
theorem isInside_of_mem (h : Yields r (level + 1) lines v) :
    ∀ line ∈ lines, isInside level line = true := by
  intro l hm
  cases hs : l.isSkipped with
  | true => simp [isInside, hs]
  | false =>
    obtain ⟨n, hn, hl⟩ := h.level_of_mem l hm hs
    have hlt : level < n := hn
    simp [isInside, hl, hlt]

/-- What is left of lines after a deeper body, and what belongs to that body: lines that say
nothing. -/
theorem split (h : Yields r level lines v) :
    Yields r (level + 1) (lines.takeWhile (isInside level)) [] ∧
      Yields r level (lines.dropWhile (isInside level)) v := by
  induction lines with
  | nil => exact ⟨.nil, h⟩
  | cons line rest ih =>
    cases hs : line.isSkipped with
    | true =>
      have hin : isInside level line = true := by simp [isInside, hs]
      obtain ⟨htake, hdrop⟩ := ih (h.tail hs)
      rw [List.takeWhile_cons_of_pos hin, List.dropWhile_cons_of_pos hin]
      exact ⟨.skip hs htake, hdrop⟩
    | false =>
      have hout : ¬isInside level line = true := by
        simp [isInside, hs, h.level_of_head hs]
      rw [List.takeWhile_cons_of_neg hout, List.dropWhile_cons_of_neg hout]
      exact ⟨.nil, h⟩

end Yields

theorem opening_of_data (hs : line.isSkipped = false) (hl : line.level? = some level)
    (hd : Directive.read line.content = .data) : opening level line = .nothing .data := by
  simp [opening, hs, hl, hd]

theorem opening_of_inclusion {target : Text} (hs : line.isSkipped = false)
    (hl : line.level? = some level) (hd : Directive.read line.content = .inclusion target) :
    opening level line = .nothing (.inclusion target) := by
  simp [opening, hs, hl, hd]

theorem opening_of_opens (hs : line.isSkipped = false) (hl : line.level? = some level)
    (ho : line.opens? = some count) : opening level line = .repetition count := by
  unfold Line.opens? at ho
  split at ho
  · rename_i text hd
    split at ho
    · rename_i n hn
      cases ho
      simp [opening, hs, hl, hd, hn]
    · cases ho
  · cases ho

/-- What a line opens is what it asks for at its level. -/
theorem of_opening (level : Nat) (line : Line) :
    match opening level line with
    | .nothing .skip => line.isSkipped = true
    | .nothing .data =>
      line.isSkipped = false ∧ line.level? = some level ∧ Directive.read line.content = .data
    | .nothing (.inclusion target) =>
      line.isSkipped = false ∧ line.level? = some level ∧
        Directive.read line.content = .inclusion target
    | .nothing (.bad _) => True
    | .repetition count =>
      line.isSkipped = false ∧ line.level? = some level ∧ line.opens? = some count := by
  cases hs : line.isSkipped with
  | true => simp [opening, hs]
  | false =>
    by_cases hl : line.level? = some level
    · cases hd : Directive.read line.content with
      | data => simp [opening, hs, hl, hd]
      | inclusion target => simp [opening, hs, hl, hd]
      | repetition text =>
        cases hn : Numeral.readNat text <;> simp [opening, hs, hl, hd, hn, Line.opens?]
    · simp [opening, hs, hl]

/-- **The rules follow the outline of the body.** -/
theorem yields_cons_iff :
    Yields r level (line :: lines) v ↔
      match opening level line with
      | .nothing .skip => Yields r level lines v
      | .nothing .data =>
        ∃ a w, r.data line.content = some a ∧ Yields r level lines w ∧ v = a :: w
      | .nothing (.inclusion target) =>
        ∃ b w, r.included target = some b ∧ Yields r level lines w ∧ v = b ++ w
      | .nothing (.bad _) => False
      | .repetition count =>
        r.repeats count ∧ ∃ b w,
          Yields r (level + 1) (lines.takeWhile (isInside level)) b ∧
            Yields r level (lines.dropWhile (isInside level)) w ∧ v = copies count b ++ w := by
  constructor
  · intro h
    cases h with
    | skip hs hr =>
      rw [opening_of_skipped hs]
      exact hr
    | data hs hl hd ha hr =>
      rw [opening_of_data hs hl hd]
      exact ⟨_, _, ha, hr, rfl⟩
    | inclusion hs hl hd hi hr =>
      rw [opening_of_inclusion hs hl hd]
      exact ⟨_, _, hi, hr, rfl⟩
    | @repetition _ count _ block rest b w hs hl ho hn hb hr =>
      rw [opening_of_opens hs hl ho]
      have hin := hb.isInside_of_mem
      obtain ⟨htake, hdrop⟩ := hr.split
      refine ⟨hn, b, w, ?_, ?_, rfl⟩
      · rw [List.takeWhile_append_of_pos hin, ← List.append_nil b]
        exact hb.append htake
      · rwa [List.dropWhile_append_of_pos hin]
  · have hspec := of_opening level line
    cases ho : opening level line with
    | nothing item =>
      rw [ho] at hspec
      cases item with
      | skip => exact fun hr => .skip hspec hr
      | data =>
        obtain ⟨hs, hl, hd⟩ := hspec
        rintro ⟨a, w, ha, hr, rfl⟩
        exact .data hs hl hd ha hr
      | inclusion target =>
        obtain ⟨hs, hl, hd⟩ := hspec
        rintro ⟨b, w, hi, hr, rfl⟩
        exact .inclusion hs hl hd hi hr
      | bad misfit => exact fun h => h.elim
    | repetition count =>
      rw [ho] at hspec
      obtain ⟨hs, hl, hopens⟩ := hspec
      rintro ⟨hn, b, w, hb, hr, rfl⟩
      have hall := Yields.repetition hs hl hopens hn hb hr
      rwa [List.takeWhile_append_dropWhile] at hall

/-! ## Lines that say nothing, numbers and levels -/

theorem isSaid_of_said (hs : line.isSkipped = false) : line.isSaid = true := by
  rw [Line.isSaid, hs]
  rfl

theorem isSkipped_of_not_isSaid (h : ¬line.isSaid = true) : line.isSkipped = true := by
  rwa [Line.isSaid, Bool.not_eq_true', Bool.not_eq_false] at h

/-- Lines that say nothing may be left out. -/
theorem Yields.filter (h : Yields r level lines v) :
    Yields r level (lines.filter Line.isSaid) v := by
  induction h with
  | nil => exact .nil
  | @skip _ line _ _ hs _ ih =>
    have hnot : ¬line.isSaid = true := by simp [Line.isSaid, hs]
    rwa [List.filter_cons_of_neg hnot]
  | data hs hl hd ha _ ih =>
    rw [List.filter_cons_of_pos (isSaid_of_said hs)]
    exact .data hs hl hd ha ih
  | inclusion hs hl hd hi _ ih =>
    rw [List.filter_cons_of_pos (isSaid_of_said hs)]
    exact .inclusion hs hl hd hi ih
  | repetition hs hl ho hn _ _ ihb ihr =>
    rw [List.filter_cons_of_pos (isSaid_of_said hs), List.filter_append]
    exact .repetition hs hl ho hn ihb ihr

/-- Lines that say nothing may be put in. -/
theorem Yields.of_filter (h : Yields r level (lines.filter Line.isSaid) v) :
    Yields r level lines v := by
  generalize hsaid : lines.filter Line.isSaid = said at h
  induction h generalizing lines with
  | nil =>
    exact .of_skipped fun line hm =>
      isSkipped_of_not_isSaid (List.filter_eq_nil_iff.mp hsaid line hm)
  | skip hs _ _ =>
    have hm := List.mem_filter.mp (hsaid ▸ List.mem_cons_self)
    rw [Line.isSaid, hs] at hm
    cases hm.2
  | data hs hl hd ha _ ih =>
    obtain ⟨skipped, rest, rfl, hskipped, -, hrest⟩ := List.filter_eq_cons_iff.mp hsaid
    have hbefore := fun line hm => isSkipped_of_not_isSaid (hskipped line hm)
    exact (Yields.of_skipped hbefore).append (.data hs hl hd ha (ih hrest))
  | inclusion hs hl hd hi _ ih =>
    obtain ⟨skipped, rest, rfl, hskipped, -, hrest⟩ := List.filter_eq_cons_iff.mp hsaid
    have hbefore := fun line hm => isSkipped_of_not_isSaid (hskipped line hm)
    exact (Yields.of_skipped hbefore).append (.inclusion hs hl hd hi (ih hrest))
  | repetition hs hl ho hn _ _ ihb ihr =>
    obtain ⟨skipped, later, rfl, hskipped, -, hlater⟩ := List.filter_eq_cons_iff.mp hsaid
    obtain ⟨block, rest, rfl, hblock, hrest⟩ := List.filter_eq_append_iff.mp hlater
    have hbefore := fun line hm => isSkipped_of_not_isSaid (hskipped line hm)
    exact (Yields.of_skipped hbefore).append (.repetition hs hl ho hn (ihb hblock) (ihr hrest))

namespace Yields

theorem eq_of_wording {other : Line} (h : line.wording = other.wording) :
    other = { line with number := other.number } := by
  obtain ⟨hindent, hcontent⟩ := Prod.mk.inj h
  obtain ⟨number, indent, content⟩ := other
  simp only at hindent hcontent
  rw [hindent, hcontent]

/-- **Numbers do not matter.** -/
theorem congr (h : Yields r level lines v) {others : List Line}
    (hsame : others.map Line.wording = lines.map Line.wording) : Yields r level others v := by
  induction h generalizing others with
  | nil =>
    rw [List.map_eq_nil_iff.mp hsame]
    exact .nil
  | skip hs _ ih =>
    obtain ⟨other, rest, rfl, hfirst, hrest⟩ := List.map_eq_cons_iff.mp hsame
    rw [eq_of_wording hfirst.symm]
    exact .skip hs (ih hrest)
  | data hs hl hd ha _ ih =>
    obtain ⟨other, rest, rfl, hfirst, hrest⟩ := List.map_eq_cons_iff.mp hsame
    rw [eq_of_wording hfirst.symm]
    exact .data hs hl hd ha (ih hrest)
  | inclusion hs hl hd hi _ ih =>
    obtain ⟨other, rest, rfl, hfirst, hrest⟩ := List.map_eq_cons_iff.mp hsame
    rw [eq_of_wording hfirst.symm]
    exact .inclusion hs hl hd hi (ih hrest)
  | repetition hs hl ho hn _ _ ihb ihr =>
    obtain ⟨other, later, rfl, hfirst, hlater⟩ := List.map_eq_cons_iff.mp hsame
    rw [List.map_append] at hlater
    obtain ⟨block, rest, rfl, hblock, hrest⟩ := List.map_eq_append_iff.mp hlater
    rw [eq_of_wording hfirst.symm]
    exact .repetition hs hl ho hn (ihb hblock) (ihr hrest)

/-- **A body may stand at another level.** Its lines are moved by `f`, and the levels from that of
the body on by `g`. -/
theorem relevel (f : Line → Line) (g : Nat → Nat) {outer : Nat}
    (hcontent : ∀ line, (f line).content = line.content)
    (hlevel : ∀ line n, outer ≤ n → line.level? = some n → (f line).level? = some (g n))
    (hg : ∀ n, outer ≤ n → g (n + 1) = g n + 1) (ho : outer ≤ level)
    (h : Yields r level lines v) : Yields r (g level) (lines.map f) v := by
  have hskipped (line : Line) : (f line).isSkipped = line.isSkipped := by
    rw [Line.isSkipped, Line.isSkipped, hcontent]
  have hopens (line : Line) : (f line).opens? = line.opens? := by
    rw [Line.opens?, Line.opens?, hcontent]
  induction h with
  | nil => exact .nil
  | skip hs _ ih => exact .skip ((hskipped _).trans hs) (ih ho)
  | data hs hl hd ha _ ih =>
    refine .data ((hskipped _).trans hs) (hlevel _ _ ho hl) ?_ ?_ (ih ho)
    · rw [hcontent, hd]
    · rw [hcontent, ha]
  | inclusion hs hl hd hi _ ih =>
    refine .inclusion ((hskipped _).trans hs) (hlevel _ _ ho hl) ?_ hi (ih ho)
    rw [hcontent, hd]
  | repetition hs hl hopen hn _ _ ihb ihr =>
    have hbody := ihb (Nat.le_succ_of_le ho)
    rw [hg _ ho] at hbody
    rw [List.map_cons, List.map_append]
    exact .repetition ((hskipped _).trans hs) (hlevel _ _ ho hl) ((hopens _).trans hopen) hn hbody
      (ihr ho)

/-- A body may stand a level further out. -/
theorem outdent (h : Yields r (level + 1) lines v) :
    Yields r level (lines.map Line.outdent) v := by
  refine relevel Line.outdent (· - 1) (fun _ => rfl) ?_ ?_ (Nat.le_add_left 1 level) h
  · intro line n hn hl
    obtain ⟨m, rfl⟩ := Nat.exists_eq_add_of_le' hn
    exact Line.level?_outdent hl
  · intro n hn
    omega

/-- A body may stand deeper. -/
theorem indented (levels : Nat) (h : Yields r level lines v) :
    Yields r (level + levels) (lines.map (Line.indented levels)) v :=
  relevel (Line.indented levels) (· + levels) (fun _ => rfl)
    (fun _ _ _ hl => Line.level?_indented levels hl) (fun n _ => Nat.succ_add n levels)
    (Nat.zero_le level) h

/-- Whoever finds more in the lines finds the same in a body that yields something. -/
theorem mono {r' : Reader α} (hdata : ∀ content a, r.data content = some a →
      r'.data content = some a)
    (hincluded : ∀ target b, r.included target = some b → r'.included target = some b)
    (hrepeats : ∀ n, r.repeats n → r'.repeats n) (h : Yields r level lines v) :
    Yields r' level lines v := by
  induction h with
  | nil => exact .nil
  | skip hs _ ih => exact .skip hs ih
  | data hs hl hd ha _ ih => exact .data hs hl hd (hdata _ _ ha) ih
  | inclusion hs hl hd hi _ ih => exact .inclusion hs hl hd (hincluded _ _ hi) ih
  | repetition hs hl ho hn _ _ ihb ihr => exact .repetition hs hl ho (hrepeats _ hn) ihb ihr

/-- Lines that read like copies of a body a level further out yield its values so often. -/
theorem of_copies (h : Yields r (level + 1) block b) (count : Nat)
    (hmiddle : Line.wordings middle =
      Outline.copies count ((block.filter Line.isSaid).map fun line => line.outdent.wording)) :
    Yields r level middle (Outline.copies count b) := by
  have hcopies := h.filter.outdent.copies count
  refine of_filter (hcopies.congr ?_)
  rw [← Line.wordings, hmiddle, map_copies, List.map_map]
  rfl

/-! ## Replacing lines -/

/-- Where the first line of a repetition is not inside a body, the body ends before. -/
theorem takeWhile_of_outside {p : Line → Bool} {opener : Line}
    (h : ¬∀ line ∈ front ++ [opener], p line = true) (back : List Line) :
    (front ++ opener :: back).takeWhile p = front.takeWhile p ∧
      (front ++ opener :: back).dropWhile p = front.dropWhile p ++ opener :: back := by
  induction front with
  | nil =>
    have hp : ¬p opener = true := by simpa using h
    exact ⟨List.takeWhile_cons_of_neg hp, List.dropWhile_cons_of_neg hp⟩
  | cons line front ih =>
    by_cases hp : p line = true
    · have hfront : ¬∀ line ∈ front ++ [opener], p line = true :=
        fun hall => h (List.forall_mem_cons.mpr ⟨hp, hall⟩)
      obtain ⟨htake, hdrop⟩ := ih hfront
      rw [List.cons_append, List.takeWhile_cons_of_pos hp, List.dropWhile_cons_of_pos hp,
        List.takeWhile_cons_of_pos hp, List.dropWhile_cons_of_pos hp, htake, hdrop]
      exact ⟨rfl, rfl⟩
    · rw [List.cons_append, List.takeWhile_cons_of_neg hp, List.dropWhile_cons_of_neg hp,
        List.takeWhile_cons_of_neg hp, List.dropWhile_cons_of_neg hp]
      exact ⟨rfl, rfl⟩

theorem head?_takeWhile_subset {p : Line → Bool} (h : line ∈ (back.takeWhile p).head?) :
    line ∈ back.head? := by
  cases back with
  | nil => exact h
  | cons first back =>
    by_cases hp : p first = true
    · rwa [List.takeWhile_cons_of_pos hp] at h
    · rw [List.takeWhile_cons_of_neg hp] at h
      cases h

/-- **Lines may be replaced** in a body, at any depth: a line that says something, with lines after
it that can only belong to its body. Whatever may come after these has the property `p` in its first
line. The induction is on the number of lines before. A repetition that begins before may have ended
before, and then nothing changes in it; or else the lines are in its body. -/
theorem replace_at {outer : Nat} {opener : Line} {p : Line → Prop} (hs : opener.isSkipped = false)
    (hl : opener.level? = some level) (hblock : ∀ line ∈ block, isInside level line = true)
    (hback : ∀ line ∈ back.head?, p line)
    (hmiddle : ∀ rest w, (∀ line ∈ rest.head?, p line) →
      Yields r level (opener :: (block ++ rest)) w → Yields r level (middle ++ rest) w)
    (h : Yields r outer (front ++ opener :: (block ++ back)) v) :
    Yields r outer (front ++ (middle ++ back)) v := by
  induction hn : front.length using Nat.strongRecOn generalizing outer front back v with
  | ind n ih =>
    cases front with
    | nil =>
      have houter : outer = level := by
        have hhead := h.level_of_head hs
        rw [hl] at hhead
        exact (Option.some.inj hhead).symm
      subst houter
      exact hmiddle back v hback h
    | cons line front =>
      have hfewer : front.length < n := hn ▸ Nat.lt_succ_self _
      have hline := of_opening outer line
      rw [List.cons_append, yields_cons_iff] at h
      cases hopening : opening outer line with
      | nothing item =>
        rw [hopening] at h
        rw [List.cons_append, yields_cons_iff, hopening]
        cases item with
        | skip => exact ih _ hfewer hback h rfl
        | data =>
          obtain ⟨a, w, ha, hr, rfl⟩ := h
          exact ⟨a, w, ha, ih _ hfewer hback hr rfl, rfl⟩
        | inclusion target =>
          obtain ⟨b, w, hi, hr, rfl⟩ := h
          exact ⟨b, w, hi, ih _ hfewer hback hr rfl, rfl⟩
        | bad misfit => exact h.elim
      | repetition count' =>
        rw [hopening] at h hline
        obtain ⟨hs', hl', ho'⟩ := hline
        obtain ⟨hn', b, w, hb, hr, rfl⟩ := h
        by_cases hall : ∀ l ∈ front ++ [opener], isInside outer l = true
        · have hlt : outer < level := by
            have hin := hall opener (List.mem_append_right _ List.mem_cons_self)
            simpa [isInside, hs, hl] using hin
          have hinside : ∀ l ∈ front ++ opener :: block, isInside outer l = true := by
            intro l hm
            rw [List.append_cons] at hm
            rcases List.mem_append.mp hm with hm | hm
            · exact hall l hm
            · exact Outline.isInside_of_lt hlt (hblock l hm)
          have hsplit : front ++ opener :: (block ++ back) =
              (front ++ opener :: block) ++ back := by
            rw [List.append_assoc, List.cons_append]
          rw [hsplit, List.takeWhile_append_of_pos hinside, List.append_assoc,
            List.cons_append] at hb
          rw [hsplit, List.dropWhile_append_of_pos hinside] at hr
          have hbody := ih _ hfewer (fun l hm => hback l (head?_takeWhile_subset hm)) hb rfl
          have hwhole := Yields.repetition hs' hl' ho' hn' hbody hr
          rw [List.append_assoc, List.append_assoc, List.takeWhile_append_dropWhile] at hwhole
          exact hwhole
        · obtain ⟨htake, hdrop⟩ := takeWhile_of_outside hall (block ++ back)
          rw [htake] at hb
          rw [hdrop] at hr
          have hlength := (List.dropWhile_sublist (isInside outer) (l := front)).length_le
          have hnext := ih _ (Nat.lt_of_le_of_lt hlength hfewer) hback hr rfl
          have hwhole := Yields.repetition hs' hl' ho' hn' hb hnext
          rw [← List.append_assoc, List.takeWhile_append_dropWhile] at hwhole
          exact hwhole

/-- **A repetition may be replaced** by lines that yield its values. -/
theorem replace {outer : Nat} {opener : Line} (hs : opener.isSkipped = false)
    (hl : opener.level? = some level) (ho : opener.opens? = some count)
    (hblock : ∀ line ∈ block, isInside level line = true)
    (hback : ∀ line ∈ back.head?, ¬isInside level line = true)
    (hmiddle : ∀ b, Yields r (level + 1) block b → Yields r level middle (Outline.copies count b))
    (h : Yields r outer (front ++ opener :: (block ++ back)) v) :
    Yields r outer (front ++ (middle ++ back)) v := by
  refine replace_at hs hl hblock hback (fun rest w hrest hw => ?_) h
  rw [yields_cons_iff, opening_of_opens hs hl ho] at hw
  obtain ⟨-, b, w, hb, hr, rfl⟩ := hw
  rw [List.takeWhile_append_of_pos hblock, takeWhile_eq_nil hrest, List.append_nil] at hb
  rw [List.dropWhile_append_of_pos hblock, dropWhile_eq_self hrest] at hr
  exact (hmiddle b hb).append hr

/-- **A line that includes a script may be replaced** by lines that yield the values of the
script. -/
theorem replace_inclusion {outer : Nat} {opener : Line} {target : Text}
    (hs : opener.isSkipped = false) (hl : opener.level? = some level)
    (hd : Directive.read opener.content = .inclusion target)
    (hmiddle : ∀ b, r.included target = some b → Yields r level middle b)
    (h : Yields r outer (front ++ opener :: back) v) :
    Yields r outer (front ++ (middle ++ back)) v := by
  have hnothing : ∀ line ∈ ([] : List Line), isInside level line = true :=
    fun line hm => absurd hm List.not_mem_nil
  refine replace_at (p := fun _ => True) hs hl hnothing (fun _ _ => trivial)
    (fun rest w _ hw => ?_) h
  rw [List.nil_append, yields_cons_iff, opening_of_inclusion hs hl hd] at hw
  obtain ⟨b, w, hi, hr, rfl⟩ := hw
  exact (hmiddle b hi).append hr

end Yields

end Outline

end FrameScript
