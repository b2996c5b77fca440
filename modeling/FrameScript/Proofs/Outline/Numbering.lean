import FrameScript.Proofs.Outline.Marking
import FrameScript.Proofs.Outline.Unrolling

/-!
# Numbers beside lines of data

The mark of a line of data is the number of the first frame that the line makes. Marking walks the
outline once and multiplies what a repetition adds; unrolling copies the body. Where every
repetition around a line runs at least once, the first copy holds the first frame of the line, and
before it stand only frames of other lines and of scripts that are included.

`Line.Encloses` says of the lines as they are written which repetitions are around a line, and
`Outline.Repeats` says it of the outline.

## Results

* `encloses_of_repeats`: the repetitions around a line in the outline enclose it as it is written.
* `last_of_markList`: after its marks an outline has as many frames as the total says.
* `exists_first_of_mark`: **the mark of a line of data numbers the first frame of the line.**
* `mark_of_data`: every line of data has a mark with a number.
-/

namespace FrameScript

/-- The count of the repetition that a line opens, if it opens one. -/
def Line.opens? (line : Line) : Option Nat :=
  match Directive.read line.content with
  | .repetition text =>
    match Numeral.readNat text with
    | .value count => some count
    | _ => none
  | _ => none

/-- A repetition of `count` encloses the line: some line further up opens it, and the line and all
between them are deeper than that one. -/
def Line.Encloses (lines : List Line) (count : Nat) (line : Line) : Prop :=
  ∃ before opener between after level,
    lines = before ++ opener :: (between ++ line :: after) ∧ opener.isSkipped = false ∧
      opener.level? = some level ∧ opener.opens? = some count ∧
      ∀ l ∈ between ++ [line], Outline.isInside level l = true

theorem Line.opens?_eq_some {line : Line} {text : Text} {count : Nat}
    (hd : Directive.read line.content = .repetition text)
    (hn : Numeral.readNat text = .value count) : line.opens? = some count := by
  simp only [opens?, hd, hn]

/-- A line asks for one thing only. -/
theorem Line.opens?_of_data {line : Line} (hd : Directive.read line.content = .data) :
    line.opens? = none := by
  simp only [opens?, hd]

theorem Line.opens?_of_inclusion {line : Line} {target : Text}
    (hd : Directive.read line.content = .inclusion target) : line.opens? = none := by
  simp only [opens?, hd]

/-- What encloses a line is opened by one of the lines. -/
theorem Line.Encloses.exists_opener {lines : List Line} {count : Nat} {line : Line}
    (h : Encloses lines count line) : ∃ opener ∈ lines, opener.opens? = some count := by
  obtain ⟨before, opener, between, after, level, rfl, -, -, hopens, -⟩ := h
  exact ⟨opener, List.mem_append_right _ List.mem_cons_self, hopens⟩

theorem Line.encloses_append {lines : List Line} {count : Nat} {line : Line}
    (h : Encloses lines count line) (front back : List Line) :
    Encloses (front ++ lines ++ back) count line := by
  obtain ⟨before, opener, between, after, level, rfl, h⟩ := h
  exact ⟨front ++ before, opener, between, after ++ back, level, by simp, h⟩

theorem Line.encloses_cons {lines : List Line} {count : Nat} {line : Line}
    (h : Encloses lines count line) (first : Line) : Encloses (first :: lines) count line := by
  have hcons := encloses_append h [first] []
  rwa [List.append_nil, List.singleton_append] at hcons

/-- The lines of a text are numbered on from the first. -/
theorem Line.number_measureFrom (first : Nat) (raws : List Text) :
    (measureFrom first raws).map Line.number = List.range' first raws.length := by
  induction raws generalizing first with
  | nil => rfl
  | cons raw rest ih =>
    rw [measureFrom, List.map_cons, ih, List.length_cons, List.range'_succ]
    rfl

namespace Outline

/-! ## Lines of an outline -/

/-- The lines of an outline, from the first to the last. -/
def lines (o : Outline) : List Line :=
  o.steps.filterMap Step.line?

theorem lines_leaf {line : Line} {item : Item} {next : Outline} :
    (leaf line item next).lines = line :: next.lines :=
  rfl

theorem lines_loop {line : Line} {n : Nat} {body next : Outline} :
    (loop line n body next).lines = line :: (body.lines ++ next.lines) := by
  have henter : Step.line? (.enter line n) = some line := rfl
  have hleave : Step.line? (.leave n) = none := rfl
  rw [lines, steps, List.filterMap_cons_some henter, List.filterMap_append,
    List.filterMap_cons_none hleave]
  rfl

theorem mem_lines {o : Outline} {line : Line} {item : Item} (h : .leaf line item ∈ o.steps) :
    line ∈ o.lines :=
  List.mem_filterMap.mpr ⟨_, h, rfl⟩

/-- A repetition of `count` is around the line. -/
def Repeats (count : Nat) (line : Line) : Outline → Prop
  | nil => False
  | leaf _ _ next => Repeats count line next
  | loop _ n body next =>
    (n = count ∧ line ∈ body.lines) ∨ Repeats count line body ∨ Repeats count line next

/-- **The repetitions around a line enclose it** as it is written. -/
theorem encloses_of_repeats {level : Nat} {lines : List Line} {count : Nat} {line : Line}
    (h : (build level lines).Repeats count line) : Line.Encloses lines count line := by
  fun_induction build level lines with
  | case1 => exact h.elim
  | case7 level opener rest hs hl text hd n hn ihb ihn =>
    have hsplit := List.takeWhile_append_dropWhile (p := isInside level) (l := rest)
    rcases h with ⟨rfl, hm⟩ | h | h
    · rw [Outline.lines, lines_steps_build] at hm
      obtain ⟨between, after, htake⟩ := List.append_of_mem hm
      have hrest : rest = between ++ line :: (after ++ rest.dropWhile (isInside level)) := by
        rw [htake, List.append_assoc, List.cons_append] at hsplit
        exact hsplit.symm
      refine ⟨[], opener, between, _, level, congrArg (opener :: ·) hrest,
        Bool.eq_false_iff.mpr hs, hl, Line.opens?_eq_some hd hn, fun l hmem => ?_⟩
      have hinside : l ∈ rest.takeWhile (isInside level) := by
        rw [htake, List.append_cons]
        exact List.mem_append_left after hmem
      exact List.all_eq_true.mp List.all_takeWhile l hinside
    · have hbody := Line.encloses_append (ihb h) [opener] (rest.dropWhile (isInside level))
      rwa [List.append_assoc, hsplit] at hbody
    · have hnext := Line.encloses_append (ihn h)
        (opener :: rest.takeWhile (isInside level)) []
      rwa [List.append_nil, List.cons_append, hsplit] at hnext
  | case2 level line' rest hs ih => exact Line.encloses_cons (ih h) line'
  | case3 level line' rest hs hl hd ih => exact Line.encloses_cons (ih h) line'
  | case4 level line' rest hs hl target hd ih => exact Line.encloses_cons (ih h) line'
  | case5 level line' rest hs hl text hd hn ih => exact Line.encloses_cons (ih h) line'
  | case6 level line' rest hs hl text hd digits hn ih => exact Line.encloses_cons (ih h) line'
  | case8 level line' rest hs hl ih => exact Line.encloses_cons (ih h) line'

/-! ## Frames and their lines -/

variable {data : Line → Except Failure Frame} {included : Line → Text → Except Failure (List Frame)}
  {size : Text → Option Nat}

theorem steps_subset_leaf (line : Line) (item : Item) (next : Outline) :
    next.steps ⊆ (leaf line item next).steps :=
  List.subset_cons_self _ _

theorem body_subset_loop (line : Line) (n : Nat) (body next : Outline) :
    body.steps ⊆ (loop line n body next).steps :=
  fun _ h => List.mem_cons_of_mem _ (List.mem_append_left _ h)

theorem next_subset_loop (line : Line) (n : Nat) (body next : Outline) :
    next.steps ⊆ (loop line n body next).steps :=
  fun _ h => List.mem_cons_of_mem _ (List.mem_append_right _ (List.mem_cons_of_mem _ h))

theorem copies_zero {α : Type} (block : List α) : copies 0 block = [] := by
  cases block <;> rfl

/-- One more copy stands before the others. -/
theorem copies_succ {α : Type} (n : Nat) (block : List α) :
    copies (n + 1) block = block ++ copies n block := by
  unfold copies
  cases block with
  | nil => rfl
  | cons a block => simp [List.replicate_succ]

theorem mem_of_mem_copies {α : Type} {n : Nat} {block : List α} {a : α}
    (h : a ∈ copies n block) : a ∈ block := by
  induction n with
  | zero =>
    rw [copies_zero] at h
    cases h
  | succ n ih =>
    rw [copies_succ] at h
    exact (List.mem_append.mp h).elim id ih

theorem mem_copies {α : Type} {a : α} {n : Nat} {block : List α} (hn : 0 < n) (h : a ∈ block) :
    a ∈ copies n block := by
  obtain ⟨m, rfl⟩ := Nat.exists_eq_succ_of_ne_zero (Nat.ne_of_gt hn)
  rw [copies_succ]
  exact List.mem_append_left _ h

/-- The frame is made by a line of the outline that includes a script or has another number. -/
def MadeApart (data : Line → Except Failure Frame)
    (included : Line → Text → Except Failure (List Frame)) (n : Nat) (o : Outline)
    (frame : Frame) : Prop :=
  ∃ line item, .leaf line item ∈ o.steps ∧ frame ∈ Item.frames data included line item ∧
    (item = .data → line.number ≠ n)

theorem MadeApart.mono {n : Nat} {o o' : Outline} {frame : Frame} (hsub : o.steps ⊆ o'.steps)
    (h : MadeApart data included n o frame) : MadeApart data included n o' frame := by
  obtain ⟨line, item, hstep, h⟩ := h
  exact ⟨line, item, hsub hstep, h⟩

/-- Every frame is made by a line that opens no body. -/
theorem exists_leaf_of_mem_unroll {o : Outline} {frame : Frame}
    (h : frame ∈ o.unroll data included) :
    ∃ line item, .leaf line item ∈ o.steps ∧ frame ∈ Item.frames data included line item := by
  induction o with
  | nil => exact absurd h List.not_mem_nil
  | leaf line item next ih =>
    rcases List.mem_append.mp h with h | h
    · exact ⟨line, item, List.mem_cons_self, h⟩
    · obtain ⟨l, i, hstep, hf⟩ := ih h
      exact ⟨l, i, steps_subset_leaf line item next hstep, hf⟩
  | loop line n body next ihb ihn =>
    rcases List.mem_append.mp h with h | h
    · obtain ⟨l, i, hstep, hf⟩ := ihb (mem_of_mem_copies h)
      exact ⟨l, i, body_subset_loop line n body next hstep, hf⟩
    · obtain ⟨l, i, hstep, hf⟩ := ihn h
      exact ⟨l, i, next_subset_loop line n body next hstep, hf⟩

/-- Where no line has the number, every frame is made apart from it. -/
theorem madeApart_of_not_mem {n : Nat} {o : Outline} {frame : Frame}
    (hn : n ∉ o.lines.map Line.number) (h : frame ∈ o.unroll data included) :
    MadeApart data included n o frame := by
  obtain ⟨line, item, hstep, hf⟩ := exists_leaf_of_mem_unroll h
  refine ⟨line, item, hstep, hf, fun _ he => hn ?_⟩
  exact List.mem_map.mpr ⟨line, mem_lines hstep, he⟩

/-! ## Marks and frames -/

/-- After its marks an outline has as many frames as the total says. -/
theorem last_of_markList (position : Nat) (o : Outline) :
    (o.markList size position).2 = position + o.total (knownSize size) := by
  induction o generalizing position with
  | nil => rfl
  | leaf line item next ih => rw [markList, ih, total, Nat.add_assoc]
  | loop line n body next ihb ihn =>
    rw [markList, ihn, ihb, total, Nat.add_sub_cancel_left, Nat.add_assoc]

/-- The lines of data can be read, and the scripts that are included can be and have as many frames
as `size` says. -/
structure Known (data : Line → Except Failure Frame)
    (included : Line → Text → Except Failure (List Frame)) (size : Text → Option Nat)
    (o : Outline) : Prop where
  data : ∀ line, .leaf line .data ∈ o.steps → ∃ frame, data line = .ok frame
  included : ∀ line target, .leaf line (.inclusion target) ∈ o.steps →
    ∃ frames, included line target = .ok frames ∧ size target = some frames.length

theorem Known.mono {o o' : Outline} (hsub : o.steps ⊆ o'.steps)
    (h : Known data included size o') : Known data included size o :=
  ⟨fun line hl => h.data line (hsub hl), fun line target ht => h.included line target (hsub ht)⟩

theorem Known.length_unroll {o : Outline} (h : Known data included size o) :
    (o.unroll data included).length = o.total (knownSize size) := by
  refine Outline.length_unroll h.data fun line target ht => ?_
  obtain ⟨frames, hf, hs⟩ := h.included line target ht
  exact ⟨frames, hf, by rw [knownSize, hs, Option.getD_some]⟩

theorem Known.length_frames {o : Outline} (h : Known data included size o) (line : Line)
    (item : Item) (hstep : .leaf line item ∈ o.steps) :
    (Item.frames data included line item).length = item.size (knownSize size) := by
  cases item with
  | data =>
    obtain ⟨frame, hf⟩ := h.data line hstep
    rw [Item.frames, hf]
    rfl
  | inclusion target =>
    obtain ⟨frames, hf, hs⟩ := h.included line target hstep
    rw [Item.frames, hf, Item.size, knownSize, hs]
    rfl
  | _ => rfl

/-- The frame that a line of data with the number `n` makes stands first among those of the line,
and `place` frames stand before it. -/
def FirstAt (data : Line → Except Failure Frame)
    (included : Line → Text → Except Failure (List Frame)) (n place : Nat) (o : Outline) : Prop :=
  ∃ line frame before after, .leaf line .data ∈ o.steps ∧ line.number = n ∧
    data line = .ok frame ∧ o.unroll data included = before ++ frame :: after ∧
    before.length = place ∧ ∀ f ∈ before, MadeApart data included n o f

theorem FirstAt.mem_numbers {n place : Nat} {o : Outline} (h : FirstAt data included n place o) :
    n ∈ o.lines.map Line.number := by
  obtain ⟨line, frame, before, after, hstep, hn, -⟩ := h
  exact List.mem_map.mpr ⟨line, mem_lines hstep, hn⟩

/-- Frames that are made apart from the line may stand before. -/
theorem FirstAt.after {n place : Nat} {o o' : Outline} {front : List Frame}
    (h : FirstAt data included n place o) (hsub : o.steps ⊆ o'.steps)
    (hunroll : o'.unroll data included = front ++ o.unroll data included)
    (hfront : ∀ f ∈ front, MadeApart data included n o' f) :
    FirstAt data included n (front.length + place) o' := by
  obtain ⟨line, frame, before, after, hstep, hn, hd, hu, hlength, hbefore⟩ := h
  refine ⟨line, frame, front ++ before, after, hsub hstep, hn, hd, ?_, ?_, fun f hf => ?_⟩
  · rw [hunroll, hu, List.append_assoc]
  · rw [List.length_append, hlength]
  · rcases List.mem_append.mp hf with hf | hf
    · exact hfront f hf
    · exact (hbefore f hf).mono hsub

/-- More frames may follow. -/
theorem FirstAt.before {n place : Nat} {o o' : Outline} {back : List Frame}
    (h : FirstAt data included n place o) (hsub : o.steps ⊆ o'.steps)
    (hunroll : o'.unroll data included = o.unroll data included ++ back) :
    FirstAt data included n place o' := by
  obtain ⟨line, frame, before, after, hstep, hn, hd, hu, hlength, hbefore⟩ := h
  refine ⟨line, frame, before, after ++ back, hsub hstep, hn, hd, ?_, hlength,
    fun f hf => (hbefore f hf).mono hsub⟩
  rw [hunroll, hu, List.append_assoc, List.cons_append]

/-- A line of data makes its frame at once. -/
theorem firstAt_data {line : Line} {next : Outline}
    (h : Known data included size (leaf line .data next)) :
    FirstAt data included line.number 0 (leaf line .data next) := by
  obtain ⟨frame, hf⟩ := h.data line List.mem_cons_self
  refine ⟨line, frame, [], next.unroll data included, List.mem_cons_self, rfl, hf, ?_, rfl,
    fun f hm => absurd hm List.not_mem_nil⟩
  rw [unroll, Item.frames, hf]
  rfl

/-- **The mark of a line of data numbers the first frame of the line**, if every repetition around
the line runs at least once. The induction is on the outline. The frames before the line, in the
lines above it and in the repetitions that have ended, are made apart from it because no two lines
have the same number; in the repetitions around it only the first copy counts. -/
theorem exists_first_of_mark {o : Outline} {position : Nat} {mark : Mark}
    (h : Known data included size o) (hnodup : (o.lines.map Line.number).Nodup)
    (hmark : mark ∈ (o.markList size position).1) (hkind : mark.kind = .data)
    (hruns : ∀ count line, line.number = mark.number → o.Repeats count line → 1 ≤ count) :
    ∃ place, mark.value = some (position + place + 1) ∧
      FirstAt data included mark.number place o := by
  induction o generalizing position with
  | nil => exact absurd hmark List.not_mem_nil
  | leaf line item next ih =>
    rw [lines_leaf, List.map_cons, List.nodup_cons] at hnodup
    have hsub := steps_subset_leaf line item next
    rcases List.mem_cons.mp hmark with rfl | hmark
    · cases item with
      | data => exact ⟨0, rfl, firstAt_data h⟩
      | skip =>
        rw [Mark.ofItem, Mark.ofSkipped] at hkind
        split at hkind <;> cases hkind
      | inclusion target =>
        rw [Mark.ofItem] at hkind
        split at hkind <;> cases hkind
      | bad misfit => cases hkind
    · obtain ⟨place, hvalue, hfirst⟩ := ih (h.mono hsub) hnodup.2 hmark hruns
      have hlength := h.length_frames line item List.mem_cons_self
      refine ⟨item.size (knownSize size) + place, by rw [hvalue, Nat.add_assoc position], ?_⟩
      rw [← hlength]
      refine hfirst.after hsub rfl fun f hf =>
        ⟨line, item, List.mem_cons_self, hf, fun _ he => ?_⟩
      exact hnodup.1 (he ▸ hfirst.mem_numbers)
  | loop line n body next ihb ihn =>
    rw [lines_loop, List.map_cons, List.map_append, List.nodup_cons, List.nodup_append] at hnodup
    obtain ⟨-, hbody, hnext, hdisjoint⟩ := hnodup
    have hsubb := body_subset_loop line n body next
    have hsubn := next_subset_loop line n body next
    rcases List.mem_cons.mp hmark with rfl | hmark
    · cases hkind
    · rcases List.mem_append.mp hmark with hmark | hmark
      · obtain ⟨place, hvalue, hfirst⟩ := ihb (h.mono hsubb) hbody hmark
          fun count l hl hr => hruns count l hl (Or.inr (Or.inl hr))
        obtain ⟨l, hl, hnumber⟩ := List.mem_map.mp hfirst.mem_numbers
        have hn : 1 ≤ n := hruns n l hnumber (Or.inl ⟨rfl, hl⟩)
        obtain ⟨m, rfl⟩ : ∃ m, n = m + 1 := ⟨n - 1, (Nat.sub_add_cancel hn).symm⟩
        have hcopies : (loop line (m + 1) body next).unroll data included =
            body.unroll data included ++
              (copies m (body.unroll data included) ++ next.unroll data included) := by
          rw [unroll, copies_succ, List.append_assoc]
        exact ⟨place, hvalue, hfirst.before hsubb hcopies⟩
      · obtain ⟨place, hvalue, hfirst⟩ := ihn (h.mono hsubn) hnext hmark
          fun count l hl hr => hruns count l hl (Or.inr (Or.inr hr))
        have hlength : (copies n (body.unroll data included)).length =
            n * ((body.markList size position).2 - position) := by
          rw [length_copies, (h.mono hsubb).length_unroll, last_of_markList,
            Nat.add_sub_cancel_left]
        refine ⟨n * ((body.markList size position).2 - position) + place,
          by rw [hvalue, Nat.add_assoc position], ?_⟩
        rw [← hlength]
        refine hfirst.after hsubn rfl fun f hf => ?_
        refine (madeApart_of_not_mem (fun hmem => ?_) (mem_of_mem_copies hf)).mono hsubb
        exact hdisjoint _ hmem _ hfirst.mem_numbers rfl

/-- **Every line of data has a mark with a number.** -/
theorem mark_of_data {o : Outline} {line : Line} (position : Nat)
    (h : .leaf line .data ∈ o.steps) :
    ∃ value, ⟨line.number, .data, some value⟩ ∈ (o.markList size position).1 := by
  induction o generalizing position with
  | nil => exact absurd h List.not_mem_nil
  | leaf line' item next ih =>
    rcases List.mem_cons.mp h with he | h
    · cases he
      exact ⟨position + 1, List.mem_cons_self⟩
    · obtain ⟨value, hm⟩ := ih (position + item.size (knownSize size)) h
      exact ⟨value, List.mem_cons_of_mem _ hm⟩
  | loop line' n body next ihb ihn =>
    rw [steps, List.mem_cons, List.mem_append, List.mem_cons] at h
    rcases h with he | h | he | h
    · cases he
    · obtain ⟨value, hm⟩ := ihb position h
      exact ⟨value, List.mem_cons_of_mem _ (List.mem_append_left _ hm)⟩
    · cases he
    · obtain ⟨value, hm⟩ := ihn _ h
      exact ⟨value, List.mem_cons_of_mem _ (List.mem_append_right _ hm)⟩

end Outline

end FrameScript
