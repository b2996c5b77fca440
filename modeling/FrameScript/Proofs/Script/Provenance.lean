import FrameScript.Proofs.Annotation
import FrameScript.Proofs.Nesting
import FrameScript.Proofs.Script.Calls
import Mathlib.Algebra.Group.Nat.Defs

/-!
# How many frames come from a line

No line of data is lost and none is read twice: a line of data makes one frame for each way to run
through the repetitions around it. The repetitions around a line are told twice, by the outline
(`Outline.around`) and by the lines as they are written (`Line.enclosing`), and the two agree where
every line fits.

The frames of a line are found by their place. What else is in the script comes from other lines or,
by inclusion, from other files, since a file that can be read does not lead back to itself.

## Results

* `countP_unroll`: a line of data makes as many frames as the repetitions around it say.
* `around_build`: the repetitions around a line in the outline are those that enclose it as it is
  written.
* `frames_come_from_lines`: **every frame is what a line of data writes, and every line of data of
  a file has as many frames as the product of the counts of the repetitions that enclose it.**
-/

namespace FrameScript

namespace Line

/-- The level of the line and the count of the repetition, if the line opens one. -/
def opener? (line : Line) : Option (Nat × Nat) :=
  if line.isSkipped then none
  else
    match line.level?, line.opens? with
    | some level, some count => some (level, count)
    | _, _ => none

/-- The counts of the repetitions that enclose the line with the number `n`, outermost first. A
repetition encloses the lines after the one that opens it, up to the first that is not deeper. -/
def enclosing (n : Nat) : List Line → List Nat
  | [] => []
  | line :: rest =>
    match line.opener? with
    | none => enclosing n rest
    | some (level, count) =>
      if n ∈ (rest.takeWhile (Outline.isInside level)).map number then count :: enclosing n rest
      else enclosing n rest

variable {line : Line} {lines front back : List Line} {n level count : Nat}

theorem opener?_eq_some (hs : line.isSkipped = false) (hl : line.level? = some level)
    (ho : line.opens? = some count) : line.opener? = some (level, count) := by
  simp only [opener?, hs, hl, ho, Bool.false_eq_true, if_false]

theorem level_of_opener? (h : line.opener? = some (level, count)) :
    line.isSkipped = false ∧ line.level? = some level := by
  unfold opener? at h
  split at h
  · cases h
  · rename_i hs
    split at h
    · rename_i hl _
      cases h
      exact ⟨Bool.eq_false_iff.mpr hs, hl⟩
    · cases h

theorem opens?_of_opener? (h : line.opener? = some (level, count)) : line.opens? = some count := by
  unfold opener? at h
  split at h
  · cases h
  · split at h
    · rename_i ho
      cases h
      exact ho
    · cases h

/-- A line that asks for data or a script opens nothing, and neither does one that says nothing. -/
theorem opener?_eq_none (h : line.isSkipped = true ∨ line.opens? = none) :
    line.opener? = none := by
  unfold opener?
  split
  · rfl
  · rename_i hs
    rcases h with h | h
    · exact absurd h hs
    · rw [h]
      split
      · rename_i heq
        cases heq
      · rfl

theorem enclosing_of_opener?_eq_none (h : line.opener? = none) :
    enclosing n (line :: lines) = enclosing n lines := by
  rw [enclosing, h]

theorem enclosing_of_mem (h : line.opener? = some (level, count))
    (hn : n ∈ (lines.takeWhile (Outline.isInside level)).map number) :
    enclosing n (line :: lines) = count :: enclosing n lines := by
  rw [enclosing, h]
  exact if_pos hn

theorem enclosing_of_not_mem (h : line.opener? = some (level, count))
    (hn : n ∉ (lines.takeWhile (Outline.isInside level)).map number) :
    enclosing n (line :: lines) = enclosing n lines := by
  rw [enclosing, h]
  exact if_neg hn

/-- Nothing encloses a line that is not there. -/
theorem enclosing_eq_nil (h : n ∉ lines.map number) : enclosing n lines = [] := by
  induction lines with
  | nil => rfl
  | cons line rest ih =>
    rw [List.map_cons, List.mem_cons, not_or] at h
    cases ho : line.opener? with
    | none => rw [enclosing_of_opener?_eq_none ho, ih h.2]
    | some found =>
      rw [enclosing_of_not_mem ho, ih h.2]
      exact fun hm => h.2 (List.map_subset _ (List.takeWhile_sublist _).subset hm)

theorem mem_map_takeWhile_append {p : Line → Bool} (h : n ∉ back.map number) :
    n ∈ ((front ++ back).takeWhile p).map number ↔ n ∈ (front.takeWhile p).map number := by
  rw [List.takeWhile_append]
  split
  · rename_i hall
    have hfront : front.takeWhile p = front :=
      (List.takeWhile_sublist p).eq_of_length hall
    rw [List.map_append, List.mem_append, hfront]
    refine or_iff_left fun hm => h ?_
    exact List.map_subset _ (List.takeWhile_sublist _).subset hm
  · rfl

/-- What stands after a line does not enclose it. -/
theorem enclosing_append_left (h : n ∉ back.map number) :
    enclosing n (front ++ back) = enclosing n front := by
  induction front with
  | nil => exact enclosing_eq_nil h
  | cons line front ih =>
    rw [List.cons_append]
    cases ho : line.opener? with
    | none => rw [enclosing_of_opener?_eq_none ho, enclosing_of_opener?_eq_none ho, ih]
    | some found =>
      by_cases hm : n ∈ (front.takeWhile (Outline.isInside found.1)).map number
      · rw [enclosing_of_mem ho hm, enclosing_of_mem ho ((mem_map_takeWhile_append h).mpr hm), ih]
      · rw [enclosing_of_not_mem ho hm,
          enclosing_of_not_mem ho fun hm' => hm ((mem_map_takeWhile_append h).mp hm'), ih]

/-- What stands in a body that has ended encloses nothing after it. -/
theorem enclosing_append_right (h : n ∉ front.map number)
    (hfront : ∀ line ∈ front, Outline.isInside level line = true)
    (hback : ∀ line ∈ back.head?, ¬Outline.isInside level line = true) :
    enclosing n (front ++ back) = enclosing n back := by
  induction front with
  | nil => rfl
  | cons line front ih =>
    rw [List.map_cons, List.mem_cons, not_or] at h
    obtain ⟨hin, hfront⟩ := List.forall_mem_cons.mp hfront
    have hrest := ih h.2 hfront
    rw [List.cons_append]
    cases ho : line.opener? with
    | none => rw [enclosing_of_opener?_eq_none ho, hrest]
    | some found =>
      obtain ⟨deeper, count⟩ := found
      obtain ⟨hs, hl⟩ := level_of_opener? ho
      have hlt : level < deeper := by simpa [Outline.isInside, hs, hl] using hin
      have hend : back.takeWhile (Outline.isInside deeper) = [] :=
        Outline.takeWhile_eq_nil fun l hm hin' => hback l hm (Outline.isInside_of_lt hlt hin')
      have hnot : n ∉ ((front ++ back).takeWhile (Outline.isInside deeper)).map number := by
        intro hm
        refine h.2 (List.map_subset _ ?_ hm)
        rw [List.takeWhile_append]
        split
        · rw [hend, List.append_nil]
          exact List.Subset.refl _
        · exact (List.takeWhile_sublist _).subset
      rw [enclosing_of_not_mem ho hnot, hrest]

end Line

namespace Outline

/-! ## The repetitions around a line -/

/-- The counts of the repetitions around the line with the number `n`, outermost first. -/
def around (n : Nat) : Outline → List Nat
  | nil => []
  | leaf _ _ next => around n next
  | loop _ count body next =>
    if n ∈ body.lines.map Line.number then count :: around n body else around n next

variable {o : Outline} {n level : Nat} {lines : List Line}

theorem Fits.mono {o' : Outline} (hsub : o.steps ⊆ o'.steps) (h : o'.Fits) : o.Fits :=
  fun line misfit hm => h line misfit (hsub hm)

/-- Nothing is around a line that is not there. -/
theorem around_eq_nil (h : n ∉ o.lines.map Line.number) : o.around n = [] := by
  induction o with
  | nil => rfl
  | leaf line item next ih =>
    rw [lines_leaf, List.map_cons, List.mem_cons, not_or] at h
    exact ih h.2
  | loop line count body next ihb ihn =>
    rw [lines_loop, List.map_cons, List.map_append, List.mem_cons, List.mem_append, not_or,
      not_or] at h
    rw [around, if_neg h.2.1, ihn h.2.2]

/-- **The repetitions around a line are those that enclose it** as it is written, where every line
fits and no two lines have the same number. -/
theorem around_build (hfits : (build level lines).Fits) (hnodup : (lines.map Line.number).Nodup) :
    (build level lines).around n = Line.enclosing n lines := by
  fun_induction build level lines with
  | case1 => rfl
  | case2 level line rest hs ih =>
    rw [around, Line.enclosing_of_opener?_eq_none (Line.opener?_eq_none (Or.inl hs))]
    exact ih (hfits.mono (steps_subset_leaf _ _ _)) (List.nodup_cons.mp hnodup).2
  | case3 level line rest hs hl hd ih =>
    have hopens := Line.opens?_of_data hd
    rw [around, Line.enclosing_of_opener?_eq_none (Line.opener?_eq_none (Or.inr hopens))]
    exact ih (hfits.mono (steps_subset_leaf _ _ _)) (List.nodup_cons.mp hnodup).2
  | case4 level line rest hs hl target hd ih =>
    have hopens := Line.opens?_of_inclusion hd
    rw [around, Line.enclosing_of_opener?_eq_none (Line.opener?_eq_none (Or.inr hopens))]
    exact ih (hfits.mono (steps_subset_leaf _ _ _)) (List.nodup_cons.mp hnodup).2
  | case5 | case6 | case8 => exact absurd List.mem_cons_self (hfits _ _)
  | case7 level line rest hs hl text hd count hread ihb ihn =>
    have hopener := Line.opener?_eq_some (Bool.eq_false_iff.mpr hs) hl
      (Line.opens?_eq_some hd hread)
    have hsplit := List.takeWhile_append_dropWhile (p := isInside level) (l := rest)
    have hbody : (build (level + 1) (rest.takeWhile (isInside level))).lines =
        rest.takeWhile (isInside level) := lines_steps_build _ _
    have hrest := (List.nodup_cons.mp hnodup).2
    rw [← hsplit, List.map_append, List.nodup_append] at hrest
    obtain ⟨htake, hdrop, hapart⟩ := hrest
    rw [around, hbody]
    by_cases hn : n ∈ (rest.takeWhile (isInside level)).map Line.number
    · have hleft : Line.enclosing n (rest.takeWhile (isInside level) ++
          rest.dropWhile (isInside level)) = Line.enclosing n (rest.takeWhile (isInside level)) :=
        Line.enclosing_append_left fun hn' => hapart n hn n hn' rfl
      rw [hsplit] at hleft
      rw [if_pos hn, Line.enclosing_of_mem hopener hn, hleft,
        ihb (hfits.mono (body_subset_loop _ _ _ _)) htake]
    · have hright := Line.enclosing_append_right hn
        (fun _ => List.mem_takeWhile_imp) (head_of_dropWhile _ rest)
      rw [hsplit] at hright
      rw [if_neg hn, Line.enclosing_of_not_mem hopener hn, hright,
        ihn (hfits.mono (next_subset_loop _ _ _ _)) hdrop]

variable {data : Line → Except Failure Frame}
  {included : Line → Text → Except Failure (List Frame)} {p : Frame → Bool}

/-- The frames that satisfy `p` are those that the line of data with the number `n` makes. -/
def Picks (data : Line → Except Failure Frame)
    (included : Line → Text → Except Failure (List Frame)) (n : Nat) (p : Frame → Bool)
    (o : Outline) : Prop :=
  ∀ line item, .leaf line item ∈ o.steps →
    (Item.frames data included line item).countP p =
      if item = .data ∧ line.number = n then 1 else 0

theorem Picks.mono {o' : Outline} (hsub : o.steps ⊆ o'.steps) (h : Picks data included n p o') :
    Picks data included n p o :=
  fun line item hstep => h line item (hsub hstep)

theorem countP_copies {α : Type} (p : α → Bool) (n : Nat) (block : List α) :
    (copies n block).countP p = n * block.countP p := by
  induction n with
  | zero => rw [copies_zero, List.countP_nil, Nat.zero_mul]
  | succ n ih => rw [copies_succ, List.countP_append, ih, Nat.succ_mul, Nat.add_comm]

/-- A line that is not there makes no frames. -/
theorem countP_unroll_eq_zero (h : Picks data included n p o)
    (hn : n ∉ o.lines.map Line.number) : (o.unroll data included).countP p = 0 := by
  refine List.countP_eq_zero.mpr fun frame hf hp => ?_
  obtain ⟨line, item, hstep, hf⟩ := exists_leaf_of_mem_unroll hf
  have hcount := h line item hstep
  rw [if_neg fun hline => hn (List.mem_map.mpr ⟨line, mem_lines hstep, hline.2⟩)] at hcount
  exact List.countP_eq_zero.mp hcount frame hf hp

/-- **A line of data makes as many frames as the repetitions around it say.** -/
theorem countP_unroll {line : Line} (h : Picks data included line.number p o)
    (hnodup : (o.lines.map Line.number).Nodup) (hstep : .leaf line .data ∈ o.steps) :
    (o.unroll data included).countP p = (o.around line.number).prod := by
  induction o with
  | nil => exact absurd hstep List.not_mem_nil
  | leaf first item next ih =>
    have hnext := h.mono (steps_subset_leaf first item next)
    rw [lines_leaf, List.map_cons, List.nodup_cons] at hnodup
    rw [unroll, List.countP_append, h first item List.mem_cons_self, around]
    rcases List.mem_cons.mp hstep with hsame | hstep
    · cases hsame
      rw [if_pos ⟨rfl, rfl⟩, countP_unroll_eq_zero hnext hnodup.1, around_eq_nil hnodup.1]
      rfl
    · have hne : first.number ≠ line.number := fun he =>
        hnodup.1 (he ▸ List.mem_map_of_mem (mem_lines hstep))
      rw [if_neg fun hline => hne hline.2, Nat.zero_add, ih hnext hnodup.2 hstep]
  | loop first count body next ihb ihn =>
    have hbody := h.mono (body_subset_loop first count body next)
    have hnext := h.mono (next_subset_loop first count body next)
    rw [lines_loop, List.map_cons, List.map_append, List.nodup_cons, List.nodup_append] at hnodup
    obtain ⟨-, hnodupb, hnodupn, hapart⟩ := hnodup
    rw [unroll, List.countP_append, countP_copies, around]
    rw [steps, List.mem_cons, List.mem_append, List.mem_cons] at hstep
    rcases hstep with hsame | hstep | hsame | hstep
    · cases hsame
    · have hn : line.number ∈ body.lines.map Line.number :=
        List.mem_map_of_mem (mem_lines hstep)
      have hlater : line.number ∉ next.lines.map Line.number := fun hn' => hapart _ hn _ hn' rfl
      rw [countP_unroll_eq_zero hnext hlater, ihb hbody hnodupb hstep, if_pos hn, List.prod_cons,
        Nat.add_zero]
    · cases hsame
    · have hn : line.number ∈ next.lines.map Line.number :=
        List.mem_map_of_mem (mem_lines hstep)
      have hearlier : line.number ∉ body.lines.map Line.number :=
        fun hn' => hapart _ hn' _ hn rfl
      rw [countP_unroll_eq_zero hbody hearlier, ihn hnext hnodupn hstep, if_neg hearlier,
        Nat.mul_zero, Nat.zero_add]

end Outline

namespace Script

open Outline Reading

variable {disk : Disk} {chain : List Path} {p : Path} {script : Script}

/-! ## Frames by their place -/

/-- The frames with the place of a line are those that the line makes, since what the file includes
does not lead back to it. -/
theorem picks_place {header : Header} {text : Text} (hd : disk.IsWritten) (hp : p.IsNamed)
    (h : plainAt disk chain p = .ok script) (hs : disk.source p = .ok text)
    (hnone : (outlineOf (Text.lines text)).steps.findSome? (Step.halt (some p.text)
      (plainData (some p.text) header.format)
      (plainInclusion disk (some p.text) p.parent.location (HeaderLines.find (Text.lines text))
        (plainAt disk (p :: chain)))) = none) (n : Nat) :
    Picks (plainData (some p.text) header.format)
      (plainInclusion disk (some p.text) p.parent.location (HeaderLines.find (Text.lines text))
        (plainAt disk (p :: chain))) n (fun frame => frame.place = ⟨some p.text, some n⟩)
      (outlineOf (Text.lines text)) := by
  intro line item hstep
  by_cases hline : item = .data ∧ line.number = n
  · obtain ⟨rfl, rfl⟩ := hline
    obtain ⟨frame, hframe⟩ := ok_of_halt_data (List.findSome?_eq_none_iff.mp hnone _ hstep)
    rw [Item.frames, hframe, if_pos ⟨rfl, rfl⟩]
    exact List.countP_eq_length.mpr fun made hm => by
      rw [List.mem_singleton.mp hm, decide_eq_true_iff]
      exact place_of_plainData hframe
  · rw [if_neg hline]
    refine List.countP_eq_zero.mpr fun frame hf hplace => ?_
    have hapart : MadeApart (plainData (some p.text) header.format)
        (plainInclusion disk (some p.text) p.parent.location (HeaderLines.find (Text.lines text))
          (plainAt disk (p :: chain))) n (outlineOf (Text.lines text)) frame :=
      ⟨line, item, hstep, hf, fun hdata hnumber => hline ⟨hdata, hnumber⟩⟩
    exact place_ne_of_madeApart hd hp h hs hapart (of_decide_eq_true hplace)

/-- **No line of data is lost, and none is read twice.** Every frame of a file that can be read is
what a line of data writes, of that file or of one to which it leads, by the format of the file in
which the line stands, and has the place of the line. And of every line of data of the file itself
there are as many frames as the product of the counts of the repetitions that enclose it. -/
theorem frames_come_from_lines (disk : Disk) (hd : disk.IsWritten) {path : Text} {p : Path}
    (hp : disk.canonical (Location.read path) = p) {typed : Bool} {script : Script}
    (earlier : List Call)
    (h : outcome (parseFile disk (Location.read path) typed (answers disk earlier .empty).2) =
      .ok script) :
    (∀ frame ∈ script.frames, ∃ q text header line,
      Relation.ReflTransGen (Includes disk) p q ∧ Origin disk q frame text header line ∧
        frame.place = ⟨some q.text, some line.number⟩) ∧
    ∃ text, disk.source p = .ok text ∧ ∀ line ∈ bodyOf (Text.lines text),
      line.isSkipped = false → Directive.read line.content = .data →
      script.frames.countP (fun frame => frame.place = ⟨some p.text, some line.number⟩) =
        (Line.enclosing line.number (bodyOf (Text.lines text))).prod := by
  have hnamed : p.IsNamed := hp ▸ Disk.isNamed_canonical hd (Location.isWritten_read path)
  have hsound := sound_answers disk earlier
  have hplain : plainAt disk [] p = .ok script :=
    hp ▸ plainAt_of_typed ((gives_parseFile_typed _ typed _ hsound).1.symm.trans h)
  refine ⟨fun frame hf => ?_, ?_⟩
  · obtain ⟨q, text, header, line, hlead, ho⟩ := exists_origin hplain hf
    exact ⟨q, text, header, line, hlead, ho, ho.place⟩
  · obtain ⟨hc, text, hs⟩ := source_of_ok hplain
    obtain ⟨header, -, hnone, hscript⟩ := plainLines_ok (plainAt_of_ok hc hs ▸ hplain)
    have hfits := fits_of_findSome? hnone
    have hnodup : ((bodyOf (Text.lines text)).map Line.number).Nodup := by
      rw [bodyOf, Line.number_measureFrom]
      exact List.nodup_range'
    refine ⟨text, hs, fun line hm hsaid hdata => ?_⟩
    have hstep := stepFor_of_fits hfits hm hsaid
    rw [hdata] at hstep
    have haround : (outlineOf (Text.lines text)).around line.number =
        Line.enclosing line.number (bodyOf (Text.lines text)) := around_build hfits hnodup
    rw [hscript, ← haround]
    exact countP_unroll (picks_place hd hnamed hplain hs hnone line.number) (nodup_numbers _) hstep

/-- The fifth line of the file is in both repetitions, and makes six frames. The file has been read
before. -/
theorem frames_come_from_lines_nested :
    nestedDisk.IsWritten ∧ nestedDisk.canonical (Location.read "main".toList) = nestedPath ∧
      ∃ script, outcome (parseFile nestedDisk (Location.read "main".toList) false
          (answers nestedDisk [.file (Location.read "main".toList) false] .empty).2) =
        .ok script ∧
        script.frames.countP (fun frame => frame.place = ⟨some nestedPath.text, some 5⟩) = 6 := by
  have hd : nestedDisk.IsWritten := by
    refine Disk.isWritten_put (Disk.isWritten_empty fun name hm => ?_) fun target he => by cases he
    rw [List.mem_singleton.mp hm]
    exact ⟨⟨by decide, by decide⟩, by decide, by decide⟩
  have hlinks : nestedDisk.links = [] := by decide +kernel
  have hp : nestedDisk.canonical (Location.read "main".toList) = nestedPath :=
    (Disk.follow_of_no_links hlinks (by decide)).trans (by decide)
  have hread : (plainAt nestedDisk [] nestedPath).toOption.isSome = true := by decide +kernel
  have hsource : (nestedDisk.source nestedPath).toOption = some nestedText := by decide +kernel
  have hline : ⟨5, 8, ['.']⟩ ∈ bodyOf (Text.lines nestedText) := by decide +kernel
  have hproduct : (Line.enclosing 5 (bodyOf (Text.lines nestedText))).prod = 6 := by
    decide +kernel
  obtain ⟨script, h⟩ : ∃ script, outcome (parseFile nestedDisk (Location.read "main".toList) false
      (answers nestedDisk [.file (Location.read "main".toList) false] .empty).2) = .ok script := by
    rw [(gives_parseFile_typed _ false _ (sound_answers _ _)).1,
      plainFileTyped_false, plainFile, if_pos (by decide), hp]
    exact exists_ok_of_isSome hread
  obtain ⟨-, text, hs, hall⟩ := frames_come_from_lines nestedDisk hd hp _ h
  rw [hs] at hsource
  obtain rfl : text = nestedText := Option.some.inj hsource
  exact ⟨hd, hp, script, h, (hall _ hline (by decide) (by decide)).trans hproduct⟩

end Script

end FrameScript
