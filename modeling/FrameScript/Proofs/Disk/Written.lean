import FrameScript.Disk.Change

/-!
# Paths and their texts

A canonical path is told by its text, and its text can be read back, because the names on it are
such as a written path can have: not empty, without a slash, and no dots that stay or go up. On a
disk of which the links were written, every location that was written leads to a path of this kind.

## Results

* `Text.split_join`: pieces without the mark are what lies between the marks.
* `Path.read_text`: **the text of a path is read as the path**, and so paths with the same text are
  equal (`Path.eq_of_text_eq`).
* `Disk.isNamed_canonical`: **a written location leads to a path that can be written.**
* `Disk.canonical_location`: without links a path is the one to which it leads.
* `Disk.isWritten_empty`, `Disk.isWritten_write`, `Disk.isWritten_delete`: a disk that is made from
  nothing, by writing links that were written and files and folders, is one of which the links were
  written.
-/

namespace FrameScript

/-! ## Splitting -/

namespace Text

variable {mark : Char} {s : Text}

theorem split_of_not_mem (h : mark ∉ s) : split mark s = [s] := by
  induction s with
  | nil => rfl
  | cons c s ih =>
    rw [List.mem_cons, not_or] at h
    rw [split, if_neg (Ne.symm h.1), ih h.2]
    rfl

theorem split_append_mark {rest : Text} (h : mark ∉ s) :
    split mark (s ++ mark :: rest) = s :: split mark rest := by
  induction s with
  | nil => rw [List.nil_append, split, if_pos rfl]
  | cons c s ih =>
    rw [List.mem_cons, not_or] at h
    rw [List.cons_append, split, if_neg (Ne.symm h.1), ih h.2]
    rfl

/-- **Pieces without the mark are what lies between the marks.** -/
theorem split_join {pieces : List Text} (hne : pieces ≠ []) (h : ∀ piece ∈ pieces, mark ∉ piece) :
    split mark (join [mark] pieces) = pieces := by
  induction pieces with
  | nil => exact absurd rfl hne
  | cons first rest ih =>
    have hfirst := h first List.mem_cons_self
    cases rest with
    | nil => exact split_of_not_mem hfirst
    | cons second rest =>
      have hrest := ih (List.cons_ne_nil _ _) fun piece hm => h piece (List.mem_cons_of_mem _ hm)
      have hjoin : join [mark] (first :: second :: rest) =
          first ++ mark :: join [mark] (second :: rest) := by
        rw [join, List.append_assoc, List.singleton_append]
        exact List.cons_ne_nil _ _
      rw [hjoin, split_append_mark hfirst, hrest]

/-- No piece has the mark in it. -/
theorem not_mem_of_mem_split {piece : Text} (h : piece ∈ split mark s) : mark ∉ piece := by
  induction s generalizing piece with
  | nil =>
    rw [List.mem_singleton.mp h]
    exact List.not_mem_nil
  | cons c s ih =>
    unfold split at h
    split at h
    · rcases List.mem_cons.mp h with rfl | h
      · exact List.not_mem_nil
      · exact ih h
    · rename_i hc
      cases hs : split mark s with
      | nil =>
        rw [hs, extendFirst, List.mem_singleton] at h
        rw [h, List.mem_singleton]
        exact Ne.symm hc
      | cons first rest =>
        rw [hs] at h ih
        rcases List.mem_cons.mp h with rfl | h
        · rw [List.mem_cons, not_or]
          exact ⟨Ne.symm hc, ih List.mem_cons_self⟩
        · exact ih (List.mem_cons_of_mem _ h)

end Text

/-! ## Names -/

/-- A part of a written location: it is not empty, and no slash is in it. -/
def Location.IsPart (part : Text) : Prop :=
  part ≠ [] ∧ '/' ∉ part

/-- Every part of the location is such as can be written. -/
def Location.IsWritten (l : Location) : Prop :=
  ∀ part ∈ l.parts, IsPart part

/-- Every name on the path is such as can be written, and none of them stays or goes up. -/
def Path.IsNamed (p : Path) : Prop :=
  ∀ name ∈ p.names, Location.IsPart name ∧ name ≠ Location.stay ∧ name ≠ Location.up

/-- The links of the disk were written, and its reader stands at a path that can be written. -/
structure Disk.IsWritten (disk : Disk) : Prop where
  here : disk.here.IsNamed
  links : ∀ p target, (p, .link target) ∈ disk.entries → target.IsWritten

namespace Location

theorem isPart_of_mem_split {s part : Text} (h : part ∈ Text.split '/' s) (hne : part ≠ []) :
    IsPart part :=
  ⟨hne, Text.not_mem_of_mem_split h⟩

/-- What is read from a text is written. -/
theorem isWritten_read (s : Text) : (read s).IsWritten := by
  intro part hp
  obtain ⟨hm, hd⟩ := List.mem_filter.mp hp
  exact isPart_of_mem_split hm (of_decide_eq_true hd).1

/-- The target of a link is written, also where it asks for a folder. -/
theorem isWritten_readTarget (s : Text) : (readTarget s).IsWritten := by
  have hparts : ∀ part ∈ (Text.split '/' s).filter (· ≠ []), IsPart part := by
    intro part hp
    obtain ⟨hm, hd⟩ := List.mem_filter.mp hp
    exact isPart_of_mem_split hm (of_decide_eq_true hd)
  intro part hp
  simp only [readTarget] at hp
  split at hp
  · rcases List.mem_append.mp hp with hp | hp
    · exact hparts part hp
    · rw [List.mem_singleton.mp hp]
      exact ⟨by decide, by decide⟩
  · exact hparts part hp

theorem isWritten_under {base l : Location} (hb : base.IsWritten) (hl : l.IsWritten) :
    (base.under l).IsWritten := by
  unfold under
  split
  · intro part hp
    rcases List.mem_append.mp hp with hp | hp
    · exact hb part hp
    · exact hl part hp
  · exact hl

end Location

namespace Path

variable {p q : Path}

theorem isNamed_root : root.IsNamed :=
  fun _ hm => absurd hm List.not_mem_nil

theorem isNamed_parent (h : p.IsNamed) : p.parent.IsNamed :=
  fun name hm => h name (List.dropLast_subset _ hm)

theorem isNamed_child {name : Text} (h : p.IsNamed) (hn : Location.IsPart name)
    (hs : name ≠ Location.stay) (hu : name ≠ Location.up) : (p.child name).IsNamed := by
  intro other hm
  rcases List.mem_append.mp hm with hm | hm
  · exact h other hm
  · rw [List.mem_singleton.mp hm]
    exact ⟨hn, hs, hu⟩

theorem isWritten_location (h : p.IsNamed) : p.location.IsWritten :=
  fun part hm => (h part hm).1

/-! ## Texts of paths -/

/-- A path begins with one slash. -/
theorem startOf_text (h : p.IsNamed) : Location.startOf p.text = .absolute := by
  have hlength : (p.text.takeWhile (· == '/')).length = 1 := by
    obtain ⟨names⟩ := p
    cases names with
    | nil => rfl
    | cons first rest =>
      obtain ⟨⟨hne, hslash⟩, -⟩ := h first List.mem_cons_self
      obtain ⟨c, s, rfl⟩ := List.exists_cons_of_ne_nil hne
      have hc : c ≠ '/' := fun he => hslash (he ▸ List.mem_cons_self)
      have hbegins : ∃ later, Text.join ['/'] ((c :: s) :: rest) = c :: later := by
        cases rest with
        | nil => exact ⟨s, rfl⟩
        | cons second rest => exact ⟨_, rfl⟩
      obtain ⟨later, hj⟩ := hbegins
      simp [text, hj, hc]
  unfold Location.startOf
  rw [hlength]
  rfl

/-- **The text of a path is read as the path.** -/
theorem read_text (h : p.IsNamed) : Location.read p.text = p.location := by
  have hparts : (Text.split '/' p.text).filter (fun part => part ≠ [] ∧ part ≠ Location.stay) =
      p.names := by
    obtain ⟨names⟩ := p
    rw [text, Text.split, if_pos rfl]
    cases names with
    | nil => rfl
    | cons first rest =>
      rw [Text.split_join (List.cons_ne_nil _ _) fun name hm => (h name hm).1.2,
        List.filter_cons_of_neg (by simp)]
      refine List.filter_eq_self.mpr fun name hm => decide_eq_true ?_
      exact ⟨(h name hm).1.1, (h name hm).2.1⟩
  rw [Location.read, startOf_text h, hparts]
  rfl

/-- **Paths with the same text are equal.** -/
theorem eq_of_text_eq (hp : p.IsNamed) (hq : q.IsNamed) (h : p.text = q.text) : p = q := by
  have hread : p.location = q.location := by rw [← read_text hp, ← read_text hq, h]
  have hnames : p.names = q.names := congrArg Location.parts hread
  obtain ⟨names⟩ := p
  exact congrArg Path.mk hnames

end Path

/-! ## Where written locations lead -/

namespace Disk

variable {disk : Disk}

theorem isWritten_of_find? {p : Path} {target : Location} (h : disk.IsWritten)
    (hf : disk.find? p = some (.link target)) : target.IsWritten :=
  h.links p target (mem_of_lookup hf)

/-- Parts that can be written lead from a path that can be written to another one. -/
theorem isNamed_follow {opened : List Path} {base : Path} {parts : List Text} (h : disk.IsWritten)
    (hb : base.IsNamed) (hp : ∀ part ∈ parts, Location.IsPart part) :
    (disk.follow opened base parts).IsNamed := by
  fun_induction disk.follow opened base parts with
  | case1 => exact hb
  | case2 opened base rest ih =>
    exact ih (Path.isNamed_parent hb) fun part hm => hp part (List.mem_cons_of_mem _ hm)
  | case3 opened base rest _ ih =>
    exact ih hb fun part hm => hp part (List.mem_cons_of_mem _ hm)
  | case4 opened base part rest hu hs target _ _ ih =>
    exact ih (Path.isNamed_child hb (hp part List.mem_cons_self) hs hu)
      fun part hm => hp part (List.mem_cons_of_mem _ hm)
  | case5 opened base part rest hu hs target hl _ first ihf _ ih =>
    have hfirst : first.IsNamed := by
      unfold first
      split
      · exact hb
      · exact Path.isNamed_root
    exact ih (ihf hfirst (isWritten_of_find? h hl))
      fun part hm => hp part (List.mem_cons_of_mem _ hm)
  | case6 opened base part rest hu hs _ ih =>
    exact ih (Path.isNamed_child hb (hp part List.mem_cons_self) hs hu)
      fun part hm => hp part (List.mem_cons_of_mem _ hm)

/-- **A written location leads to a path that can be written.** -/
theorem isNamed_canonical {l : Location} (h : disk.IsWritten) (hl : l.IsWritten) :
    (disk.canonical l).IsNamed := by
  refine isNamed_follow h ?_ hl
  unfold startOf
  split
  · exact h.here
  · exact Path.isNamed_root

/-- Without links every part leads into the folder that it names. -/
theorem follow_of_no_links {opened : List Path} {base : Path} {parts : List Text}
    (hl : disk.links = []) (hp : ∀ part ∈ parts, part ≠ Location.up ∧ part ≠ Location.stay) :
    disk.follow opened base parts = ⟨base.names ++ parts⟩ := by
  induction parts generalizing base with
  | nil => rw [follow, List.append_nil]
  | cons part rest ih =>
    obtain ⟨⟨hup, hstay⟩, hrest⟩ := List.forall_mem_cons.mp hp
    rw [follow, if_neg hup, if_neg hstay]
    split
    · rename_i hlink
      exact absurd (hl ▸ mem_links_of_find? hlink) List.not_mem_nil
    · rw [ih hrest, Path.child, List.append_assoc]
      rfl

/-- **Without links a path is the one to which it leads.** -/
theorem canonical_location {p : Path} (hl : disk.links = [])
    (hp : ∀ name ∈ p.names, name ≠ Location.up ∧ name ≠ Location.stay) :
    disk.canonical p.location = p :=
  follow_of_no_links hl hp

/-! ## Disks that are made from written locations -/

theorem isWritten_mend {p : Path} (h : disk.IsWritten) : (disk.mend p).IsWritten := by
  unfold mend
  split
  · exact h
  · refine ⟨h.here, fun q target hm => ?_⟩
    rcases List.mem_cons.mp hm with he | hm
    · cases he
    · exact h.links q target hm

theorem isWritten_put {p : Path} {node : Node} (h : disk.IsWritten)
    (hn : ∀ target, node = .link target → target.IsWritten) : (disk.put p node).IsWritten := by
  have hmended : (p.ancestors.foldl mend disk).IsWritten := by
    generalize p.ancestors = folders
    induction folders generalizing disk with
    | nil => exact h
    | cons folder rest ih => exact ih (isWritten_mend h)
  refine ⟨hmended.here, fun q target hm => ?_⟩
  rcases List.mem_cons.mp hm with he | hm
  · exact hn target (Prod.mk.inj he).2.symm
  · exact hmended.links q target hm

theorem isWritten_empty {here : Path} (h : here.IsNamed) : (empty here).IsWritten :=
  isWritten_put ⟨h, fun _ _ hm => absurd hm List.not_mem_nil⟩ fun _ he => by cases he

theorem isWritten_remove {p : Path} (h : disk.IsWritten) : (disk.remove p).IsWritten :=
  ⟨h.here, fun q target hm => h.links q target (List.mem_filter.mp hm).1⟩

variable {disk' : Disk} {l : Location}

/-- **Writing a node keeps the disk written.** -/
theorem isWritten_write {node : Node} (h : disk.IsWritten)
    (hn : ∀ target, node = .link target → target.IsWritten)
    (hw : disk.write l node = .ok disk') : disk'.IsWritten := by
  have hput : ∃ p, disk' = disk.put p node := by
    unfold write at hw
    simp only [bind, Except.bind, pure, Except.pure, throw, throwThe, MonadExceptOf.throw] at hw
    repeat' split at hw
    all_goals first | exact ⟨_, (Except.ok.inj hw).symm⟩ | cases hw
  obtain ⟨p, rfl⟩ := hput
  exact isWritten_put h hn

/-- **Deleting a node keeps the disk written.** -/
theorem isWritten_delete (h : disk.IsWritten) (hw : disk.delete l = .ok disk') :
    disk'.IsWritten := by
  have hremove : ∃ p, disk' = disk.remove p := by
    unfold delete at hw
    repeat' split at hw
    all_goals first | exact ⟨_, (Except.ok.inj hw).symm⟩ | cases hw
  obtain ⟨p, rfl⟩ := hremove
  exact isWritten_remove h

end Disk

end FrameScript
