import FrameScript.Disk.Walk
import FrameScript.Proofs.Inclusion
import Mathlib.Data.List.MinMax
import Mathlib.Data.List.TakeWhile
import Mathlib.Logic.Function.Iterate
import Mathlib.Order.WellFounded

/-!
# Bodies within bodies

Whoever reads a body line by line comes to bodies that are nested in it: the lines that are left,
the body of a repetition, and the body of a file that a line includes. A nested body either has
fewer lines of the same file or belongs to a file that was not in progress before, and of these
there are finitely many.

A reader that leaves nested bodies to another reader is described by a functional on readers.
`Recursion` says that the functional asks about nested bodies only, and which reader it has for a
fixed point. Then that reader is found by applying the functional a limited number of times, to
whatever reader one begins with: the recursion ends.

## Results

* `Outline.build_cons`: an outline is told by its first line and the bodies after it, and so bodies
  have an induction of their own (`Outline.body_induction`).
* `Nested.fewer_or_further`: **a nested body has fewer lines, or opens one more file.**
* `wellFounded_nested`: **bodies are not nested without end.**
* `Recursion.iterate_eq`: **a recursion ends** after as many rounds as the body is high.
-/

namespace FrameScript

/-! ## The outline of a body, line by line -/

namespace Outline

/-- What a line opens: nothing, or a repetition. -/
inductive Opening where
  | nothing (item : Item)
  | repetition (count : Nat)
  deriving DecidableEq

/-- What a line of a body at the given level opens. -/
def opening (level : Nat) (line : Line) : Opening :=
  if line.isSkipped then .nothing .skip
  else if line.level? = some level then
    match Directive.read line.content with
    | .data => .nothing .data
    | .inclusion target => .nothing (.inclusion target)
    | .repetition text =>
      match Numeral.readNat text with
      | .other => .nothing (.bad (.badCount text))
      | .tooLong digits => .nothing (.bad (.longCount digits))
      | .value count => .repetition count
  else .nothing (.bad .stray)

theorem opening_of_skipped {level : Nat} {line : Line} (h : line.isSkipped = true) :
    opening level line = .nothing .skip :=
  if_pos h

theorem opening_of_stray {level : Nat} {line : Line} (hs : line.isSkipped = false)
    (h : line.level? ≠ some level) :
    opening level line = .nothing (.bad .stray) := by
  rw [opening, if_neg (Bool.eq_false_iff.mp hs), if_neg h]

/-- The outline of a body is told by its first line and the bodies after it. -/
theorem build_cons (level : Nat) (line : Line) (rest : List Line) :
    build level (line :: rest) =
      match opening level line with
      | .nothing item => leaf line item (build level rest)
      | .repetition count =>
        loop line count (build (level + 1) (rest.takeWhile (isInside level)))
          (build level (rest.dropWhile (isInside level))) := by
  rw [build, opening]
  split
  · rfl
  · split
    · cases Directive.read line.content with
      | data => rfl
      | inclusion target => rfl
      | repetition text => cases hn : Numeral.readNat text <;> simp only [hn]
    · rfl

/-- **Induction on bodies**, by the line that comes first and what that line opens. -/
@[elab_as_elim]
theorem body_induction {motive : Nat → List Line → Prop} (nil : ∀ level, motive level [])
    (nothing : ∀ level line rest item, opening level line = .nothing item →
      motive level rest → motive level (line :: rest))
    (repetition : ∀ level line rest count, opening level line = .repetition count →
      motive (level + 1) (rest.takeWhile (isInside level)) →
      motive level (rest.dropWhile (isInside level)) → motive level (line :: rest))
    (level : Nat) (lines : List Line) : motive level lines := by
  induction hn : lines.length using Nat.strongRecOn generalizing level lines with
  | ind n ih =>
    cases lines with
    | nil => exact nil level
    | cons line rest =>
      have hrest : rest.length < n := hn ▸ Nat.lt_succ_self _
      have htake := (List.takeWhile_sublist (isInside level) (l := rest)).length_le
      have hdrop := (List.dropWhile_sublist (isInside level) (l := rest)).length_le
      cases ho : opening level line with
      | nothing item => exact nothing level line rest item ho (ih _ hrest level rest rfl)
      | repetition count =>
        exact repetition level line rest count ho
          (ih _ (Nat.lt_of_le_of_lt htake hrest) _ _ rfl)
          (ih _ (Nat.lt_of_le_of_lt hdrop hrest) _ _ rfl)

/-- What is left begins where the first element stands without the property, as a body ends where
the first line stands that is not inside it. -/
theorem head_of_dropWhile {α : Type} (p : α → Bool) (l : List α) :
    ∀ a ∈ (l.dropWhile p).head?, ¬p a = true := by
  intro a hm
  have hfirst := List.head?_dropWhile_not p l
  rw [Option.mem_def.mp hm] at hfirst
  exact Bool.not_eq_true _ ▸ hfirst

theorem takeWhile_eq_nil {p : Line → Bool} {lines : List Line}
    (h : ∀ line ∈ lines.head?, ¬p line = true) : lines.takeWhile p = [] := by
  cases lines with
  | nil => rfl
  | cons line lines => exact List.takeWhile_cons_of_neg (h line rfl)

theorem dropWhile_eq_self {p : Line → Bool} {lines : List Line}
    (h : ∀ line ∈ lines.head?, ¬p line = true) : lines.dropWhile p = lines := by
  cases lines with
  | nil => rfl
  | cons line lines => exact List.dropWhile_cons_of_neg (h line rfl)

/-- What is inside a body is inside every body around it. -/
theorem isInside_of_lt {level level' : Nat} {line : Line} (hlt : level < level')
    (h : isInside level' line = true) : isInside level line = true := by
  unfold isInside at h ⊢
  cases hl : line.level? with
  | none => simp
  | some n =>
    rw [hl] at h
    simp only [Option.all_some, Bool.or_eq_true, decide_eq_true_eq] at h ⊢
    exact h.imp_right fun hn => Nat.lt_trans hlt hn

end Outline

/-! ## Nested bodies -/

/-- A body that is being read: its file, the files in progress around it, what its header says, its
level, and the lines that are left. -/
structure Block (κ : Type) where
  file : Path
  around : List Path
  header : κ
  level : Nat
  lines : List Line

namespace Block

variable {κ : Type}

/-- The files in progress, innermost first. -/
def chain (b : Block κ) : List Path :=
  b.file :: b.around

/-- What is left of the body when the given lines are. -/
def later (b : Block κ) (lines : List Line) : Block κ :=
  { b with lines }

/-- The body of a repetition. -/
def deeper (b : Block κ) (lines : List Line) : Block κ :=
  { b with level := b.level + 1, lines }

/-- The body of a file with the given text, while the files of `around` are in progress. -/
def ofFile (around : List Path) (file : Path) (header : κ) (text : Text) : Block κ :=
  ⟨file, around, header, 0, bodyOf (Text.lines text)⟩

end Block

/-- Reading the body `outer` comes to the body `inner`: to what is left after its first line, to the
body of the repetition that the line opens, or to the body of the file that it includes, unless that
file is in progress. -/
inductive Nested {κ : Type} (disk : Disk) : Block κ → Block κ → Prop
  | later {b : Block κ} {line : Line} {rest lines : List Line} (hb : b.lines = line :: rest)
      (hl : lines <:+ rest) : Nested disk (b.later lines) b
  | body {b : Block κ} {line : Line} {rest : List Line} (hb : b.lines = line :: rest) :
      Nested disk (b.deeper (rest.takeWhile (Outline.isInside b.level))) b
  | file {b : Block κ} {line : Line} {rest : List Line} {target text : Text} {header : κ}
      {q : Path} (hb : b.lines = line :: rest)
      (hd : Outline.opening b.level line = .nothing (.inclusion target))
      (hq : q = disk.canonical (b.file.parent.location.under (Location.read target)))
      (hc : q ∉ b.chain) (hs : disk.source q = .ok text) :
      Nested disk (.ofFile b.chain q header text) b

/-! ## How high a body is -/

/-- The number of lines of a file, if it can be read. -/
def Disk.size (disk : Disk) (p : Path) : Nat :=
  match disk.source p with
  | .ok text => (Text.lines text).length
  | .error _ => 0

/-- The number of lines of the longest file. -/
def Disk.longest (disk : Disk) : Nat :=
  (disk.paths.map disk.size).foldr max 0

/-- A number of rounds that is enough for every file. -/
def Disk.reach (disk : Disk) : Nat :=
  disk.paths.length * (disk.longest + 1)

/-- A body is the higher the more files can still be opened below it, and the more lines it has. -/
def Block.height {κ : Type} (disk : Disk) (b : Block κ) : Nat :=
  room disk.paths b.chain * (disk.longest + 1) + b.lines.length

variable {κ α : Type} {disk : Disk} {inner outer b : Block κ} {p : Path} {text : Text}

theorem Disk.length_le_longest (hs : disk.source p = .ok text) :
    (Text.lines text).length ≤ disk.longest := by
  have hsize : disk.size p = (Text.lines text).length := by rw [size, hs]
  rw [← hsize]
  exact List.le_max_of_le' 0 (List.mem_map_of_mem (Disk.mem_paths_of_source hs)) (Nat.le_refl _)

theorem Line.length_measureFrom (first : Nat) (raws : List Text) :
    (measureFrom first raws).length = raws.length := by
  induction raws generalizing first with
  | nil => rfl
  | cons raw rest ih => rw [measureFrom, List.length_cons, ih, List.length_cons]

theorem length_bodyOf_le (hs : disk.source p = .ok text) :
    (bodyOf (Text.lines text)).length ≤ disk.longest := by
  have hlines := Disk.length_le_longest hs
  rw [bodyOf, Line.length_measureFrom, List.length_drop]
  omega

/-- A file that is opened leaves less room, so that its body is lower than the room before it. -/
theorem Block.height_ofFile_lt {around : List Path} {header : κ} (hc : p ∉ around)
    (hs : disk.source p = .ok text) :
    (Block.ofFile around p header text).height disk <
      room disk.paths around * (disk.longest + 1) := by
  have hroom : room disk.paths (p :: around) + 1 ≤ room disk.paths around :=
    Disk.room_lt_of_source hc hs
  have hlines := length_bodyOf_le hs
  have hmul := Nat.mul_le_mul_right (disk.longest + 1) hroom
  show room disk.paths (p :: around) * (disk.longest + 1) + (bodyOf (Text.lines text)).length < _
  rw [Nat.succ_mul] at hmul
  omega

/-- Every file is lower than the reach of the disk, whatever is in progress. -/
theorem Block.height_ofFile_lt_reach {around : List Path} {header : κ} (hc : p ∉ around)
    (hs : disk.source p = .ok text) :
    (Block.ofFile around p header text).height disk < disk.reach := by
  refine Nat.lt_of_lt_of_le (height_ofFile_lt hc hs) (Nat.mul_le_mul_right _ ?_)
  exact List.length_filter_le _ _

/-! ## Nested bodies are lower -/

/-- **A nested body has fewer lines** of the same file, **or opens one more file** that can be read
and was not in progress. -/
theorem Nested.fewer_or_further (h : Nested disk inner outer) :
    (inner.chain = outer.chain ∧ inner.lines.length < outer.lines.length) ∨
      ∃ q ∈ disk.paths, q ∉ outer.chain ∧ inner.chain = q :: outer.chain := by
  cases h with
  | later hb hl =>
    refine Or.inl ⟨rfl, ?_⟩
    rw [hb, List.length_cons]
    exact Nat.lt_succ_of_le hl.length_le
  | body hb =>
    refine Or.inl ⟨rfl, ?_⟩
    rw [hb, List.length_cons]
    exact Nat.lt_succ_of_le (List.takeWhile_sublist _).length_le
  | file hb hd hq hc hs => exact Or.inr ⟨_, Disk.mem_paths_of_source hs, hc, rfl⟩

theorem Nested.height_lt (h : Nested disk inner outer) :
    inner.height disk < outer.height disk := by
  rcases h.fewer_or_further with ⟨hchain, hlines⟩ | ⟨q, hq, hc, hchain⟩
  · rw [Block.height, Block.height, hchain]
    omega
  · cases h with
    | later hb hl => exact absurd hchain.symm (List.cons_ne_self _ _)
    | body hb => exact absurd hchain.symm (List.cons_ne_self _ _)
    | file hb hd hq hc hs =>
      exact Nat.lt_of_lt_of_le (Block.height_ofFile_lt hc hs) (Nat.le_add_right _ _)

/-- **Bodies are not nested without end.** -/
theorem wellFounded_nested (κ : Type) (disk : Disk) : WellFounded (@Nested κ disk) :=
  Subrelation.wf Nested.height_lt (measure (Block.height disk)).wf

/-! ## Recursion -/

/-- The functional `F`, which reads a body with a reader for the bodies nested in it, asks that
reader about nested bodies only, and has the reader `read` for a fixed point. -/
structure Recursion (disk : Disk) (F : (Block κ → α) → Block κ → α) (read : Block κ → α) :
    Prop where
  nested : ∀ f g b, (∀ inner, Nested disk inner b → f inner = g inner) → F f b = F g b
  fixed : ∀ b, F read b = read b

/-- **A recursion ends**: its fixed point is found by as many rounds as the body is high, and from
whatever reader one begins with. -/
theorem Recursion.iterate_eq {F : (Block κ → α) → Block κ → α} {read : Block κ → α}
    (h : Recursion disk F read) {n : Nat} (hn : b.height disk < n) (bottom : Block κ → α) :
    F^[n] bottom b = read b := by
  induction n generalizing b with
  | zero => exact absurd hn (Nat.not_lt_zero _)
  | succ n ih =>
    rw [Function.iterate_succ_apply', ← h.fixed b]
    refine h.nested _ _ b fun inner hi => ih ?_
    exact Nat.lt_of_lt_of_le hi.height_lt (Nat.lt_succ_iff.mp hn)

end FrameScript
