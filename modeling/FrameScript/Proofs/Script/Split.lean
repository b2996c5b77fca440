import FrameScript.Script.Format

/-!
# How a format is split

A format is split into literals by its placeholders: names between angle brackets. `Splits` says so
without saying how the placeholders are found: put together again the pieces are the format, and
in none of the literals a placeholder is left. There is one way to do this, and `scan` finds it;
angle brackets that are nested, unbalanced or around other characters are literal text.

## Results

* `splits_iff`: **`scan` finds the only split** of a text.
-/

namespace FrameScript.Format

/-- A placeholder as it is written: a name between angle brackets. -/
def placeholder (name : Text) : Text :=
  '<' :: (name ++ ['>'])

/-- The characters of a name. -/
def IsName (name : Text) : Prop :=
  ∀ c ∈ name, isNameChar c = true

/-- No placeholder stands in the text. -/
def IsLiteral (s : Text) : Prop :=
  ∀ name, IsName name → ¬placeholder name <:+: s

/-- Placeholders and literals as they follow each other. -/
def joined (pieces : List (Text × Text)) : Text :=
  pieces.flatMap fun piece => placeholder piece.1 ++ piece.2

/-- The text is the literal `lead`, then placeholders, each with the literal after it. -/
structure Splits (s lead : Text) (pieces : List (Text × Text)) : Prop where
  eq : s = lead ++ joined pieces
  names : ∀ piece ∈ pieces, IsName piece.1
  lead : IsLiteral lead
  literals : ∀ piece ∈ pieces, IsLiteral piece.2

variable {s t name rest lead : Text} {c : Char} {pieces : List (Text × Text)}

/-! ## Names -/

theorem isNameChar_open : isNameChar '<' = false := rfl

theorem isNameChar_close : isNameChar '>' = false := rfl

/-- A name ends at the bracket after it, and nowhere else. -/
theorem closing?_iff : closing? s = some (name, rest) ↔ s = name ++ '>' :: rest ∧ IsName name := by
  refine ⟨closing?_eq_some, ?_⟩
  rintro ⟨rfl, hn⟩
  simp [closing?, List.dropWhile_append_of_pos hn, List.takeWhile_append_of_pos hn,
    isNameChar_close]

theorem joined_cons (literal : Text) (later : List (Text × Text)) :
    joined ((name, literal) :: later) = '<' :: (name ++ '>' :: (literal ++ joined later)) := by
  simp [joined, placeholder]

/-! ## Literals -/

theorem IsLiteral.of_infix (h : IsLiteral s) (ht : t <:+: s) : IsLiteral t :=
  fun name hn hp => h name hn (hp.trans ht)

theorem isLiteral_nil : IsLiteral [] := by
  intro name _ hp
  simp [placeholder] at hp

/-- A placeholder stands at the beginning of a text if a name and a closing bracket follow an
opening one. -/
theorem placeholder_prefix_iff (hn : IsName name) :
    placeholder name <+: c :: s ↔ c = '<' ∧ ∃ rest, closing? s = some (name, rest) := by
  simp only [placeholder, List.cons_prefix_cons, closing?_iff]
  constructor
  · rintro ⟨rfl, rest, rfl⟩
    exact ⟨rfl, rest, by simp, hn⟩
  · rintro ⟨rfl, rest, rfl, -⟩
    exact ⟨rfl, rest, by simp⟩

/-- A character before a literal makes no placeholder, unless it opens one. -/
theorem IsLiteral.cons (h : IsLiteral s)
    (hc : c = '<' → ∀ name rest, closing? s ≠ some (name, rest)) : IsLiteral (c :: s) := by
  intro name hn hp
  rcases List.infix_cons_iff.mp hp with hp | hp
  · obtain ⟨ho, rest, hr⟩ := (placeholder_prefix_iff hn).mp hp
    exact hc ho name rest hr
  · exact h name hn hp

/-! ## The split -/

theorem scan_of_closing (h : closing? s = some (name, rest)) :
    scan ('<' :: s) = ([], (name, (scan rest).1) :: (scan rest).2) := by
  rw [scan]
  split
  · simp_all
  · simp_all

theorem scan_of_not_closing (h : c = '<' → closing? s = none) :
    scan (c :: s) = (c :: (scan s).1, (scan s).2) := by
  rw [scan]
  split
  · rename_i hc
    split at hc <;> simp_all
  · rfl

/-- What `scan` finds is a split. -/
theorem splits_scan (s : Text) : Splits s (scan s).1 (scan s).2 := by
  fun_induction scan s with
  | case1 => exact ⟨rfl, by simp, isLiteral_nil, by simp⟩
  | case2 c s name rest hc later ih =>
    obtain ⟨rfl, hclose⟩ : c = '<' ∧ closing? s = some (name, rest) := by
      split at hc <;> simp_all
    obtain ⟨rfl, hn⟩ := closing?_iff.mp hclose
    refine ⟨?_, List.forall_mem_cons.mpr ⟨hn, ih.names⟩, isLiteral_nil,
      List.forall_mem_cons.mpr ⟨ih.lead, ih.literals⟩⟩
    rw [joined_cons, ← ih.eq]
    rfl
  | case3 c s hc later ih =>
    refine ⟨congrArg (c :: ·) ih.eq, ih.names, ih.lead.cons fun ho name rest hr => ?_, ih.literals⟩
    obtain ⟨hlead, hn⟩ := closing?_iff.mp hr
    have hs : s = name ++ '>' :: (rest ++ joined later.2) := by
      have := ih.eq
      rw [hlead] at this
      simpa using this
    rw [dif_pos ho, closing?_iff.mpr ⟨hs, hn⟩] at hc
    cases hc

theorem eq_open_of_joined (h : joined pieces = c :: t) : c = '<' := by
  cases pieces with
  | nil => cases h
  | cons piece later =>
    rw [joined_cons, List.cons.injEq] at h
    exact h.1.symm

/-- A text that begins with a placeholder begins with no literal: the literal would hold the
placeholder, or end within it where no other one can begin. -/
theorem Splits.lead_eq_nil (h : Splits ('<' :: s) lead pieces)
    (hc : closing? s = some (name, rest)) : lead = [] := by
  obtain ⟨rfl, hn⟩ := closing?_iff.mp hc
  cases lead with
  | nil => rfl
  | cons c lead =>
    have heq := h.eq
    rw [List.cons_append, List.cons.injEq] at heq
    obtain ⟨rfl, heq⟩ := heq
    rcases List.append_eq_append_iff.mp heq with ⟨inside, rfl, hrest⟩ | ⟨inside, rfl, hrest⟩
    · cases inside with
      | nil => exact absurd (eq_open_of_joined hrest.symm) (by decide)
      | cons d inside =>
        obtain ⟨rfl, -⟩ := List.cons.inj hrest
        refine absurd ?_ (h.lead name hn)
        exact (placeholder_prefix_iff hn).mpr ⟨rfl, inside, closing?_iff.mpr ⟨rfl, hn⟩⟩ |>.isInfix
    · cases inside with
      | nil => exact absurd (eq_open_of_joined hrest) (by decide)
      | cons d inside =>
        obtain rfl := eq_open_of_joined hrest
        have := hn '<' (by simp)
        rw [isNameChar_open] at this
        cases this

/-- **`scan` finds the only split.** -/
theorem splits_iff : Splits s lead pieces ↔ scan s = (lead, pieces) := by
  refine ⟨fun h => ?_, fun h => by simpa [h] using splits_scan s⟩
  induction s using scan.induct generalizing lead pieces with
  | case1 =>
    obtain ⟨rfl, hj⟩ := List.append_eq_nil_iff.mp h.eq.symm
    cases pieces with
    | nil => rw [scan]
    | cons piece later =>
      rw [joined_cons] at hj
      cases hj
  | case2 c s name rest hc ih =>
    obtain ⟨rfl, hclose⟩ : c = '<' ∧ closing? s = some (name, rest) := by
      split at hc <;> simp_all
    obtain rfl := h.lead_eq_nil hclose
    have heq := h.eq
    cases pieces with
    | nil => cases heq
    | cons piece later =>
      obtain ⟨other, literal⟩ := piece
      rw [List.nil_append, joined_cons, List.cons.injEq] at heq
      have hsame := closing?_iff.mpr ⟨heq.2, h.names _ List.mem_cons_self⟩
      rw [hclose] at hsame
      cases hsame
      rw [scan_of_closing hclose, ih ⟨rfl, fun p hp => h.names p (List.mem_cons_of_mem _ hp),
        h.literals _ List.mem_cons_self, fun p hp => h.literals p (List.mem_cons_of_mem _ hp)⟩]
  | case3 c s hc ih =>
    cases lead with
    | nil =>
      have heq := h.eq
      cases pieces with
      | nil => cases heq
      | cons piece later =>
        rw [List.nil_append, joined_cons, List.cons.injEq] at heq
        rw [dif_pos heq.1, closing?_iff.mpr ⟨heq.2, h.names _ List.mem_cons_self⟩] at hc
        cases hc
    | cons d lead =>
      have heq := h.eq
      rw [List.cons_append, List.cons.injEq] at heq
      obtain ⟨rfl, heq⟩ := heq
      have hopen : c = '<' → closing? s = none := fun ho => by rwa [dif_pos ho] at hc
      rw [scan_of_not_closing hopen,
        ih ⟨heq, h.names, h.lead.of_infix (List.suffix_cons _ _).isInfix, h.literals⟩]

end FrameScript.Format
