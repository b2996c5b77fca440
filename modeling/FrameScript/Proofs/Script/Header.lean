import FrameScript.Script.Header

/-!
# What headers ask for

Reading scripts judges the declarations at the top of a script, and counting frames only looks
whether they can be used. A header that is read can be used; one that can be used is read if its
format is.

## Results

* `Header.ofFound_ok`: what it takes for a header to be read.
* `Header.exists_of_usable`: a usable header is read if its format is.
* `Header.kind?_of_ofFound`: the failure of a header is never that something is not available.
-/

namespace FrameScript

theorem ScriptKind.text_of_read? {s : Text} {kind : ScriptKind}
    (h : ScriptKind.read? s = some kind) : s = kind.text := by
  unfold ScriptKind.read? at h
  split at h
  · rename_i hs
    rw [hs, ← Option.some.inj h]
  · split at h
    · rename_i hs
      rw [hs, ← Option.some.inj h]
    · cases h

theorem ScriptKind.text_inj {a b : ScriptKind} (h : a.text = b.text) : a = b := by
  cases a <;> cases b <;> first | rfl | exact absurd h (by decide)

/-! ## Formats -/

/-- The kinds of failure that a format may have. -/
def Format.faultKinds : List (Option Failure.Kind) :=
  [some .format, some .unknownKey, some .unknownField, none]

theorem Field.kind?_of_readKind {name : Text} {failure : Failure}
    (h : Field.readKind name = .error failure) : failure.kind? ∈ Format.faultKinds := by
  unfold Field.readKind at h
  split at h
  · cases h
  · cases h
  · split at h <;> cases h
    exact (by decide : some Failure.Kind.unknownKey ∈ Format.faultKinds)
  · split at h
    · cases h
    · cases h
      exact (by decide : none ∈ Format.faultKinds)
    · cases h
      exact (by decide : some Failure.Kind.unknownField ∈ Format.faultKinds)
  · cases h
    exact (by decide : some Failure.Kind.unknownField ∈ Format.faultKinds)

theorem Format.kind?_of_readColumns {place : Place} {seen : List Text}
    {names : List (Text × Text)} {failure : Failure}
    (h : Format.readColumns place seen names = .error failure) :
    failure.kind? ∈ Format.faultKinds := by
  induction names generalizing seen with
  | nil => cases h
  | cons column rest ih =>
    change (if column.1 = [] then _ else if column.1 ∈ seen then _ else _) = _ at h
    split at h
    · cases h
      exact (by decide : some Failure.Kind.format ∈ Format.faultKinds)
    · split at h
      · cases h
        exact (by decide : some Failure.Kind.format ∈ Format.faultKinds)
      · split at h
        · rename_i hf
          cases h
          unfold Field.read at hf
          split at hf
          · cases hf
          · rename_i hr
            cases hf
            exact Field.kind?_of_readKind hr
        · split at h
          · rename_i hr
            cases h
            exact ih hr
          · cases h

/-- **A format fails for what it says.** -/
theorem Format.kind?_of_read {text : Text} {place : Place} {failure : Failure}
    (h : Format.read text place = .error failure) : failure.kind? ∈ Format.faultKinds := by
  unfold Format.read at h
  split at h
  · rename_i hr
    cases h
    exact Format.kind?_of_readColumns hr
  · cases h
    exact (by decide : some Failure.Kind.format ∈ Format.faultKinds)
  · cases h

/-! ## Headers -/

namespace Header

variable {source : Option Text} {found : HeaderLines}

theorem readKind_ok {kind : Option ScriptKind} (h : readKind source found = .ok kind) :
    found.kindText = kind.map ScriptKind.text ∧
      found.kindText.all (fun s => (ScriptKind.read? s).isSome) = true := by
  unfold readKind at h
  cases hk : found.kindText with
  | none =>
    rw [hk] at h
    rw [← Except.ok.inj h]
    exact ⟨rfl, rfl⟩
  | some s =>
    rw [hk] at h
    cases hr : ScriptKind.read? s with
    | none =>
      simp only [hr] at h
      cases h
    | some kind' =>
      simp only [hr] at h
      rw [← Except.ok.inj h, ScriptKind.text_of_read? hr]
      refine ⟨rfl, ?_⟩
      rw [Option.all_some, ← ScriptKind.text_of_read? hr, hr]
      rfl

theorem isFragment_iff {kind : Option ScriptKind}
    (h : found.kindText = kind.map ScriptKind.text) :
    found.isFragment = true ↔ kind = some .fragment := by
  unfold HeaderLines.isFragment
  rw [decide_eq_true_iff, h]
  cases kind with
  | none => simp
  | some k =>
    constructor
    · intro hk
      rw [ScriptKind.text_inj (Option.some.inj hk)]
    · intro hk
      rw [Option.some.inj hk]
      rfl

/-- What it takes for a header to be read. -/
theorem ofFound_ok {header : Header} (h : ofFound source found = .ok header) :
    found.isUsable = true ∧ (found.isFragment = true ↔ header.kind = some .fragment) ∧
      ∃ text, found.formatText = some text ∧
        Format.read text ⟨source, some found.formatLine⟩ = .ok header.format := by
  unfold ofFound at h
  cases hk : readKind source found with
  | error failure =>
    rw [hk] at h
    cases h
  | ok kind =>
    obtain ⟨htext, hall⟩ := readKind_ok hk
    cases hf : found.formatText with
    | none =>
      simp only [hk, hf] at h
      cases h
    | some text =>
      simp only [hk, hf] at h
      split at h
      · cases h
      · rename_i format hr
        cases h
        refine ⟨?_, isFragment_iff htext, text, rfl, hr⟩
        rw [HeaderLines.isUsable, hf, hall]
        rfl

/-- A header that can be used is read if its format is. -/
theorem exists_of_usable {text : Text} {format : Format} (hu : found.isUsable = true)
    (hf : found.formatText = some text)
    (hr : Format.read text ⟨source, some found.formatLine⟩ = .ok format) :
    ∃ kind, ofFound source found = .ok ⟨kind, format⟩ := by
  have hkind : ∃ kind, readKind source found = .ok kind := by
    unfold HeaderLines.isUsable at hu
    unfold readKind
    cases hk : found.kindText with
    | none => exact ⟨none, rfl⟩
    | some s =>
      rw [hk, Bool.and_eq_true, Option.all_some] at hu
      obtain ⟨kind, hs⟩ := Option.isSome_iff_exists.mp hu.2
      exact ⟨some kind, by simp only [hs]⟩
  obtain ⟨kind, hkind⟩ := hkind
  exact ⟨kind, by simp only [ofFound, hkind, hf, hr]⟩

/-- What a header fails for: its kind, the lack of a format, or a fault of the format. -/
theorem ofFound_error {failure : Failure} (h : ofFound source found = .error failure) :
    (∃ text place, failure = .layout (.badKind text) place) ∨
      (∃ place, failure = .layout .noFormat place) ∨ failure.kind? ∈ Format.faultKinds := by
  unfold ofFound at h
  split at h
  · rename_i fault hk
    unfold readKind at hk
    split at hk
    · cases hk
    · split at hk
      · cases hk
      · cases hk
        exact Or.inl ⟨_, _, (Except.error.inj h).symm⟩
  · split at h
    · exact Or.inr (Or.inl ⟨_, (Except.error.inj h).symm⟩)
    · split at h
      · rename_i hr
        cases h
        exact Or.inr (Or.inr (Format.kind?_of_read hr))
      · cases h

/-- **A header fails for what it says**, never because something is not available. -/
theorem kind?_of_ofFound {failure : Failure} (h : ofFound source found = .error failure) :
    failure.kind? ≠ some .unavailable := by
  intro hu
  rcases ofFound_error h with ⟨_, _, rfl⟩ | ⟨_, rfl⟩ | hm
  · cases hu
  · cases hu
  · rw [hu] at hm
    exact absurd hm (by decide)

end Header

end FrameScript
