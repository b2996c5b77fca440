import FrameScript.Script.Store

/-!
# What readings give

A reading ends with a value or a failure, and leaves a world either way. `Gives P x e Q` says both
at once: from every world with `P`, the reading `x` ends with the outcome `e` and leaves a world
with `Q`. The rules below follow the way in which readings are put together, so that a reading is
taken apart without being unfolded.

Where the end depends on the world, `Runs x s Q E` says what is true of the value, or of the
failure, together with the world that is left.

Calls may follow each other, each in the world that the one before it has left (`answers`). Calls of
which each gives an answer of its own, and keeps the worlds in which it does so, show nothing of the
calls before them (`answers_eq_first`).
-/

namespace FrameScript

namespace Reading

variable {ε σ α β : Type}

/-- The value or the failure with which a reading has ended. -/
def outcome : EStateM.Result ε σ α → Except ε α
  | .ok a _ => .ok a
  | .error e _ => .error e

/-- What has a value ends well. -/
theorem exists_ok_of_isSome {e : Except ε α} (h : e.toOption.isSome = true) :
    ∃ a, e = .ok a := by
  cases e with
  | ok a => exact ⟨a, rfl⟩
  | error failure => cases h

/-- The world that a reading has left. -/
def left : EStateM.Result ε σ α → σ
  | .ok _ s => s
  | .error _ s => s

/-- From every world with `P` the reading ends with `e`, and leaves a world with `Q`. -/
def Gives (P : σ → Prop) (x : EStateM ε σ α) (e : Except ε α) (Q : σ → Prop) : Prop :=
  ∀ s, P s → outcome (x s) = e ∧ Q (left (x s))

variable {P Q R : σ → Prop}

theorem gives_pure (a : α) : Gives P (pure a : EStateM ε σ α) (.ok a) P :=
  fun _ hs => ⟨rfl, hs⟩

theorem gives_throw (e : ε) : Gives P (throw e : EStateM ε σ α) (.error e) P :=
  fun _ hs => ⟨rfl, hs⟩

theorem gives_modify {f : σ → σ} (h : ∀ s, P s → Q (f s)) :
    Gives P (modify f : EStateM ε σ Unit) (.ok ()) Q :=
  fun s hs => ⟨rfl, h s hs⟩

theorem gives_bind_ok {x : EStateM ε σ α} {f : α → EStateM ε σ β} {a : α} {e : Except ε β}
    (hx : Gives P x (.ok a) Q) (hf : Gives Q (f a) e R) : Gives P (x >>= f) e R := by
  intro s hs
  obtain ⟨ho, hl⟩ := hx s hs
  show outcome (EStateM.bind x f s) = e ∧ R (left (EStateM.bind x f s))
  unfold EStateM.bind
  cases hr : x s with
  | ok b s' =>
    rw [hr] at ho hl
    obtain rfl : b = a := Except.ok.inj ho
    exact hf s' hl
  | error failure s' =>
    rw [hr] at ho
    cases ho

theorem gives_bind_error {x : EStateM ε σ α} {f : α → EStateM ε σ β} {e : ε}
    (hx : Gives P x (.error e) Q) : Gives P (x >>= f) (.error e) Q := by
  intro s hs
  obtain ⟨ho, hl⟩ := hx s hs
  show outcome (EStateM.bind x f s) = .error e ∧ Q (left (EStateM.bind x f s))
  unfold EStateM.bind
  cases hr : x s with
  | ok a s' =>
    rw [hr] at ho
    cases ho
  | error failure s' =>
    rw [hr] at ho hl
    obtain rfl : failure = e := Except.error.inj ho
    exact ⟨rfl, hl⟩

theorem gives_map {x : EStateM ε σ α} {e : Except ε α} (f : α → β) (hx : Gives P x e Q) :
    Gives P (x >>= fun a => pure (f a)) (e.map f) Q := by
  cases e with
  | ok a => exact gives_bind_ok hx (gives_pure (f a))
  | error failure => exact gives_bind_error hx

/-- A reading of which the value, if there is one, is passed on after something has been done
with it. -/
theorem gives_tap {x : EStateM ε σ α} {f : α → EStateM ε σ α} {e : Except ε α}
    (hx : Gives P x e Q) (hf : ∀ a, e = .ok a → Gives Q (f a) (.ok a) Q) :
    Gives P (x >>= f) e Q := by
  cases e with
  | ok a => exact gives_bind_ok hx (hf a rfl)
  | error failure => exact gives_bind_error hx

/-- A reading that looks at the world first. -/
theorem gives_get_bind {f : σ → EStateM ε σ β} {e : Except ε β}
    (h : ∀ s, P s → Gives P (f s) e Q) : Gives P (get >>= f) e Q :=
  fun s hs => h s hs s hs

/-! ## Sequences of calls -/

section Answers

variable {κ : Type} {answer : κ → EStateM ε σ α} {plain : κ → Except ε α} {s : σ}

/-- The answers to calls, each of which finds the world that the one before it has left, and the
world that the last one leaves. A call that fails has its failure for an answer. -/
def answers (answer : κ → EStateM ε σ α) : List κ → σ → List (Except ε α) × σ
  | [], s => ([], s)
  | call :: rest, s =>
    let result := answer call s
    let later := answers answer rest (left result)
    (outcome result :: later.1, later.2)

/-- Calls of which each gives an answer of its own and keeps `P` are given these answers. -/
theorem answers_of_gives (h : ∀ call, Gives P (answer call) (plain call) P) (calls : List κ)
    (hs : P s) :
    (answers answer calls s).1 = calls.map plain ∧ P (answers answer calls s).2 := by
  induction calls generalizing s with
  | nil => exact ⟨rfl, hs⟩
  | cons call rest ih =>
    obtain ⟨ho, hl⟩ := h call s hs
    obtain ⟨hrest, hlast⟩ := ih hl
    exact ⟨by rw [answers, List.map_cons, ho, hrest], hlast⟩

/-- **Each call is answered as if it were the first one.** -/
theorem answers_eq_first (h : ∀ call, Gives P (answer call) (plain call) P) (calls : List κ)
    (hs : P s) :
    (answers answer calls s).1 = calls.map fun call => outcome (answer call s) := by
  rw [(answers_of_gives h calls hs).1]
  exact List.map_congr_left fun call _ => (h call s hs).1.symm

end Answers

/-! ## From one world -/

section Runs

variable {x : EStateM ε σ α} {f : α → EStateM ε σ β} {s : σ} {Q Q' : α → σ → Prop}
  {E E' : ε → σ → Prop}

/-- From the world `s` the reading ends with a value and a world in `Q`, or with a failure and a
world in `E`. -/
def Runs (x : EStateM ε σ α) (s : σ) (Q : α → σ → Prop) (E : ε → σ → Prop) : Prop :=
  match x s with
  | .ok a s' => Q a s'
  | .error e s' => E e s'

theorem runs_pure {a : α} (h : Q a s) : Runs (pure a : EStateM ε σ α) s Q E :=
  h

theorem runs_throw {e : ε} (h : E e s) : Runs (throw e : EStateM ε σ α) s Q E :=
  h

theorem runs_modify {g : σ → σ} {Q : Unit → σ → Prop} (h : Q () (g s)) :
    Runs (modify g : EStateM ε σ Unit) s Q E :=
  h

theorem runs_get_bind {g : σ → EStateM ε σ α} (h : Runs (g s) s Q E) : Runs (get >>= g) s Q E :=
  h

theorem runs_bind_iff {Q : β → σ → Prop} :
    Runs (x >>= f) s Q E ↔ Runs x s (fun a t => Runs (f a) t Q E) E := by
  show Runs (EStateM.bind x f) s Q E ↔ _
  unfold Runs EStateM.bind
  cases x s <;> exact Iff.rfl

theorem runs_bind {Q : β → σ → Prop} (h : Runs x s (fun a t => Runs (f a) t Q E) E) :
    Runs (x >>= f) s Q E :=
  runs_bind_iff.mpr h

theorem Runs.imp (h : Runs x s Q E) (hq : ∀ a t, Q a t → Q' a t) (he : ∀ e t, E e t → E' e t) :
    Runs x s Q' E' := by
  unfold Runs at h ⊢
  cases hx : x s with
  | ok a t =>
    rw [hx] at h
    exact hq a t h
  | error e t =>
    rw [hx] at h
    exact he e t h

theorem Runs.of_error (h : Runs x s Q E) {e : ε} {s' : σ} (hx : x s = .error e s') : E e s' := by
  unfold Runs at h
  rw [hx] at h
  exact h

/-- What is true of the world however the reading ends. -/
theorem Runs.left {P : σ → Prop} (h : Runs x s Q E) (hq : ∀ a t, Q a t → P t)
    (he : ∀ e t, E e t → P t) : P (Reading.left (x s)) := by
  unfold Runs at h
  cases hx : x s with
  | ok a t =>
    rw [hx] at h
    exact hq a t h
  | error e t =>
    rw [hx] at h
    exact he e t h

end Runs

/-! ## Readings of scripts -/

/-- The stores with `P` are told by what they store and by what is in progress, not by the tally,
the opened files or the journal. -/
def Blind (P : Store → Prop) : Prop :=
  ∀ s s' : Store, s'.scripts = s.scripts → s'.counts = s.counts → s'.parsing = s.parsing →
    s'.counting = s.counting → P s → P s'

section Blind

variable {P : Store → Prop}

theorem gives_tell (h : Blind P) (level : Journal.Level) (title : String)
    (values : List (String × Journal.Value)) : Gives P (Store.tell level title values) (.ok ()) P :=
  gives_modify fun s hs => h s _ rfl rfl rfl rfl hs

theorem gives_tallyUp (h : Blind P) (f : Tally → Tally) : Gives P (Store.tallyUp f) (.ok ()) P :=
  gives_modify fun s hs => h s _ rfl rfl rfl rfl hs

theorem gives_noteOpened (h : Blind P) (p : Path) : Gives P (Store.noteOpened p) (.ok ()) P :=
  gives_modify fun s hs => h s _ rfl rfl rfl rfl hs

end Blind

/-- A reading between two changes of the store. -/
theorem gives_between {before after : Store → Store} {x : Reading α} {e : Except Failure α}
    {P P' Q Q' : Store → Prop} (hb : ∀ s, P s → P' (before s)) (hx : Gives P' x e Q')
    (ha : ∀ s, Q' s → Q (after s)) : Gives P (Store.between before after x) e Q := by
  intro s hs
  obtain ⟨ho, hl⟩ := hx (before s) (hb s hs)
  unfold Store.between
  cases hr : x (before s) with
  | ok a s' =>
    rw [hr] at ho hl
    exact ⟨ho, ha s' hl⟩
  | error failure s' =>
    rw [hr] at ho hl
    exact ⟨ho, ha s' hl⟩

theorem runs_between {before after : Store → Store} {x : Reading α} {s : Store}
    {Q : α → Store → Prop} {E : Failure → Store → Prop}
    (h : Runs x (before s) (fun a t => Q a (after t)) fun e t => E e (after t)) :
    Runs (Store.between before after x) s Q E := by
  unfold Runs Store.between at *
  cases hx : x (before s) with
  | ok a t =>
    rw [hx] at h
    exact h
  | error e t =>
    rw [hx] at h
    exact h

/-- Looking up where a location leads. -/
theorem gives_resolve_bind {disk : Disk} {l : Location} {k : Path → Reading α}
    {e : Except Failure α} {P Q : Store → Prop} (hl : l.isSound = true)
    (hk : Gives P (k (disk.canonical l)) e Q) : Gives P (Store.resolve disk l >>= k) e Q := by
  rw [Store.resolve, if_pos hl]
  exact hk

theorem gives_resolve_bind_of_not_sound {disk : Disk} {l : Location} {k : Path → Reading α}
    {P : Store → Prop} (hl : l.isSound = false) :
    Gives P (Store.resolve disk l >>= k) (.error .badPath) P := by
  rw [Store.resolve, if_neg (Bool.eq_false_iff.mp hl)]
  exact gives_throw Failure.badPath

end Reading

end FrameScript
