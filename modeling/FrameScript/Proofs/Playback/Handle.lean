import FrameScript.Proofs.Playback.Exclusive

/-!
# How a started run ends

Whoever starts a run gets a handle of it and goes on. A worker plays the run, and when that is over
it closes the run stroke by stroke: it gives the device back, writes down the report and the
failure, of which there is one, and declares the run over. Between any two strokes the other callers
may do what they like, and one of them may get the device that has been given back before anybody
can see that the run is over.

`Office` is `Traffic` with the handles and with a book for each call, in which stand the strokes
that have been made and those that are still to be made. A stroke takes a step of its own.

## Results

* `wellFounded_deal`, `exists_deal`: a call is never stuck, and has a limited number of dealings
  left, whatever answers its run gets.
* `traffic_of_reaches`: without the books, what comes about in an office is traffic.
* `kept_of_reaches`: the book of a call tells how far it has come.
* `reaches_start`: a run that a scheduler starts and waits for is closed in this way.
* `ends_cleanly`: **a run that is over has given the device back and has one outcome**, which is the
  one that its loop has ended with.
-/

namespace FrameScript

variable {σ τ : Type}

/-! ## Handles and strokes -/

/-- One stroke in the course of a call: the device is taken or given back, the report or the failure
of a run is written down, or a run is declared over. -/
inductive Stroke (τ : Type) where
  | take
  | giveBack
  | report (report : Option (Report τ))
  | failure (failure : Option Failure)
  | publish

/-- The handle of a run: its report and its failure as far as they are written down, and whether it
is over. -/
structure Handle (τ : Type) where
  report : Option (Report τ)
  failure : Option Failure
  isDone : Bool

namespace Handle

/-- The handle of a run that has just been started. -/
def fresh : Handle τ :=
  ⟨none, none, false⟩

/-- The handle after a stroke. -/
def write (handle : Handle τ) : Stroke τ → Handle τ
  | .take | .giveBack => handle
  | .report report => { handle with report }
  | .failure failure => { handle with failure }
  | .publish => { handle with isDone := true }

/-- What somebody gets who waits for the run: nothing while it goes on, and after that its failure
if there is one, or else its report. -/
def wait? (handle : Handle τ) : Option (Except Failure (Option (Report τ))) :=
  if handle.isDone then
    match handle.failure with
    | some failure => some (.error failure)
    | none => some (.ok handle.report)
  else none

end Handle

namespace Scheduler

/-- The failure that has stopped a run, if there is one. -/
def Run.failure? (run : Run τ) : Option Failure :=
  match run.outcome with
  | .ok _ => none
  | .error failure => some failure

/-- The strokes with which the end of a run is written down. -/
def Run.closing (run : Run τ) : List (Stroke τ) :=
  [.report run.report?, .failure run.failure?, .publish]

/-- The handle of a run that is over. -/
def Run.handle (run : Run τ) : Handle τ :=
  ⟨run.report?, run.failure?, true⟩

/-- What is left to be done when the run of a call is over and the device has been given back. Only
runs with a worker of their own have a handle. -/
def Call.closing (call : Call) (outcome : Except Failure (Report τ)) : List (Stroke τ) :=
  match call with
  | quick _ | timed _ => []
  | start _ => Run.closing ⟨outcome⟩

/-- **Who waits for a run that is over gets its report, or its failure.** -/
theorem Run.wait?_handle (run : Run τ) : run.handle.wait? = some (run.outcome.map some) := by
  obtain ⟨outcome⟩ := run
  cases outcome <;> rfl

theorem Run.foldl_closing (run : Run τ) : run.closing.foldl Handle.write .fresh = run.handle :=
  rfl

/-- A run is declared over by the last stroke. -/
theorem Run.todo_eq_nil {run : Run τ} {written todo : List (Stroke τ)}
    (h : written ++ todo = run.closing)
    (hd : (written.foldl Handle.write .fresh).isDone = true) : todo = [] := by
  unfold closing at h
  match written, h with
  | [], _ => cases hd
  | [_], h =>
    cases h
    cases hd
  | [_, _], h =>
    cases h
    cases hd
  | _ :: _ :: _ :: rest, h =>
    simp only [List.cons_append, List.cons.injEq, List.append_eq_nil_iff] at h
    exact h.2.2.2.2

end Scheduler

/-! ## Dealings -/

/-- What a process does that gives notice of a failure is what it does otherwise, and perhaps the
notice. -/
theorem Process.Follows.of_noteStop {p : Process τ (Report τ)} {deeds : List (Deed τ)}
    {outcome : Except Failure (Report τ)} (h : p.noteStop.Follows deeds (.ended outcome)) :
    ∃ loop rest, deeds = loop ++ rest ∧ p.Follows loop (.ended outcome) := by
  induction p generalizing deeds with
  | ended own =>
    cases own with
    | ok report =>
      cases h
      exact ⟨[], [], rfl, .refl _⟩
    | error failure =>
      cases h with
      | head taken h =>
        cases h
        exact ⟨[], _, rfl, .refl _⟩
  | doing act next ih =>
    cases h with
    | head taken h =>
      obtain ⟨loop, rest, rfl, hloop⟩ := ih _ h
      exact ⟨_ :: loop, rest, rfl, .head taken hloop⟩

/-- The book of a call: the handle of its run, the strokes that have been made, and those that are
still to be made. -/
structure Book (τ : Type) where
  handle : Handle τ
  made : List (Stroke τ)
  todo : List (Stroke τ)

namespace Book

/-- The book of a call that has the device. -/
def opened : Book τ :=
  ⟨.fresh, [.take], []⟩

/-- The book of a call that was refused. -/
def refused : Book τ :=
  ⟨.fresh, [], []⟩

end Book

section Dealings

variable [Timeline τ]

/-- A dealing of a call, with its book: the call plays; it fails before it plays, or its run is
over, and the device is given back; a stroke is made that was to be made; or, when none is left, who
waits for it knows the outcome. -/
inductive Deal (compiler : Compiler) (period : Option (Period τ)) :
    Desk (List Event) → Entry τ × Book τ → Desk (List Event) → Entry τ × Book τ → Prop
  | play {desk desk' : Desk (List Event)} {entry entry' : Entry τ} (book : Book τ)
      (h : Turn compiler period desk entry desk' entry') (hh : entry'.phase.holds = true) :
      Deal compiler period desk (entry, book) desk' (entry', book)
  | balk (desk : Desk (List Event)) (call : Scheduler.Call) (deeds : List (Deed τ))
      (book : Book τ) (failure : Failure) :
      Deal compiler period desk (⟨call, deeds, .opened⟩, book)
        desk.release (⟨call, deeds, .left (.error failure)⟩,
          { book with made := book.made ++ [.giveBack] })
  | leave (desk : Desk (List Event)) (call : Scheduler.Call) (deeds : List (Deed τ))
      (book : Book τ) (outcome : Except Failure (Report τ)) :
      Deal compiler period desk (⟨call, deeds, .playing (.ended outcome)⟩, book)
        desk.release (⟨call, deeds, .left outcome⟩,
          { book with made := book.made ++ [.giveBack], todo := call.closing outcome })
  | write (desk : Desk (List Event)) (call : Scheduler.Call) (deeds : List (Deed τ))
      (outcome : Except Failure (Report τ)) (handle : Handle τ) (made : List (Stroke τ))
      (stroke : Stroke τ) (todo : List (Stroke τ)) :
      Deal compiler period desk (⟨call, deeds, .left outcome⟩, ⟨handle, made, stroke :: todo⟩)
        desk (⟨call, deeds, .left outcome⟩, ⟨handle.write stroke, made ++ [stroke], todo⟩)
  | settle (desk : Desk (List Event)) (call : Scheduler.Call) (deeds : List (Deed τ))
      (outcome : Except Failure (Report τ)) (handle : Handle τ) (made : List (Stroke τ)) :
      Deal compiler period desk (⟨call, deeds, .left outcome⟩, ⟨handle, made, []⟩)
        desk (⟨call, deeds, .settled outcome⟩, ⟨handle, made, []⟩)

variable {compiler : Compiler} {period : Option (Period τ)} {desk desk' : Desk (List Event)}
  {entry entry' : Entry τ} {book book' : Book τ} {call : Scheduler.Call} {deeds : List (Deed τ)}
  {outcome : Except Failure (Report τ)}

/-- The second of two states of a call makes way for the first one by a dealing, at some desk. -/
def Ensues (compiler : Compiler) (period : Option (Period τ)) (x' x : Entry τ × Book τ) : Prop :=
  ∃ desk desk', Deal compiler period desk x desk' x'

theorem acc_left (handle : Handle τ) (made todo : List (Stroke τ)) :
    Acc (Ensues compiler period) (⟨call, deeds, .left outcome⟩, ⟨handle, made, todo⟩) := by
  induction todo generalizing handle made with
  | nil =>
    refine Acc.intro _ ?_
    rintro x ⟨desk, desk', h⟩
    cases h with
    | play book h hh =>
      cases h
      cases hh
    | settle =>
      refine Acc.intro _ ?_
      rintro x ⟨desk, desk', h⟩
      cases h with
      | play book h hh => cases h
  | cons stroke todo ih =>
    refine Acc.intro _ ?_
    rintro x ⟨desk, desk', h⟩
    cases h with
    | play book h hh =>
      cases h
      cases hh
    | write => exact ih _ _

theorem acc_within {act : Act τ} {next : act.Answer → Process τ (Report τ)}
    (h : ∀ answer deeds, Acc (Ensues compiler period) (⟨call, deeds, .playing (next answer)⟩, book))
    (deeds : List (Deed τ)) (taken : Bool) :
    Acc (Ensues compiler period) (⟨call, deeds, .within act taken next⟩, book) := by
  have htaken : Acc (Ensues compiler period) (⟨call, deeds, .within act true next⟩, book) := by
    refine Acc.intro _ ?_
    rintro x ⟨desk, desk', hd⟩
    cases hd with
    | play book ht hh =>
      cases ht with
      | conclude => exact h _ _
  cases taken with
  | true => exact htaken
  | false =>
    refine Acc.intro _ ?_
    rintro x ⟨desk, desk', hd⟩
    cases hd with
    | play book ht hh =>
      cases ht with
      | take => exact htaken
      | conclude => exact h _ _

theorem acc_playing (p : Process τ (Report τ)) (deeds : List (Deed τ)) :
    Acc (Ensues compiler period) (⟨call, deeds, .playing p⟩, book) := by
  induction p generalizing deeds with
  | ended outcome =>
    refine Acc.intro _ ?_
    rintro x ⟨desk, desk', h⟩
    cases h with
    | play book h hh =>
      cases h
      cases hh
    | leave => exact acc_left _ _ _
  | doing act next ih =>
    refine Acc.intro _ ?_
    rintro x ⟨desk, desk', h⟩
    cases h with
    | play book h hh =>
      cases h with
      | undertake => exact acc_within ih deeds false

/-- **Every call comes to an end**: none goes on without limit, whatever answers its run gets and
whatever the others do. -/
theorem wellFounded_deal : WellFounded (Ensues compiler period) := by
  refine ⟨fun ⟨⟨call, deeds, phase⟩, book⟩ => ?_⟩
  cases phase with
  | playing p => exact acc_playing p deeds
  | within act taken next => exact acc_within (fun answer => acc_playing (next answer)) deeds taken
  | left outcome => exact acc_left _ _ _
  | opened =>
    refine Acc.intro _ ?_
    rintro x ⟨desk, desk', h⟩
    cases h with
    | play book h hh =>
      cases h with
      | begin => exact acc_playing _ _
      | balk => cases hh
    | balk => exact acc_left _ _ _
  | settled outcome | refused failure =>
    refine Acc.intro _ ?_
    rintro x ⟨desk, desk', h⟩
    cases h with
    | play book h hh => cases h

omit [Timeline τ] in
theorem Act.nonempty_answer (act : Act τ) : Nonempty act.Answer :=
  match act with
  | .now => ⟨(.error .busy : Except Failure τ)⟩
  | .wait _ => ⟨(.ok false : Except Failure Bool)⟩
  | .send _ => ⟨(.ok () : Except Failure Unit)⟩
  | .ask => ⟨false⟩
  | .note _ => ⟨()⟩

/-- **No call is ever stuck**: unless it was refused or its outcome is known, it can go on at any
desk, within an act by an answer. -/
theorem exists_deal (desk : Desk (List Event)) (x : Entry τ × Book τ) :
    (∃ desk' x', Deal compiler period desk x desk' x') ∨
      (∃ outcome, x.1.phase = .settled outcome) ∨ x.1.phase.isRefused = true := by
  obtain ⟨⟨call, deeds, phase⟩, ⟨handle, made, todo⟩⟩ := x
  cases phase with
  | opened => exact Or.inl ⟨_, _, .play _ (.begin desk call deeds) rfl⟩
  | playing p =>
    cases p with
    | ended outcome => exact Or.inl ⟨_, _, .leave desk call deeds _ outcome⟩
    | doing act next => exact Or.inl ⟨_, _, .play _ (.undertake desk call deeds act next) rfl⟩
  | within act taken next =>
    obtain ⟨answer⟩ := act.nonempty_answer
    exact Or.inl ⟨_, _, .play _ (.conclude desk call deeds act taken next answer) rfl⟩
  | left outcome =>
    cases todo with
    | nil => exact Or.inl ⟨_, _, .settle desk call deeds outcome handle made⟩
    | cons stroke todo =>
      exact Or.inl ⟨_, _, .write desk call deeds outcome handle made stroke todo⟩
  | settled outcome => exact Or.inr (Or.inl ⟨outcome, rfl⟩)
  | refused failure => exact Or.inr (Or.inr rfl)

/-- Without the books a dealing is a turn, or nothing. -/
theorem Deal.turn {x x' : Entry τ × Book τ} (h : Deal compiler period desk x desk' x') :
    Turn compiler period desk x.1 desk' x'.1 ∨ desk' = desk ∧ x'.1 = x.1 := by
  cases h with
  | play book ht hh => exact Or.inl ht
  | balk call deeds book failure => exact Or.inl (.balk desk call deeds failure)
  | leave call deeds book outcome => exact Or.inl (.leave desk call deeds outcome)
  | write => exact Or.inr ⟨rfl, rfl⟩
  | settle call deeds outcome => exact Or.inl (.settle desk call deeds outcome)

/-- A call that has given the device back and has nothing left to do keeps its book. -/
theorem Deal.book_eq {x x' : Entry τ × Book τ} (h : Deal compiler period desk x desk' x')
    (hh : x.1.phase.holds = false) (ht : x.2.todo = []) :
    x'.2 = x.2 ∧ x'.1.phase.holds = false := by
  cases h with
  | play book hturn hholds =>
    rw [hturn.holds_of_holds hholds] at hh
    cases hh
  | balk | leave => cases hh
  | write => cases ht
  | settle => exact ⟨rfl, rfl⟩

/-! ## Books -/

/-- The book of a call that has failed before it played. -/
def Book.balked : Book τ :=
  ⟨.fresh, [.take, .giveBack], []⟩

/-- The run of the call has ended with the outcome. The device has been given back, and the strokes
that are made and those that are still to be made are those that write down the outcome. -/
structure Book.Closes (compiler : Compiler) (period : Option (Period τ)) (entry : Entry τ)
    (book : Book τ) (outcome : Except Failure (Report τ)) : Prop where
  played : (entry.call.process compiler period).Follows entry.deeds (.ended outcome)
  written : ∃ written, book = ⟨written.foldl Handle.write .fresh, .take :: .giveBack :: written,
    book.todo⟩ ∧ written ++ book.todo = entry.call.closing outcome

/-- The book of a call tells how far the call has come. -/
def Kept (compiler : Compiler) (period : Option (Period τ)) (x : Entry τ × Book τ) : Prop :=
  match x.1.phase with
  | .refused _ => x.2 = .refused
  | .opened | .playing _ | .within .. => x.2 = .opened
  | .left outcome | .settled outcome =>
    x.2 = .balked ∨ x.2.Closes compiler period x.1 outcome

theorem kept_iff_of_holds (h : entry.phase.holds = true) :
    Kept compiler period (entry, book) ↔ book = .opened := by
  obtain ⟨call, deeds, phase⟩ := entry
  cases phase <;> first | exact Iff.rfl | cases h

/-- **A dealing keeps the book.** -/
theorem Deal.kept {x x' : Entry τ × Book τ} (h : Deal compiler period desk x desk' x')
    (ho : x.1.IsOwn compiler period) (hk : Kept compiler period x) :
    Kept compiler period x' := by
  cases h with
  | play book ht hh =>
    rw [kept_iff_of_holds (ht.holds_of_holds hh)] at hk
    exact (kept_iff_of_holds hh).mpr hk
  | balk call deeds book failure =>
    obtain rfl : book = .opened := hk
    exact Or.inl rfl
  | leave call deeds book outcome =>
    obtain rfl : book = .opened := hk
    exact Or.inr ⟨ho, [], rfl, rfl⟩
  | write call deeds outcome handle made stroke todo =>
    rcases hk with hk | ⟨hplayed, written, hbook, hclosing⟩
    · cases hk
    · refine Or.inr ⟨hplayed, written ++ [stroke], ?_, ?_⟩
      · simp only [Book.mk.injEq, and_true] at hbook
        obtain ⟨rfl, rfl⟩ := hbook
        simp
      · rw [List.append_assoc]
        exact hclosing
  | settle call deeds outcome handle made =>
    rcases hk with hk | ⟨hplayed, hwritten⟩
    · exact Or.inl hk
    · exact Or.inr ⟨hplayed, hwritten⟩

end Dealings

/-! ## Offices -/

/-- The desk with the device, and the calls that were made, in their order, each with its book. -/
structure Office (τ : Type) where
  desk : Desk (List Event)
  calls : List (Entry τ × Book τ)

namespace Office

/-- Before the first call. -/
def start : Office τ :=
  ⟨⟨false, []⟩, []⟩

/-- What is seen without the books. -/
def traffic (office : Office τ) : Traffic τ :=
  ⟨office.desk, office.calls.map Prod.fst⟩

/-- Somebody asks for a run. -/
def ask (office : Office τ) (call : Scheduler.Call) : Office τ :=
  match Desk.acquire office.desk with
  | .ok _ desk => ⟨desk, office.calls ++ [(⟨call, [], .opened⟩, .opened)]⟩
  | .error failure desk => ⟨desk, office.calls ++ [(⟨call, [], .refused failure⟩, .refused)]⟩

theorem ask_of_not_owned {office : Office τ} (h : office.desk.owned = false)
    (call : Scheduler.Call) :
    office.ask call = ⟨{ office.desk with owned := true },
      office.calls ++ [(⟨call, [], .opened⟩, .opened)]⟩ := by
  simp only [ask, Desk.acquire, h, Bool.false_eq_true, if_false]

theorem traffic_ask (office : Office τ) (call : Scheduler.Call) :
    (office.ask call).traffic = office.traffic.ask call := by
  unfold ask Traffic.ask traffic
  cases Desk.acquire office.desk <;> simp

variable [Timeline τ]

/-- What may happen next: somebody asks for a run, or a call deals. -/
inductive Step (compiler : Compiler) (period : Option (Period τ)) : Office τ → Office τ → Prop
  | ask (office : Office τ) (call : Scheduler.Call) :
      Step compiler period office (office.ask call)
  | deal {desk desk' : Desk (List Event)} {x x' : Entry τ × Book τ}
      (before after : List (Entry τ × Book τ)) (h : Deal compiler period desk x desk' x') :
      Step compiler period ⟨desk, before ++ x :: after⟩ ⟨desk', before ++ x' :: after⟩

/-- What may come about, in any number of steps. -/
abbrev Reaches (compiler : Compiler) (period : Option (Period τ)) : Office τ → Office τ → Prop :=
  Relation.ReflTransGen (Step compiler period)

variable {compiler : Compiler} {period : Option (Period τ)} {office next : Office τ} {i : Nat}
  {entry : Entry τ} {book : Book τ}

theorem Step.traffic (h : Step compiler period office next) :
    Traffic.Reaches compiler period office.traffic next.traffic := by
  cases h with
  | ask _ call =>
    rw [traffic_ask]
    exact .single (.ask office.traffic call)
  | @deal desk desk' x x' before after h =>
    simp only [Office.traffic, List.map_append, List.map_cons]
    rcases h.turn with ht | ⟨rfl, hx⟩
    · exact .single (.turn _ _ ht)
    · rw [hx]

/-- **Without the books, what comes about in an office is traffic.** -/
theorem traffic_of_reaches (h : Reaches compiler period start office) :
    Traffic.Reaches compiler period .start office.traffic := by
  induction h with
  | refl => exact .refl
  | tail _ hs ih => exact ih.trans hs.traffic

theorem Step.kept (h : Step compiler period office next)
    (ho : ∀ x ∈ office.calls, x.1.IsOwn compiler period)
    (hk : ∀ x ∈ office.calls, Kept compiler period x) :
    ∀ x ∈ next.calls, Kept compiler period x := by
  cases h with
  | ask _ call =>
    unfold Office.ask
    split <;> exact List.forall_mem_append.mpr ⟨hk, List.forall_mem_singleton.mpr rfl⟩
  | @deal desk desk' x x' before after h =>
    obtain ⟨hbefore, hrest⟩ := List.forall_mem_append.mp hk
    obtain ⟨hx, hafter⟩ := List.forall_mem_cons.mp hrest
    have hown := ho x (List.mem_append_right _ List.mem_cons_self)
    exact List.forall_mem_append.mpr ⟨hbefore, List.forall_mem_cons.mpr ⟨h.kept hown hx, hafter⟩⟩

/-- **The book of every call tells how far the call has come.** -/
theorem kept_of_reaches (h : Reaches compiler period start office) :
    ∀ x ∈ office.calls, Kept compiler period x := by
  induction h with
  | refl => exact fun x hm => absurd hm List.not_mem_nil
  | @tail office next hr hs ih =>
    have horder := Traffic.orderly_of_reaches (traffic_of_reaches hr)
    exact hs.kept (fun x hm => horder.own x.1 (List.mem_map_of_mem hm)) ih

/-! ## Runs on a rig -/

/-- A call plays along its process, undisturbed. -/
theorem reaches_of_follows {p q : Process τ (Report τ)} {deeds : List (Deed τ)}
    (h : p.Follows deeds q) (desk : Desk (List Event)) (calls : List (Entry τ × Book τ))
    (call : Scheduler.Call) (done : List (Deed τ)) (book : Book τ) :
    Reaches compiler period ⟨desk, calls ++ [(⟨call, done, .playing p⟩, book)]⟩
      ⟨{ desk with world := desk.world ++ deeds.flatMap Deed.events },
        calls ++ [(⟨call, done ++ deeds, .playing q⟩, book)]⟩ := by
  have hstep (x x' : Desk (List Event) × Entry τ) (hplay : Plays compiler period x x') :
      Step compiler period ⟨x.1, calls ++ [(x.2, book)]⟩ ⟨x'.1, calls ++ [(x'.2, book)]⟩ :=
    .deal calls [] (.play book hplay.1 hplay.2)
  exact (plays_of_follows h desk call done).lift
    (fun x => (⟨x.1, calls ++ [(x.2, book)]⟩ : Office τ)) hstep

/-- A run of which the loop has ended gives the device back and is closed, stroke by stroke. -/
theorem reaches_closed (desk : Desk (List Event)) (calls : List (Entry τ × Book τ))
    (instructions : List Instruction) (deeds : List (Deed τ)) (run : Scheduler.Run τ) :
    Reaches compiler period
      ⟨desk, calls ++ [(⟨.start instructions, deeds, .playing (.ended run.outcome)⟩, .opened)]⟩
      ⟨desk.release, calls ++ [(⟨.start instructions, deeds, .left run.outcome⟩,
        ⟨run.handle, .take :: .giveBack :: run.closing, []⟩)]⟩ :=
  ((((Relation.ReflTransGen.single (.deal calls [] (.leave _ _ _ _ _))).tail
    (.deal calls [] (.write _ _ _ _ _ _ _ _))).tail
    (.deal calls [] (.write _ _ _ _ _ _ _ _))).tail
    (.deal calls [] (.write _ _ _ _ _ _ _ _)))

/-- **A run that a scheduler starts and waits for is closed in this way**: on a rig with a log, the
run and the log that are left are those of a call that plays undisturbed and has written down how
it ended. -/
theorem reaches_start {scheduler : Scheduler σ τ} {log : σ → List Event}
    (hl : scheduler.rig.Logs fun desk => log desk.world) {desk : Desk σ}
    (ho : desk.owned = false) (calls : List (Entry τ × Book τ)) (instructions : List Instruction) :
    ∃ run desk' deeds, scheduler.start instructions desk = .ok run desk' ∧
      Reaches scheduler.compiler scheduler.period ⟨⟨false, log desk.world⟩, calls⟩
        ⟨⟨desk'.owned, log desk'.world⟩, calls ++ [(⟨.start instructions, deeds, .left run.outcome⟩,
          ⟨run.handle, .take :: .giveBack :: run.closing, []⟩)]⟩ := by
  obtain ⟨deeds, hfollows, hlog⟩ := Process.follows_run hl
    ((Scheduler.Call.start instructions).process scheduler.compiler scheduler.period)
    { desk with owned := true }
  have hserve : scheduler.serve desk (.start instructions) = _ := Scheduler.serve_of_not_owned ho _
  simp only [Scheduler.serve, Scheduler.start, Desk.acquire, ho, Bool.false_eq_true, if_false,
    Prod.mk.injEq] at hserve
  obtain ⟨houtcome, hdesk⟩ := hserve
  refine ⟨(scheduler.work instructions { desk with owned := true }).1,
    (scheduler.work instructions { desk with owned := true }).2, deeds, ?_, ?_⟩
  · simp only [Scheduler.start, Desk.acquire, ho, Bool.false_eq_true, if_false]
  rw [← houtcome] at hfollows
  have hask : Reaches scheduler.compiler scheduler.period ⟨⟨false, log desk.world⟩, calls⟩
      ⟨⟨true, log desk.world⟩, calls ++ [(⟨.start instructions, [], .opened⟩, .opened)]⟩ :=
    .single (.ask ⟨⟨false, log desk.world⟩, calls⟩ (.start instructions))
  have hbegin := hask.tail (.deal calls [] (.play .opened (.begin _ _ []) rfl))
  have hplay := hbegin.trans (reaches_of_follows hfollows _ calls _ [] .opened)
  have hclosed := hplay.trans (reaches_closed _ calls instructions _ _)
  rw [hdesk]
  simp only [Desk.release, List.nil_append] at hclosed ⊢
  rw [hlog]
  exact hclosed

/-! ## Runs that are over -/

/-- A call that has given the device back and has nothing left to do keeps its book for good. -/
theorem Step.book_eq (h : Step compiler period office next)
    (hi : office.calls[i]? = some (entry, book)) (hh : entry.phase.holds = false)
    (ht : book.todo = []) :
    ∃ entry', next.calls[i]? = some (entry', book) ∧ entry'.phase.holds = false := by
  cases h with
  | ask _ call =>
    have hlt : i < office.calls.length := (List.getElem?_eq_some_iff.mp hi).1
    refine ⟨entry, ?_, hh⟩
    unfold Office.ask
    split <;> exact (List.getElem?_append_left hlt).trans hi
  | @deal desk desk' x x' before after h =>
    have hset : before ++ x' :: after = (before ++ x :: after).set before.length x' := by simp
    by_cases he : before.length = i
    · subst he
      rw [List.getElem?_append_right (Nat.le_refl _), Nat.sub_self] at hi
      obtain rfl : x = (entry, book) := Option.some.inj hi
      obtain ⟨hbook, hholds⟩ := h.book_eq hh ht
      refine ⟨x'.1, ?_, hholds⟩
      rw [List.getElem?_append_right (Nat.le_refl _), Nat.sub_self, List.getElem?_cons_zero]
      exact congrArg some (Prod.ext rfl hbook)
    · exact ⟨entry, by rw [hset, List.getElem?_set_ne he]; exact hi, hh⟩

theorem book_eq_of_reaches {later : Office τ} (h : Reaches compiler period office later)
    (hi : office.calls[i]? = some (entry, book)) (hh : entry.phase.holds = false)
    (ht : book.todo = []) :
    ∃ entry', later.calls[i]? = some (entry', book) ∧ entry'.phase.holds = false := by
  induction h with
  | refl => exact ⟨entry, hi, hh⟩
  | tail _ hs ih =>
    obtain ⟨entry', hi', hh'⟩ := ih
    exact hs.book_eq hi' hh' ht

/-- A call after the one with the number `i` has the device. -/
def HeldAfter (office : Office τ) (i : Nat) : Prop :=
  ∃ j x, i < j ∧ office.calls[j]? = some x ∧ x.1.phase.holds = true

/-- Once a call that was let in has given the device back, only a later call can have it. -/
theorem owned_iff_heldAfter (h : Reaches compiler period start office)
    (hi : office.calls[i]? = some (entry, book)) (hh : entry.phase.holds = false)
    (hr : entry.phase.isRefused = false) : office.desk.owned = true ↔ office.HeldAfter i := by
  have horder := Traffic.orderly_of_reaches (traffic_of_reaches h)
  have hentry {j : Nat} {x : Entry τ × Book τ} (hj : office.calls[j]? = some x) :
      office.traffic.entries[j]? = some x.1 := by
    rw [traffic, List.getElem?_map, hj, Option.map_some]
  have howned : office.desk.owned = true ↔ ∃ entry ∈ office.traffic.entries,
      entry.phase.holds = true := horder.owned
  rw [howned]
  constructor
  · rintro ⟨holder, hm, hholds⟩
    obtain ⟨x, hx, rfl⟩ := List.mem_map.mp hm
    obtain ⟨j, hj⟩ := List.mem_iff_getElem?.mp hx
    refine ⟨j, x, Nat.lt_of_not_le fun hle => ?_, hj, hholds⟩
    rcases Nat.lt_or_eq_of_le hle with hlt | rfl
    · -- The call was let in although an earlier one would have had the device.
      obtain ⟨hjlt, hjeq⟩ := List.getElem?_eq_some_iff.mp (hentry hj)
      obtain ⟨hilt, hieq⟩ := List.getElem?_eq_some_iff.mp (hentry hi)
      have hrefused := List.pairwise_iff_getElem.mp horder.apart j i hjlt hilt hlt
      rw [hjeq, hieq] at hrefused
      rw [hrefused hholds] at hr
      cases hr
    · rw [hi] at hj
      obtain rfl := Option.some.inj hj
      rw [hh] at hholds
      cases hholds
  · rintro ⟨j, x, -, hj, hholds⟩
    exact ⟨x.1, List.mem_map_of_mem (List.mem_of_getElem? hj), hholds⟩

/-- The run that was started by the call with the number `i` is over, with the outcome. The device
has been taken and given back once, and only then one report and one failure were written down, of
which one is there, and the run was declared over. Only a later call can have the device, and if
none has it, whoever asks next is let in. -/
structure IsOver (office : Office τ) (i : Nat) (outcome : Except Failure (Report τ)) : Prop where
  book : ∃ entry, office.calls[i]? = some (entry, ⟨Scheduler.Run.handle ⟨outcome⟩,
    .take :: .giveBack :: Scheduler.Run.closing ⟨outcome⟩, []⟩)
  owned : office.desk.owned = true ↔ office.HeldAfter i
  admits : ¬ office.HeldAfter i → ∀ call, office.ask call =
    ⟨{ office.desk with owned := true }, office.calls ++ [(⟨call, [], .opened⟩, .opened)]⟩

theorem isOver_of_reaches {outcome : Except Failure (Report τ)}
    (h : Reaches compiler period start office)
    (hi : office.calls[i]? = some (entry, ⟨Scheduler.Run.handle ⟨outcome⟩,
      .take :: .giveBack :: Scheduler.Run.closing ⟨outcome⟩, []⟩))
    (hh : entry.phase.holds = false) (hr : entry.phase.isRefused = false) :
    office.IsOver i outcome := by
  have howned := owned_iff_heldAfter h hi hh hr
  refine ⟨⟨entry, hi⟩, howned, fun hnobody call => ask_of_not_owned ?_ call⟩
  exact Bool.eq_false_iff.mpr (mt howned.mp hnobody)

end Office

section Ending

variable [Timeline τ] {compiler : Compiler} {period : Option (Period τ)} {entry : Entry τ}
  {book : Book τ}

/-- The book of a run that is declared over is closed. -/
theorem Kept.closes_of_isDone (hk : Kept compiler period (entry, book))
    (hd : book.handle.isDone = true) :
    entry.phase.holds = false ∧ entry.phase.isRefused = false ∧
      ∃ outcome, book.Closes compiler period entry outcome := by
  obtain ⟨call, deeds, phase⟩ := entry
  cases phase with
  | left outcome | settled outcome =>
    rcases hk with rfl | hclosed
    · cases hd
    · exact ⟨rfl, rfl, outcome, hclosed⟩
  | opened | playing rest | within act taken next | refused failure =>
    obtain rfl := hk
    cases hd

theorem Book.Closes.eq_of_start {instructions : List Instruction}
    {outcome : Except Failure (Report τ)} (h : book.Closes compiler period entry outcome)
    (hc : entry.call = .start instructions) (hd : book.handle.isDone = true) :
    book = ⟨Scheduler.Run.handle ⟨outcome⟩,
      .take :: .giveBack :: Scheduler.Run.closing ⟨outcome⟩, []⟩ := by
  obtain ⟨-, written, hbook, hclosing⟩ := h
  rw [hc, Scheduler.Call.closing] at hclosing
  rw [hbook] at hd
  have htodo := Scheduler.Run.todo_eq_nil hclosing hd
  rw [htodo, List.append_nil] at hclosing
  rw [hbook, htodo, hclosing, Scheduler.Run.foldl_closing]

end Ending

namespace Office

variable [Timeline τ] {compiler : Compiler} {period : Option (Period τ)} {office : Office τ}
  {i : Nat} {entry : Entry τ} {book : Book τ}

/-- **A started run ends cleanly.** In whatever order callers take their turns, and whatever a
device, a clock or a listener comes up with: once a run that was started is over, its loop has
ended, with a report or a failure; who waits for the run gets just that; and from then on the book
of the run says that the device was given back before, once, and that the outcome was written down,
once. The device is not taken unless by a later call, and if by none, nobody who asks is refused. -/
theorem ends_cleanly (h : Reaches compiler period start office)
    (hi : office.calls[i]? = some (entry, book)) {instructions : List Instruction}
    (hc : entry.call = .start instructions) (hd : book.handle.isDone = true) :
    ∃ outcome loop rest, entry.deeds = loop ++ rest ∧
      (Process.timedWith compiler period instructions).Follows loop (.ended outcome) ∧
      book.handle.wait? = some (outcome.map some) ∧
      ∀ later, Reaches compiler period office later → later.IsOver i outcome := by
  have hkept := kept_of_reaches h (entry, book) (List.mem_of_getElem? hi)
  obtain ⟨hh, hr, outcome, hclosed⟩ := hkept.closes_of_isDone hd
  have hplayed := hclosed.played
  rw [hc] at hplayed
  obtain ⟨loop, rest, hdeeds, hloop⟩ := hplayed.of_noteStop
  obtain rfl := hclosed.eq_of_start hc hd
  refine ⟨outcome, loop, rest, hdeeds, hloop, Scheduler.Run.wait?_handle ⟨outcome⟩,
    fun later hlater => ?_⟩
  obtain ⟨entry', hi', -⟩ := book_eq_of_reaches hlater hi hh rfl
  have hreached := h.trans hlater
  obtain ⟨hh', hr', -⟩ :=
    (kept_of_reaches hreached (entry', _) (List.mem_of_getElem? hi')).closes_of_isDone rfl
  exact isOver_of_reaches hreached hi' hh' hr'

/-- A clock stops before the first instruction. When the device has been given back, and before the
failure is written down, somebody else gets the device: the run ends with the failure of the clock
all the same, and its handle leaves the device to the later call. -/
theorem ends_cleanly_overtaken :
    ∃ (office : Office Int) (entry : Entry Int) (book : Book Int),
      Reaches ⟨⟨0, 0⟩, false⟩ (some ⟨.whole 16, 16, 16⟩) start office ∧
      office.calls[0]? = some (entry, book) ∧ book.handle.isDone = true ∧
      office.desk.owned = true ∧ office.IsOver 0 (.error (.device "the clock has stopped")) := by
  have hopen : Reaches ⟨⟨0, 0⟩, false⟩ (some ⟨.whole 16, 16, 16⟩) (start : Office Int)
      ⟨⟨true, []⟩, [(⟨.start [], [], .playing ((Scheduler.Call.start []).process ⟨⟨0, 0⟩, false⟩
        (some ⟨.whole 16, 16, 16⟩))⟩, .opened)]⟩ :=
    (Relation.ReflTransGen.single (.ask start (.start []))).tail
      (.deal [] [] (.play .opened (.begin _ _ _) rfl))
  have hfollows : ((Scheduler.Call.start []).process ⟨⟨0, 0⟩, false⟩
      (some ⟨.whole 16, 16, 16⟩)).Follows
      [⟨.note (.timedStarted 0 (.whole 16)), (), false⟩,
        ⟨.now, .error (.device "the clock has stopped"), false⟩, ⟨.note .stopped, (), false⟩]
      (.ended (.error (.device "the clock has stopped")) : Process Int (Report Int)) :=
    .head false (.head false (.head false (.refl _)))
  have hplay := hopen.trans (reaches_of_follows hfollows ⟨true, []⟩ [] (.start []) [] .opened)
  have hleave := hplay.tail (.deal [] [] (.leave _ _ _ _ _))
  have hask := hleave.tail (.ask _ Traffic.moveOnce)
  have hclosed := ((hask.tail (.deal [] [_] (.write _ _ _ _ _ _ _ _))).tail
    (.deal [] [_] (.write _ _ _ _ _ _ _ _))).tail (.deal [] [_] (.write _ _ _ _ _ _ _ _))
  obtain ⟨outcome, -, -, -, -, hwait, hover⟩ :=
    ends_cleanly (i := 0) hclosed rfl rfl rfl
  obtain rfl : outcome = .error (.device "the clock has stopped") := by
    cases outcome <;> cases hwait
    rfl
  exact ⟨_, _, _, hclosed, rfl, rfl, rfl, hover _ .refl⟩

end Office

end FrameScript
