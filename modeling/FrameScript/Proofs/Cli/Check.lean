import FrameScript.Cli.Session
import FrameScript.Proofs.Agreement
import FrameScript.Proofs.Count.Memo
import FrameScript.Proofs.Disk.Written
import FrameScript.Proofs.Script.Excess
import FrameScript.Proofs.Script.Untouched

/-!
# Checking a script on the command line

The command `check` loads and compiles a script, counts it, and prints what it holds. A failure that
has a kind is printed too, and only the exit code tells the difference; a failure without a kind is
passed on to whoever has called. What the answer looks like is left to the printer, and what is
shown here holds for all of them.

Scripts are nested here as deep as they like, and a link that leads back to itself is passed through
(`Disk.canonical`). A system that bounds the depth of calls, or that refuses such a link, has
failures of its own beside those of `Escapes`.

## Results

* `ends_runCheck`: what the command ends with.
* `read_check`: the command line `check file` asks for the check of the file.
* `check_ends`: **the command ends with one of two exit codes**, unless a file is excessive or the
  answer cannot be printed.
-/

namespace FrameScript.Cli

open Reading

variable {disk : Disk} {compiler : Compiler} {typed : Bool} {file : Text} {settings : Settings}
  {failure : Failure} {printer : Printer}

/-! ## Endings -/

section Ends

variable {ε σ α β : Type} {P P' : σ → Prop} {Q : α → Prop} {R : β → Prop} {E : ε → Prop}

/-- From every world with `P` the reading ends with a value of `Q`, or with a failure of `E`. -/
def Ends (P : σ → Prop) (x : EStateM ε σ α) (Q : α → Prop) (E : ε → Prop) : Prop :=
  ∀ s, P s → (∀ a, outcome (x s) = .ok a → Q a) ∧ ∀ e, outcome (x s) = .error e → E e

theorem ends_pure {a : α} (h : Q a) : Ends P (pure a : EStateM ε σ α) Q E := by
  refine fun s _ => ⟨fun b hb => ?_, fun e he => by cases he⟩
  cases hb
  exact h

theorem ends_throw {e : ε} (h : E e) : Ends P (throw e : EStateM ε σ α) Q E := by
  refine fun s _ => ⟨fun b hb => (by cases hb), fun fault he => ?_⟩
  cases he
  exact h

/-- A reading of which it is known what it gives, and what follows it. -/
theorem ends_bind {x : EStateM ε σ α} {f : α → EStateM ε σ β} {e : Except ε α}
    (hx : Gives P x e P') (he : ∀ fault, e = .error fault → E fault)
    (hf : ∀ a, e = .ok a → Ends P' (f a) R E) : Ends P (x >>= f) R E := by
  intro s hs
  cases e with
  | error fault =>
    rw [(gives_bind_error hx s hs).1]
    refine ⟨fun b hb => (by cases hb), fun other ho => ?_⟩
    cases ho
    exact he fault rfl
  | ok a =>
    obtain ⟨ho, hl⟩ := hx s hs
    show (∀ b, outcome (EStateM.bind x f s) = .ok b → R b) ∧
      ∀ e, outcome (EStateM.bind x f s) = .error e → E e
    unfold EStateM.bind
    cases hr : x s with
    | ok b s' =>
      rw [hr] at ho hl
      cases ho
      exact hf a rfl s' hl
    | error fault s' =>
      rw [hr] at ho
      cases ho

theorem tryCatch_of_ok {x : Reading α} {handle : Failure → Reading α} {a : α} {s s' : Store}
    (h : x s = .ok a s') : tryCatch x handle s = .ok a s' := by
  simp only [tryCatch, tryCatchThe, MonadExceptOf.tryCatch, EStateM.tryCatch, h]

theorem tryCatch_of_error {x : Reading α} {handle : Failure → Reading α} {e : Failure}
    {s s' : Store} (h : x s = .error e s') : tryCatch x handle s = handle e s' := by
  simp only [tryCatch, tryCatchThe, MonadExceptOf.tryCatch, EStateM.tryCatch, h]
  rfl

/-- A reading of which the failures are handled, in whatever world it leaves. -/
theorem ends_tryCatch {x : Reading α} {handle : Failure → Reading α} {P : Store → Prop}
    {Q Q' : α → Prop} {E E' : Failure → Prop} (hx : Ends P x Q E) (hq : ∀ a, Q a → Q' a)
    (hh : ∀ e, E e → Ends (fun _ => True) (handle e) Q' E') :
    Ends P (tryCatch x handle) Q' E' := by
  intro s hs
  obtain ⟨hok, herror⟩ := hx s hs
  cases hr : x s with
  | ok a s' =>
    rw [hr] at hok
    rw [tryCatch_of_ok hr]
    refine ⟨fun b hb => ?_, fun e he => by cases he⟩
    cases hb
    exact hq a (hok a rfl)
  | error e s' =>
    rw [hr] at herror
    rw [tryCatch_of_error hr]
    exact hh e (herror e rfl) s' trivial

end Ends

/-- The store holds scripts and counts that the files make on their own, and nothing is in
progress. -/
def Ready (disk : Disk) (store : Store) : Prop :=
  Script.Sound disk [] store ∧ Count.Sound disk [] store

theorem ready_empty (disk : Disk) : Ready disk Store.empty :=
  ⟨Script.sound_empty disk, Count.sound_empty disk⟩

theorem blind_ready (disk : Disk) : Blind (Ready disk) :=
  fun s s' hs hc hp hg h =>
    ⟨Script.blind_sound disk [] s s' hs hc hp hg h.1,
      Count.blind_sound disk [] s s' hs hc hp hg h.2⟩

theorem gives_load (l : Location) :
    Gives (Ready disk) (Script.load disk l typed) (Script.plainFileTyped disk l typed)
      (Ready disk) := by
  refine gives_tap (fun s hs => ?_) fun script _ =>
    gives_bind_ok (gives_tell (blind_ready disk) _ _ _) (gives_pure script)
  obtain ⟨ho, hl⟩ := Script.gives_parseFile_typed l typed s hs.1
  have hcounts : Store.countPart (left (Script.parseFile disk l typed s)) = Store.countPart s :=
    Script.leaves_parseFile l typed s
  obtain ⟨hkept, hcounting⟩ := Prod.mk.inj hcounts
  exact ⟨ho, hl, hcounting.trans hs.2.counting, fun p count hp =>
    hs.2.counts p count (hkept ▸ hp)⟩

/-! ## The command -/

/-- The script at the location has more frames than can be written as a number. -/
def Countless (disk : Disk) (l : Location) (typed : Bool) : Prop :=
  ∃ script, Script.plainFileTyped disk l typed = .ok script ∧
    Numeral.isWritable script.frames.length = false

/-- A failure that checking the script at a location passes on: an excess, a number of frames that
cannot be written, or an answer that cannot be laid out. It is complete for the disks and the depths
of this library only, as the header says. -/
inductive Escapes (disk : Disk) (l : Location) (typed : Bool) : Failure → Prop
  | excess {failure : Failure} (h : Exceeds disk l failure) : Escapes disk l typed failure
  | countless (h : Countless disk l typed) : Escapes disk l typed .longNumber
  | uncut : Escapes disk l typed .uncut

/-- A failure with which the command may end. -/
def MayFail (disk : Disk) (l : Location) (typed : Bool) (failure : Failure) : Prop :=
  failure.IsKnown ∨ Escapes disk l typed failure

section Command

variable {l : Location} {script : Script} {P : Store → Prop}

theorem countText_of_isWritable {n : Nat} (h : Numeral.isWritable n = true) :
    countText (some n) = pure (Text.ofInt n) := by
  rw [countText, printed, if_pos h]

theorem countText_of_not_isWritable {n : Nat} (h : Numeral.isWritable n = false) :
    countText (some n) = throw .longNumber := by
  rw [countText, printed, h]
  exact if_neg Bool.false_ne_true

theorem mayFail_of_cases (h : failure.IsKnown ∨ Exceeds disk l failure) :
    MayFail disk l typed failure :=
  h.imp_right .excess

/-- What has been laid out is printed. -/
theorem ends_drawn {shown : Option (List Text)} {f : List Text → Reply} {Q : Reply → Prop}
    {E : Failure → Prop} (hE : E .uncut) (hQ : ∀ lines, Q (f lines)) :
    Ends P (drawn shown >>= fun lines => pure (f lines)) Q E := by
  cases shown with
  | none => exact ends_throw hE
  | some lines => exact ends_pure (hQ lines)

theorem ends_pairTable (rows : List (String × Text)) {f : List Text → Reply} {Q : Reply → Prop}
    {E : Failure → Prop} (hE : E .uncut) (hQ : ∀ lines, Q (f lines)) :
    Ends P (pairTable printer rows >>= fun lines => pure (f lines)) Q E :=
  ends_drawn hE hQ

/-- **Checking a script ends with the exit code zero**, or with one of a few failures. -/
theorem ends_runCheck :
    Ends (Ready disk) (runCheck printer disk compiler typed file) (fun reply => reply.1 = 0)
      (MayFail disk (Location.read file) typed) := by
  unfold runCheck
  refine ends_bind (gives_load _) (fun fault h => mayFail_of_cases (Script.plainFileTyped_error h))
    fun script hscript => ?_
  refine ends_bind (Script.gives_compileTold (blind_ready disk) script.frames) (fun fault h => ?_)
    fun deltas _ => ?_
  · rcases Compiler.misread_of_compileAll h with hknown | ⟨frame, hf, hmis⟩
    · exact Or.inl hknown
    · exact mayFail_of_cases (Script.known_or_exceeds_of_misread hscript hf hmis)
  have hcount := Script.countFile_of_script hscript
  refine ends_bind (fun s hs => Count.gives_countFile _ s hs.2) (fun fault h => ?_)
    fun count h => ?_
  · rw [hcount] at h
    cases h
  · rw [hcount] at h
    cases h
    cases hw : Numeral.isWritable script.frames.length with
    | false =>
      rw [countText_of_not_isWritable hw]
      exact ends_throw (Or.inr (.countless ⟨script, hscript, hw⟩))
    | true =>
      rw [countText_of_isWritable hw]
      refine ends_bind (gives_pure _) (fun fault h => by cases h) fun counted _ => ?_
      split
      · rename_i fault hb
        obtain ⟨frame, hf, hmis⟩ := misread_of_mouseBounds hb
        exact ends_throw (mayFail_of_cases (Script.known_or_exceeds_of_misread hscript hf hmis))
      · exact ends_pairTable _ (Or.inr .uncut) fun _ => rfl

end Command

/-! ## The command line -/

section Words

variable {κ : Type} {grammar : Grammar κ}

/-- A word that does not begin with a dash is plain. -/
theorem classify?_of_head {word : Text} (h : word.head? ≠ some '-') :
    grammar.classify? word = some (.plain word) := by
  unfold Grammar.classify?
  split
  · exact absurd rfl h
  · rfl

theorem classifyAll?_of_heads {words : List Text} (h : ∀ word ∈ words, word.head? ≠ some '-') :
    grammar.classifyAll? words = some (words.map .plain) := by
  induction words with
  | nil => rfl
  | cons word rest ih =>
    have hword := h word List.mem_cons_self
    have hne : word ≠ ['-', '-'] := by
      rintro rfl
      exact hword rfl
    rw [Grammar.classifyAll?, if_neg hne, classify?_of_head hword,
      ih fun w hw => h w (List.mem_cons_of_mem word hw)]
    rfl

theorem scanWords_of_takeOperands {text : Text} {rest left : List (Word κ)}
    {operands : List Text}
    (h : takeOperands grammar.operands (.plain text :: rest) = some (operands, left)) :
    scanWords grammar true (.plain text :: rest) =
      (scanWords grammar false left).precede [.operands operands] := by
  rw [scanWords]
  · split
    · rename_i found later heq
      rw [if_pos rfl, h] at heq
      cases heq
      rfl
    · rename_i heq
      rw [if_pos rfl, h] at heq
      cases heq
  · intro _ _ _ he
    cases he
  · intro _ _ _ _ he
    cases he

/-- Words that do not begin with a dash are all operands, if there may be so many. -/
theorem scan_of_heads {first : Text} {rest operands : List Text}
    (h : ∀ word ∈ first :: rest, word.head? ≠ some '-')
    (ht : takeOperands grammar.operands ((first :: rest).map fun word => (.plain word : Word κ)) =
      some (operands, [])) :
    scan grammar (first :: rest) = ⟨[.operands operands], [], true⟩ := by
  unfold scan
  rw [classifyAll?_of_heads h]
  show scanWords grammar true (.plain first :: rest.map .plain) = _
  rw [scanWords_of_takeOperands ht, scanWords]
  rfl

end Words

/-- The request to check a file, with nothing else asked for. -/
def checkRequest (settings : Settings) (file : Text) : Request :=
  { xOffset := .absent, yOffset := .absent, typed := false, logLevel := .absent,
    jsonLogs := settings.logJson, command := .check file }

/-- **The command line asks for the check of a file** that does not look like a switch. -/
theorem read_check (settings : Settings) (h : file.head? ≠ some '-') :
    Request.read settings ["check".toList, file] = .ok (checkRequest settings file) := by
  have hwords : ∀ word ∈ ["check".toList, file], word.head? ≠ some '-' :=
    List.forall_mem_cons.mpr ⟨by decide, List.forall_mem_singleton.mpr h⟩
  have hmain : scan mainGrammar ["check".toList, file] =
      ⟨[.operands ["check".toList, file]], [], true⟩ := scan_of_heads hwords rfl
  have hcheck : scan Name.check.grammar [file] = ⟨[.operands [file]], [], true⟩ :=
    scan_of_heads (List.forall_mem_singleton.mpr h) rfl
  have hname : Name.read? "check".toList = some .check := by decide
  have hcommand : readCommand settings ["check".toList, file] = .ok (.check file) := by
    rw [readCommand, hname]
    simp only [hcheck]
    rfl
  have hdraft : (Draft.start settings).addAll settings [.operands ["check".toList, file]] =
      .ok { Draft.start settings with words := ["check".toList, file] } := rfl
  simp only [Request.read, hmain, hdraft, hcommand]
  rfl

/-! ## The answer -/

/-- A failure is printed if it has a kind, and else passed on. -/
theorem ends_failed {l : Location} {P : Store → Prop} (h : MayFail disk l typed failure) :
    Ends P (failed printer .check failure) (fun reply => reply.1 = 1) (Escapes disk l typed) := by
  unfold failed
  split
  · rename_i hk
    rcases h with hknown | hescapes
    · exact absurd hknown (Failure.not_isKnown_of_kind hk)
    · exact ends_throw hescapes
  · have hmodify (f : Store → Store) : Gives P (modify f : Reading Unit) (.ok ()) fun _ => True :=
      gives_modify fun _ _ => trivial
    refine ends_bind (hmodify _) (fun fault he => ?_) fun _ _ => ends_drawn .uncut fun _ => rfl
    cases he

/-- The command with its failures printed. -/
theorem ends_check :
    Ends (Ready disk) (tryCatch (runCheck printer disk compiler typed file) (failed printer .check))
      (fun reply => reply.1 = 0 ∨ reply.1 = 1) (Escapes disk (Location.read file) typed) := by
  refine ends_tryCatch ends_runCheck (fun _ => Or.inl) fun failure hfails s hs => ?_
  obtain ⟨hok, herror⟩ := ends_failed (P := fun _ => True) hfails s hs
  exact ⟨fun reply hr => Or.inr (hok reply hr), herror⟩

/-- Checking a file with no further options is the command with its failures printed. -/
theorem run_checkRequest {level : Journal.Level}
    (hl : Journal.Level.read? settings.logLevel = some level) :
    (checkRequest settings file).runOn printer settings disk =
      match tryCatch (runCheck printer disk (settings.compiler settings.offset) false file)
        (failed printer .check) Store.empty with
      | .error failure _ => .error failure
      | .ok (code, lines) store => .ok ⟨code, lines, settings.offset,
          (Journal.atLeast level.rank store.journal).reverse⟩ := by
  have hlevel : (checkRequest settings file).level settings = .ok settings.logLevel := rfl
  unfold Request.runOn
  simp only [hlevel, bind, Except.bind, hl]
  rfl

theorem ends_run_checkRequest {level : Journal.Level}
    (hl : Journal.Level.read? settings.logLevel = some level) :
    (∀ answer, (checkRequest settings file).runOn printer settings disk = .ok answer →
      answer.code = 0 ∨ answer.code = 1) ∧
    ∀ failure, (checkRequest settings file).runOn printer settings disk = .error failure →
      Escapes disk (Location.read file) false failure := by
  obtain ⟨hok, herror⟩ := @ends_check disk (settings.compiler settings.offset) false file printer
    Store.empty (ready_empty disk)
  rw [run_checkRequest hl]
  cases hr : tryCatch (runCheck printer disk (settings.compiler settings.offset) false file)
      (failed printer .check) Store.empty with
  | ok reply store =>
    rw [hr] at hok
    refine ⟨fun answer ha => ?_, fun failure ha => by cases ha⟩
    cases ha
    exact hok reply rfl
  | error fault store =>
    rw [hr] at herror
    refine ⟨fun answer ha => (by cases ha), fun failure ha => ?_⟩
    cases ha
    exact herror fault rfl

/-- **A failure of loading that has no kind is passed on.** -/
theorem run_checkRequest_of_error {level : Journal.Level}
    (hl : Journal.Level.read? settings.logLevel = some level)
    (h : Script.plainFileTyped disk (Location.read file) false = .error failure)
    (hk : failure.kind? = none) :
    (checkRequest settings file).runOn printer settings disk = .error failure := by
  have hload := @gives_load disk false (Location.read file)
  rw [h] at hload
  have hcheck : outcome (runCheck printer disk (settings.compiler settings.offset) false file
      Store.empty) = .error failure := (gives_bind_error hload _ (ready_empty disk)).1
  rw [run_checkRequest hl]
  cases hr : runCheck printer disk (settings.compiler settings.offset) false file Store.empty with
  | ok reply store =>
    rw [hr] at hcheck
    cases hcheck
  | error fault store =>
    rw [hr] at hcheck
    cases hcheck
    rw [tryCatch_of_error hr, failed, hk]
    rfl

/-- **Checking a file ends with the exit code zero or one.** Loading and compiling a script fails
for something that the language knows, and then the exit code is one; else it is zero. The
exceptions are those of `Escapes`: some file asks for more than can be given (`Exceeds`), the number
of frames cannot be written, or the printer cannot lay out the answer. -/
theorem check_ends (disk : Disk) (settings : Settings) (file : Text)
    (hf : file.head? ≠ some '-')
    (hl : (Journal.Level.read? settings.logLevel).isSome = true) :
    (∀ typed compiler failure,
      outcome (Script.loadCompiled disk (Location.read file) typed compiler .empty) =
        .error failure → failure.IsKnown ∨ Exceeds disk (Location.read file) failure) ∧
    ∃ request, Request.read settings ["check".toList, file] = .ok request ∧
      ∀ printer : Printer,
        (∀ answer, request.runOn printer settings disk = .ok answer →
          answer.code = 0 ∨ answer.code = 1) ∧
        ∀ failure, request.runOn printer settings disk = .error failure →
          Escapes disk (Location.read file) false failure := by
  obtain ⟨level, hlevel⟩ := Option.isSome_iff_exists.mp hl
  refine ⟨fun typed compiler failure h => ?_, checkRequest settings file, read_check settings hf,
    fun _ => ends_run_checkRequest hlevel⟩
  exact Script.known_or_exceeds_of_loadCompiled (Script.sound_empty disk) h

/-! A file with a repetition that is one too large, though it repeats nothing. -/

/-- The text of the file. -/
def largeText : Text :=
  "!FORMAT: <KA>\nREPEAT 9223372036854775808\n".toList

/-- The file. -/
def largePath : Path := ⟨["w".toList, "main".toList]⟩

/-- A disk with the file, and its reader in the folder of the file. -/
def largeDisk : Disk :=
  (Disk.empty largePath.parent).put largePath
    (.file (largeText.map fun c => UInt8.ofNat c.toNat))

theorem plainFileTyped_large (typed : Bool) :
    Script.plainFileTyped largeDisk (Location.read "main".toList) typed = .error .hugeRepeat := by
  have hlinks : largeDisk.links = [] := by decide +kernel
  have hp : largeDisk.canonical (Location.read "main".toList) = largePath :=
    (Disk.follow_of_no_links hlinks (by decide)).trans (by decide)
  have hplain : Script.plainAt largeDisk [] largePath = .error .hugeRepeat := by decide +kernel
  rw [Script.plainFileTyped, Script.plainFile, if_pos (by decide), hp, hplain]
  rfl

/-- The failure is that of an excess. -/
theorem check_ends_large :
    "main".toList.head? ≠ some '-' ∧
      (Journal.Level.read? Settings.default.logLevel).isSome = true ∧
      Exceeds largeDisk (Location.read "main".toList) .hugeRepeat := by
  have hf : "main".toList.head? ≠ some '-' := by decide
  have hl : (Journal.Level.read? Settings.default.logLevel).isSome = true := by decide
  have hload : outcome (Script.loadCompiled largeDisk (Location.read "main".toList) false
      ⟨⟨0, 0⟩, false⟩ .empty) = .error .hugeRepeat := by
    rw [(Script.gives_loadCompiled _ (Script.sound_empty largeDisk)).1, plainFileTyped_large]
    rfl
  rcases (check_ends largeDisk .default "main".toList hf hl).1 _ _ _ hload with hknown | hexceeds
  · exact absurd hknown (Failure.not_isKnown_of_kind rfl)
  · exact ⟨hf, hl, hexceeds⟩

/-- Loading the file fails for nothing that the language knows, and the failure is not printed. -/
theorem check_large_escapes :
    outcome (Script.loadCompiled largeDisk (Location.read "main".toList) false
        ⟨⟨0, 0⟩, false⟩ .empty) = .error .hugeRepeat ∧
      ¬Failure.hugeRepeat.IsKnown ∧
      (checkRequest .default "main".toList).run .default largeDisk = .error .hugeRepeat := by
  refine ⟨?_, Failure.not_isKnown_of_kind rfl, ?_⟩
  · rw [(Script.gives_loadCompiled _ (Script.sound_empty largeDisk)).1, plainFileTyped_large]
    rfl
  · have hlevel : Journal.Level.read? Settings.default.logLevel = some .info := by decide
    exact run_checkRequest_of_error hlevel (plainFileTyped_large false) rfl

end FrameScript.Cli
