import FrameScript.Proofs.Script.Memo

/-!
# Calls that share a store of scripts

Files and texts are read by calls that share one store, in any order, and some of the calls fail.
A script that is stored is the one that its file makes on its own (`Script.Sound`), whatever became
of the call that has stored it; so no call shows what the calls before it have done, be it in the
script that it gives or in the fault that it ends with.

## Results

* `gives_parseText`: reading a text gives what reading without a store gives.
* `answers_eq_unshared`: **whatever calls share a store, each is answered as on an empty one**, and
  every script that is stored is the one that an empty store gives.
-/

namespace FrameScript.Script

open Reading

variable {disk : Disk}

/-! ## Texts -/

/-- The script that a text makes when it goes by the given path. -/
def plainText (disk : Disk) (text : Text) (path : Option Text) (typed : Bool) :
    Except Failure Script :=
  (plainLines disk path (baseOf disk path) (plainAt disk []) (Text.lines text)).bind
    (plainDemand typed)

/-- **Reading a text gives what reading without a store gives**: the files that it includes are
read as from outside, since the text itself is not in progress. -/
theorem gives_parseText (text : Text) (path : Option Text) (typed : Bool) :
    Gives (Sound disk []) (parseText disk text path typed) (plainText disk text path typed)
      (Sound disk []) := by
  refine gives_get_bind fun s h => ?_
  rw [h.parsing]
  exact gives_bind_demandKind typed (gives_ofLines (blind_sound disk []) fun _ _ _ _ _ =>
    gives_parseAt fun c hc => absurd hc List.not_mem_nil)

/-! ## Sequences of calls -/

/-- What can be asked of those who share a store: the script of a file or of a text, with or
without its kind, and to forget everything. -/
inductive Call where
  | file (l : Location) (typed : Bool)
  | text (text : Text) (path : Option Text) (typed : Bool)
  | clear

/-- What a call is answered. -/
inductive Answer where
  | script (script : Script)
  | cleared
  deriving DecidableEq

/-- Answers a call. -/
def Call.answer (disk : Disk) : Call → Reading Answer
  | .file l typed => do
    let script ← parseFile disk l typed
    pure (.script script)
  | .text s path typed => do
    let script ← parseText disk s path typed
    pure (.script script)
  | .clear => do
    let _ ← Store.clear
    pure .cleared

/-- The answers to calls that share a store, and the store that the last one leaves. -/
def answers (disk : Disk) : List Call → Store → List (Except Failure Answer) × Store :=
  Reading.answers (Call.answer disk)

/-- The answer to a call without a store. -/
def Call.plainAnswer (disk : Disk) : Call → Except Failure Answer
  | .file l typed => (plainFileTyped disk l typed).map .script
  | .text s path typed => (plainText disk s path typed).map .script
  | .clear => .ok .cleared

/-- **A call keeps the store sound**, and its answer does not show what is in it. -/
theorem gives_answer (call : Call) :
    Gives (Sound disk []) (call.answer disk) (call.plainAnswer disk) (Sound disk []) := by
  cases call with
  | file l typed => exact gives_map _ (gives_parseFile_typed l typed)
  | text text path typed => exact gives_map _ (gives_parseText text path typed)
  | clear => exact fun s hs => ⟨rfl, hs.parsing, fun _ _ hp => by cases hp⟩

/-- Whatever calls have shared a store, it is sound. -/
theorem sound_answers (disk : Disk) (calls : List Call) :
    Sound disk [] (answers disk calls .empty).2 :=
  (answers_of_gives gives_answer calls (sound_empty disk)).2

/-- **No call shows what the calls before it have stored.** Whatever calls share a store, in
whatever order and however they end, each is answered as on an empty store, with an equal script or
with the same failure; and every script that they leave in the store is the one that an empty store
gives. -/
theorem answers_eq_unshared (disk : Disk) (calls : List Call) :
    (answers disk calls .empty).1 =
        calls.map (fun call => outcome (call.answer disk .empty)) ∧
      ∀ p script, (answers disk calls .empty).2.scripts.lookup p = some script →
        outcome (parseAt disk [] p .empty) = .ok script := by
  refine ⟨answers_eq_first gives_answer calls (sound_empty disk), fun p script hp => ?_⟩
  have hfresh := @gives_parseAt disk [] [] p (fun c hc => absurd hc List.not_mem_nil)
    .empty (sound_empty disk)
  rw [hfresh.1]
  exact (sound_answers disk calls).scripts p script hp

end FrameScript.Script
