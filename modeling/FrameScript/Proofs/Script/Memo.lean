import FrameScript.Proofs.Reading
import FrameScript.Proofs.Script.Plain

/-!
# Reading scripts with a store

A store may hold the scripts of files that have been read. `Sound` says that each of them is the
script that the file makes on its own; reading keeps that, and therefore ends as if nothing were
stored, in a script or with the same fault.

## Results

* `readInclusion_eq`: what becomes of a line that includes a script, by where it leads.
* `gives_parseAt`: reading a file with a sound store gives what reading without a store gives, as
  long as the files in progress lead to the file.
* `gives_parseFile_typed`: the same of a file that is read from outside, also where it has to
  declare its kind.
-/

namespace FrameScript.Script

open Outline Reading

variable {disk : Disk} {opened chain : List Path} {p : Path}

/-- The files in progress are those of `opened`, and every script in the store is the one that the
file makes on its own. -/
structure Sound (disk : Disk) (opened : List Path) (store : Store) : Prop where
  parsing : store.parsing = opened
  scripts : ∀ p script, store.scripts.lookup p = some script → plainAt disk [] p = .ok script

theorem blind_sound (disk : Disk) (opened : List Path) : Blind (Sound disk opened) :=
  fun _ _ hscripts _ hp _ hs =>
    ⟨hp.trans hs.parsing, fun p script hl => hs.scripts p script (hscripts ▸ hl)⟩

theorem sound_empty (disk : Disk) : Sound disk [] Store.empty :=
  ⟨rfl, fun _ _ hp => by cases hp⟩

/-- Storing the script that a file makes on its own. -/
theorem gives_keepScript {script : Script} (hp : plainAt disk [] p = .ok script) :
    Gives (Sound disk opened) (Store.keepScript p script) (.ok ()) (Sound disk opened) := by
  refine gives_modify fun s h => ⟨h.parsing, fun q stored hq => ?_⟩
  rw [List.lookup_cons] at hq
  split at hq
  · rename_i he
    rw [eq_of_beq he, hp, Option.some.inj hq]
  · exact h.scripts q stored hq

theorem gives_whileParsing {x : Reading Script} {e : Except Failure Script}
    (h : Gives (Sound disk (p :: opened)) x e (Sound disk (p :: opened))) :
    Gives (Sound disk opened) (Store.whileParsing p x) e (Sound disk opened) := by
  refine gives_between (fun s hs => ?_) h fun s hs => ?_
  · exact ⟨congrArg (p :: ·) hs.parsing, hs.scripts⟩
  · exact ⟨congrArg List.tail hs.parsing, hs.scripts⟩

/-! ## Lines -/

section Lines

variable {source : Option Text} {base : Location} {parse : Path → Except Failure Script}
  {read : Path → Reading Script} {lines : List Text} {P : Store → Prop}

theorem gives_readData (format : Format) (line : Line) :
    Gives P (readData source format line) (plainData source format line) P := by
  unfold readData plainData
  cases format.frame? ⟨source, some line.number⟩ line.content with
  | some frame => exact gives_pure frame
  | none => exact gives_throw _

/-- The failure at a line that may not include a script or names none. -/
def closedFailure (source : Option Text) (found : HeaderLines) (line : Line) : Failure :=
  .layout (closedFault found) ⟨source, some line.number⟩

/-- **What becomes of a line that includes a script, by where it leads.** -/
theorem readInclusion_eq {found : HeaderLines} {kind : Option ScriptKind}
    (hk : found.isFragment = true ↔ kind = some .fragment) (line : Line) (target : Text) :
    readInclusion disk source base kind read line target =
      match found.aim disk base target with
      | .nowhere => throw (closedFailure source found line)
      | .astray => throw .badPath
      | .file q => (do
        Store.tell .debug "Including file"
          [("path", .ofText? source), ("line", .number line.number), ("target", .text q.text)]
        let script ← read q
        pure script.frames) := by
  unfold readInclusion closedFailure closedFault
  by_cases hf : kind = some .fragment
  · have hfound := hk.mpr hf
    rw [if_pos hf, HeaderLines.aim_of_closed (by rw [hfound, Bool.true_or]), if_pos hfound]
  · have hfound : ¬found.isFragment = true := fun h => hf (hk.mp h)
    rw [if_neg hf, if_neg hfound]
    by_cases ht : target.isEmpty = true
    · rw [if_pos ht, HeaderLines.aim_of_closed (by rw [ht, Bool.or_true])]
    · have hopen : ¬(found.isFragment || target.isEmpty) = true := by simp [hfound, ht]
      rw [if_neg ht]
      cases hs : (base.under (Location.read target)).isSound with
      | false =>
        rw [HeaderLines.aim_of_not_sound hopen hs, Store.resolve, if_neg (Bool.eq_false_iff.mp hs)]
        rfl
      | true =>
        rw [HeaderLines.aim_of_sound hopen hs, Store.resolve, if_pos hs, pure_bind]

theorem gives_readInclusion {found : HeaderLines} {kind : Option ScriptKind} {line : Line}
    {target : Text} (hb : Blind P) (hk : found.isFragment = true ↔ kind = some .fragment)
    (h : ∀ q, found.aim disk base target = .file q → Gives P (read q) (parse q) P) :
    Gives P (readInclusion disk source base kind read line target)
      (plainInclusion disk source base found parse line target) P := by
  rw [readInclusion_eq hk, plainInclusion]
  cases ha : found.aim disk base target with
  | nowhere => exact gives_throw _
  | astray => exact gives_throw _
  | file q => exact gives_bind_ok (gives_tell hb _ _ _) (gives_map Script.frames (h q ha))

/-- Reading lines gives what the plain reading gives, if the files that they include are read
so. -/
theorem gives_ofLines (hb : Blind P)
    (h : ∀ line target q, .leaf line (.inclusion target) ∈ (outlineOf lines).steps →
      (HeaderLines.find lines).aim disk base target = .file q → Gives P (read q) (parse q) P) :
    Gives P (ofLines disk source base read lines) (plainLines disk source base parse lines) P := by
  unfold ofLines plainLines
  cases hh : Header.read source lines with
  | error failure => exact gives_throw failure
  | ok header =>
    obtain ⟨-, hkind, -⟩ := Header.ofFound_ok hh
    exact gives_map _ (gives_frames (gives_readData header.format) fun line target hstep =>
      gives_readInclusion hb hkind fun q ha => h line target q hstep ha)

end Lines

/-! ## Files -/

/-- **Reading a file with a sound store gives what reading without a store gives.** -/
theorem gives_parseAt (h : ∀ c ∈ chain, Relation.TransGen (Includes disk) c p) :
    Gives (Sound disk opened) (parseAt disk chain p) (plainAt disk chain p)
      (Sound disk opened) := by
  induction hr : room disk.paths chain using Nat.strongRecOn generalizing chain opened p with
  | ind k ih =>
    rw [parseAt]
    refine gives_get_bind fun s hs => ?_
    cases hl : s.scripts.lookup p with
    | some script =>
      -- A stored script leads to nothing that leads to it, so to no file in progress.
      have halone := hs.scripts p script hl
      have hchain : plainAt disk chain p = .ok script :=
        plainAt_of_ok_of_apart halone fun c hmem _ hlead =>
          not_mem_of_leads halone (Relation.TransGen.trans_right hlead (h c hmem))
            List.mem_cons_self
      rw [hchain]
      exact gives_bind_ok (gives_tallyUp (blind_sound disk _) _)
        (gives_bind_ok (gives_tell (blind_sound disk _) _ _ _) (gives_pure script))
    | none =>
      by_cases hc : p ∈ chain
      · simp only [dif_pos hc]
        rw [plainAt_of_mem hc]
        exact gives_throw _
      · simp only [dif_neg hc]
        refine gives_bind_ok (gives_tallyUp (blind_sound disk _) _)
          (gives_tap (gives_whileParsing
            (gives_bind_ok (gives_noteOpened (blind_sound disk _) p) ?_)) fun script hk =>
              gives_bind_ok (gives_keepScript (plainAt_of_ok_of_apart hk fun c hmem =>
                absurd hmem List.not_mem_nil)) (gives_pure script))
        split
        · rename_i fault hs
          rw [plainAt_of_error hc hs]
          exact gives_throw _
        · rename_i text hs
          rw [plainAt_of_ok hc hs]
          refine gives_tap (gives_ofLines (blind_sound disk _) fun line target q hstep ha => ?_)
            fun script _ => gives_bind_ok (gives_tell (blind_sound disk _) _ _ _)
              (gives_pure script)
          have hq : Includes disk p q := includes_of_step hs hstep ha
          refine ih _ (hr ▸ Disk.room_lt_of_source hc hs) (fun c hmem => ?_) rfl
          rcases List.mem_cons.mp hmem with rfl | hmem
          · exact Relation.TransGen.single hq
          · exact Relation.TransGen.tail (h c hmem) hq

/-- The script at a location. -/
def plainFile (disk : Disk) (l : Location) : Except Failure Script :=
  if l.isSound then plainAt disk [] (disk.canonical l) else .error .badPath

/-- A script that has to declare its kind, or else a fault. -/
def plainDemand (typed : Bool) (script : Script) : Except Failure Script :=
  if typed && script.header.kind.isNone then
    .error (.layout .noKind ⟨script.source, some 1⟩)
  else .ok script

/-- **A demand for the kind changes no script.** -/
theorem bind_plainDemand_eq_ok {e : Except Failure Script} {typed : Bool} {script : Script} :
    e.bind (plainDemand typed) = .ok script ↔
      e = .ok script ∧ (typed && script.header.kind.isNone) = false := by
  cases e with
  | error failure => exact ⟨nofun, fun h => nomatch h.1⟩
  | ok read =>
    rw [Except.bind, plainDemand]
    split
    · rename_i hnone
      refine ⟨nofun, fun ⟨hread, hkind⟩ => ?_⟩
      rw [Except.ok.inj hread, hkind] at hnone
      cases hnone
    · rename_i hkind
      refine ⟨fun h => ⟨h, ?_⟩, And.left⟩
      rw [← Except.ok.inj h]
      exact Bool.eq_false_iff.mpr hkind

theorem gives_demandKind {P : Store → Prop} (typed : Bool) (script : Script) :
    Gives P (demandKind typed script) (plainDemand typed script) P := by
  unfold demandKind plainDemand
  split
  · exact gives_throw _
  · exact gives_pure script

/-- Asking for a kind comes after the script has been read, and so after it has been stored. -/
theorem gives_bind_demandKind {P : Store → Prop} {read : Reading Script}
    {e : Except Failure Script} (typed : Bool) (h : Gives P read e P) :
    Gives P (read >>= demandKind typed) (e.bind (plainDemand typed)) P := by
  cases e with
  | ok script => exact gives_bind_ok h (gives_demandKind typed script)
  | error failure => exact gives_bind_error h

/-- The script at a location, which may have to declare its kind. -/
def plainFileTyped (disk : Disk) (l : Location) (typed : Bool) : Except Failure Script :=
  (plainFile disk l).bind (plainDemand typed)

theorem plainFileTyped_false (l : Location) : plainFileTyped disk l false = plainFile disk l := by
  unfold plainFileTyped
  cases plainFile disk l <;> rfl

/-- A script that is read with a demand for its kind is the one that is read without. -/
theorem plainFile_of_typed {l : Location} {typed : Bool} {script : Script}
    (h : plainFileTyped disk l typed = .ok script) : plainFile disk l = .ok script :=
  (bind_plainDemand_eq_ok.mp h).1

/-- **Reading a file from outside gives what reading without a store gives.** -/
theorem gives_parseFile_typed (l : Location) (typed : Bool) :
    Gives (Sound disk []) (parseFile disk l typed) (plainFileTyped disk l typed)
      (Sound disk []) := by
  unfold parseFile plainFileTyped plainFile
  cases hs : l.isSound with
  | false => exact gives_resolve_bind_of_not_sound hs
  | true =>
    refine gives_resolve_bind hs (gives_get_bind fun s h => ?_)
    rw [h.parsing]
    exact gives_bind_demandKind typed (gives_parseAt fun c hc => absurd hc List.not_mem_nil)

theorem gives_parseFile (l : Location) :
    Gives (Sound disk []) (parseFile disk l false) (plainFile disk l) (Sound disk []) := by
  rw [← plainFileTyped_false]
  exact gives_parseFile_typed l false

end FrameScript.Script
