import FrameScript.Proofs.Count.Opening
import FrameScript.Proofs.Script.InMemory
import FrameScript.Proofs.Script.Opening
import FrameScript.Proofs.Store.Sessions

/-!
# Every file is read once

A file may be included by many lines, and by many files that lead to it along different ways. A call
reads it once, whether it ends well or fails, and it does not read a file for which the store holds
something already. So as long as the store is not cleared, a file is made a script of once at most,
and all calls that ask for it are given that one.

## Results

* `parses_stretch`: what calls of all kinds store, unless one clears the store, are scripts of other
  files than those that have one.
* `each_file_read_once`: **a call reads every file at most once, and none that is stored; until the
  store is cleared, every file is parsed at most once and all who ask for it are given the same
  script.**
-/

namespace FrameScript.Store

open Reading

/-! ## What a call reads -/

section Reads

variable {α β γ : Type} {shelf : Shelf β γ} {disk : Disk} {busy : List Path}
  {x : Disk → Reading α} {s : Store}

/-- A reading that begins with the store `s` reads some files, none of them twice and none for which
something is stored. It reads no others: on a disk on which these are the same it does the same. -/
def ReadsOnce (stored : Store → List (Path × β)) (disk : Disk) (x : Disk → Reading α)
    (s : Store) : Prop :=
  ∃ files, (left (x disk s)).opened = files ++ s.opened ∧ files.Nodup ∧
    (∀ p ∈ files, disk.IsCanonical p ∧ (stored s).lookup p = none) ∧
    ∀ disk', disk.AgreesOn files disk' → x disk' s = x disk s

theorem readsOnce_of_opens (h : shelf.Opens disk busy x s) :
    ReadsOnce shelf.stored disk x s := by
  obtain ⟨files, new, hadds, -, hagree⟩ := h
  exact ⟨files, hadds.opened, hadds.nodup,
    fun p hp => ⟨(hadds.fresh p hp).1, (hadds.fresh p hp).2.2⟩, hagree⟩

end Reads

/-! ## What calls store until the store is cleared -/

/-- The call forgets what is stored. -/
def Call.IsClear : Call → Prop
  | .script .clear | .count .clear => True
  | _ => False

/-- From the store `s` to the store `t` files have been made scripts of, those of `new`: no file
twice and none that had a script. The journal has been told of each, and of no others. -/
structure Parses (s t : Store) (new : List (Path × Script)) : Prop where
  scripts : t.scripts = new ++ s.scripts
  told : t.titled "Parsed file" = new.map Script.shelf.report ++ s.titled "Parsed file"
  nodup : (new.map Prod.fst).Nodup
  fresh : ∀ p ∈ new.map Prod.fst, s.scripts.lookup p = none

section Parses

variable {disk : Disk} {busy files : List Path} {new newer : List (Path × Script)}
  {s t u : Store} {p : Path} {script : Script}

theorem Parses.refl : Parses s s [] :=
  ⟨rfl, rfl, List.nodup_nil, fun _ hm => absurd hm List.not_mem_nil⟩

/-- What has no script in the end is not new, and had none before. -/
theorem Parses.lookup_none (h : Parses s t new) (hn : t.scripts.lookup p = none) :
    p ∉ new.map Prod.fst ∧ s.scripts.lookup p = none := by
  rw [h.scripts, lookup_eq_none_iff_not_mem, List.map_append, List.mem_append, not_or] at hn
  exact ⟨hn.1, lookup_eq_none_iff_not_mem.mpr hn.2⟩

/-- A script that is stored stays. -/
theorem Parses.lookup_eq (h : Parses s t new) (hp : s.scripts.lookup p = some script) :
    t.scripts.lookup p = some script := by
  have hnew : new.lookup p = none := lookup_eq_none_iff_not_mem.mpr fun hm => by
    rw [h.fresh p hm] at hp
    cases hp
  rw [h.scripts, List.lookup_append, hnew, hp]
  rfl

theorem Parses.trans (h : Parses s t new) (h' : Parses t u newer) :
    Parses s u (newer ++ new) where
  scripts := by rw [h'.scripts, h.scripts, List.append_assoc]
  told := by rw [h'.told, h.told, List.map_append, List.append_assoc]
  nodup := by
    rw [List.map_append]
    exact h'.nodup.append h.nodup fun q hq hm => (h.lookup_none (h'.fresh q hq)).1 hm
  fresh := by
    intro q hq
    rw [List.map_append] at hq
    rcases List.mem_append.mp hq with hq | hq
    · exact (h.lookup_none (h'.fresh q hq)).2
    · exact h.fresh q hq

theorem parses_of_adds (h : Script.shelf.Adds disk busy files new s t) : Parses s t new where
  scripts := h.stored
  told := h.told
  nodup := h.nodup_new
  fresh := fun p hp => (h.fresh p (h.among.subset hp)).2.2

theorem parses_of_rest (h : Count.shelf.rest t = Count.shelf.rest s) : Parses s t [] where
  scripts := congrArg Prod.fst h
  told := congrArg Prod.snd h
  nodup := List.nodup_nil
  fresh := fun _ hm => absurd hm List.not_mem_nil

/-- What is made of the value in the end does not change the store. -/
theorem left_bind_pure {α β : Type} (x : Reading α) (f : α → β) (s : Store) :
    left ((x >>= fun a => pure (f a)) s) = left (x s) := by
  cases hx : x s with
  | ok a t =>
    rw [bind_of_ok hx]
    rfl
  | error failure t =>
    rw [bind_of_error hx]
    rfl

/-- **A call stores scripts of files that had none**, unless it clears the store. -/
theorem parses_run {call : Call} (hc : ¬ call.IsClear) (s : Store) :
    ∃ new, Parses s (left (call.run disk s)) new := by
  cases call with
  | script call =>
    cases call with
    | file l typed =>
      have hopens : Script.shelf.Opens disk [] (fun d => Script.parseFile d l typed) s :=
        Script.opens_parseFile l typed s
      obtain ⟨files, new, hadds, -⟩ := hopens
      refine ⟨new, ?_⟩
      rw [Call.run, Script.Call.answer, left_bind_pure, left_bind_pure]
      exact parses_of_adds hadds
    | text text path typed =>
      obtain ⟨files, new, hadds⟩ := @Script.adds_parseText disk text path typed s
      refine ⟨new, ?_⟩
      rw [Call.run, Script.Call.answer, left_bind_pure, left_bind_pure]
      exact parses_of_adds hadds
    | clear => exact absurd trivial hc
  | count call =>
    have hanswer : call ≠ .clear := fun he => hc (he ▸ trivial)
    refine ⟨[], ?_⟩
    rw [Call.run, left_bind_pure]
    exact parses_of_rest (Count.leaves_answer hanswer s)

/-- **So do calls that come one after another**, if none clears the store. -/
theorem parses_stretch (visits : List (Disk × Call)) {stretch : List (Disk × Call)}
    (hc : ∀ visit ∈ stretch, ¬ visit.2.IsClear) :
    ∃ new, Parses (after visits) (after (visits ++ stretch)) new := by
  induction stretch using List.reverseRecOn with
  | nil => exact ⟨[], (List.append_nil visits).symm ▸ .refl⟩
  | append_singleton stretch visit ih =>
    obtain ⟨new, h⟩ := ih fun visit hm => hc visit (List.mem_append_left _ hm)
    have hlast := hc visit (List.mem_append_right _ (List.mem_singleton_self visit))
    obtain ⟨newer, h'⟩ := parses_run hlast (after (visits ++ stretch))
    rw [← after_concat, List.append_assoc] at h'
    exact ⟨newer ++ new, h.trans h'⟩

end Parses

/-! ## Sessions -/

section Sessions

variable {disk : Disk} {l : Location} {typed : Bool} {script : Script} {s t : Store}

theorem runs_demandKind {Q : Script → Store → Prop} {E : Failure → Store → Prop} (hq : Q script s)
    (he : ∀ failure, E failure s) : Runs (Script.demandKind typed script) s Q E := by
  unfold Script.demandKind
  split
  · exact runs_throw (he _)
  · exact runs_pure hq

/-- A script that a call gives is stored. -/
theorem lookup_of_parseFile (hs : s.parsing = [])
    (h : Script.parseFile disk l typed s = .ok script t) :
    t.scripts.lookup (disk.canonical l) = some script := by
  have hruns : Runs (Script.parseFile disk l typed) s
      (fun script t => t.scripts.lookup (disk.canonical l) = some script) fun _ _ => True := by
    unfold Script.parseFile Store.resolve
    by_cases hl : l.isSound = true
    · simp only [if_pos hl, pure_bind]
      refine runs_get_bind (runs_bind ?_)
      rw [hs]
      exact (Script.settles_parseAt ⟨l, hl, rfl⟩ fun _ hc => absurd hc List.not_mem_nil).imp
        (fun _ _ h => runs_demandKind h.2 fun _ => trivial) fun _ _ _ => trivial
    · simp only [if_neg hl]
      exact runs_throw trivial
  unfold Runs at hruns
  rwa [h] at hruns

/-- A reading that begins with the store `s` opens no file, and gives no other script. -/
def Recalls (script : Script) (x : Reading Script) (s : Store) : Prop :=
  Runs x s (fun again t => again = script ∧ t.opened = s.opened) fun _ t => t.opened = s.opened

/-- **Who asks for a file that has a script is given this one**, and no file is opened. -/
theorem recalls_of_stored (hp : s.scripts.lookup (disk.canonical l) = some script) :
    Recalls script (Script.parseFile disk l typed) s := by
  unfold Recalls Script.parseFile Store.resolve
  by_cases hl : l.isSound = true
  · simp only [if_pos hl, pure_bind]
    refine runs_get_bind (runs_bind ?_)
    unfold Runs
    rw [Script.parseAt_of_stored hp]
    exact runs_demandKind ⟨rfl, rfl⟩ fun _ => rfl
  · simp only [if_neg hl]
    exact runs_throw rfl

/-- **Every file is read once.** After any session, a call that reads a file, and a call that counts
one, opens no file twice and none for which the store holds something, and it depends on no other
file; this is so for calls that fail, too. Until the store is cleared, whatever calls come, the
files of which scripts are made are no two the same and had no script before, and each is stored and
told of. Whoever asks for a file that has been read, by whatever location, is given the same script,
and no file is opened. -/
theorem each_file_read_once (visits : List (Disk × Call)) :
    (∀ disk l typed,
      ReadsOnce Store.scripts disk (fun d => Script.parseFile d l typed) (after visits)) ∧
    (∀ disk l, ReadsOnce Store.counts disk (fun d => Count.countFile d l) (after visits)) ∧
    (∀ stretch, (∀ visit ∈ stretch, ¬ visit.2.IsClear) →
      ∃ new, Parses (after visits) (after (visits ++ stretch)) new) ∧
    ∀ disk l typed script t, Script.parseFile disk l typed (after visits) = .ok script t →
      ∀ stretch, (∀ visit ∈ stretch, ¬ visit.2.IsClear) →
        ∀ disk' l' typed', disk'.canonical l' = disk.canonical l →
          Recalls script (Script.parseFile disk' l' typed')
            (after (visits ++ (disk, .script (.file l typed)) :: stretch)) := by
  refine ⟨fun disk l typed => readsOnce_of_opens (Script.opens_parseFile l typed _),
    fun disk l => readsOnce_of_opens (Count.opens_countFile l _),
    fun stretch => parses_stretch visits, ?_⟩
  intro disk l typed script t h stretch hc disk' l' typed' hl
  have ht : after (visits ++ [(disk, .script (.file l typed))]) = t := by
    rw [after_concat, Call.run, Script.Call.answer, left_bind_pure, left_bind_pure, h]
    rfl
  have hstored := lookup_of_parseFile (idle_after visits).1 h
  rw [← ht, ← hl] at hstored
  obtain ⟨new, hparses⟩ := parses_stretch (visits ++ [(disk, .script (.file l typed))]) hc
  rw [List.append_assoc, List.singleton_append] at hparses
  exact recalls_of_stored (hparses.lookup_eq hstored)

end Sessions

/-! A file that includes another one twice. -/

/-- The text of the file. -/
def twiceText : Text :=
  "!FORMAT: <KA>\nINCLUDE c\nINCLUDE c\n".toList

/-- A disk with the file. -/
def twiceDisk : Disk :=
  frailDisk.put (mutualPath 'f') (.file (twiceText.map fun c => UInt8.ofNat c.toNat))

theorem canonical_twice {name : Char} (hn : name ≠ '.') :
    twiceDisk.canonical (mutualPath name).location = mutualPath name := by
  have hl : twiceDisk.links = [] := by decide +kernel
  refine Disk.canonical_location hl fun part hm => ?_
  rw [List.mem_singleton.mp hm]
  simp [Location.up, Location.stay, hn]

/-- The file makes a script. -/
theorem exists_script_twice :
    ∃ script, Script.plainAt twiceDisk [] (mutualPath 'f') = .ok script := by
  have hs : twiceDisk.source (mutualPath 'f') = .ok twiceText := by decide +kernel
  have hread : (Script.plainLines twiceDisk (some (mutualPath 'f').text)
      (mutualPath 'f').parent.location
      (fun _ => Script.plainAt twiceDisk [mutualPath 'f'] (mutualPath 'c'))
      (Text.lines twiceText)).toOption.isSome = true := by decide +kernel
  have houtline : outlineOf (Text.lines twiceText) =
      .leaf ⟨2, 0, "INCLUDE c".toList⟩ (.inclusion ['c'])
        (.leaf ⟨3, 0, "INCLUDE c".toList⟩ (.inclusion ['c']) .nil) := by decide +kernel
  have hbase : (mutualPath 'f').parent.location.under (Location.read ['c']) =
      (mutualPath 'c').location := by decide +kernel
  obtain ⟨script, h⟩ := exists_ok_of_isSome hread
  refine ⟨script, Script.plainAt_of_sole_target List.not_mem_nil hs (fun line own hstep => ?_)
    (hbase.symm ▸ canonical_twice (by decide)) h⟩
  rw [houtline] at hstep
  simp only [Outline.steps, List.mem_cons, List.not_mem_nil, or_false,
    Outline.Step.leaf.injEq, Item.inclusion.injEq] at hstep
  exact hstep.elim And.right And.right

/-- Asks for the file. -/
abbrev readTwice : Reading Script :=
  Script.parseFile twiceDisk (mutualPath 'f').location false

/-- A session in which the file is asked for, and its frames are counted. -/
def twiceVisits : List (Disk × Call) :=
  [(twiceDisk, .script (.file (mutualPath 'f').location false)),
    (twiceDisk, .count (.file (mutualPath 'f').location))]

/-- The file makes a script, and no file is opened twice on the way. When its frames have been
counted and it is asked for again, the same script is given, and no file is opened. -/
theorem each_file_read_once_twice :
    ∃ script t, readTwice (after []) = .ok script t ∧ t.opened.Nodup ∧
      Recalls script readTwice (after twiceVisits) := by
  obtain ⟨hscripts, -, -, hagain⟩ := each_file_read_once []
  obtain ⟨script, hplain⟩ := exists_script_twice
  have houtcome : outcome (readTwice (after [])) = .ok script := by
    refine (outcome_parseFile twiceDisk [] _ _).trans ?_
    rw [Script.plainFileTyped_false, Script.plainFile, if_pos (by decide),
      canonical_twice (by decide), hplain]
  obtain ⟨files, hopened, hnodup, -⟩ := hscripts twiceDisk (mutualPath 'f').location false
  have hopened : (left (readTwice (after []))).opened = files ++ [] := hopened
  cases hrun : readTwice (after []) with
  | error failure t =>
    rw [hrun] at houtcome
    cases houtcome
  | ok given t =>
    rw [hrun] at houtcome hopened
    obtain rfl := Except.ok.inj houtcome
    have ht : t.opened = files := hopened.trans (List.append_nil files)
    refine ⟨given, t, rfl, ht ▸ hnodup, ?_⟩
    exact hagain _ _ _ _ _ hrun [(twiceDisk, .count (.file (mutualPath 'f').location))]
      (by simp [Call.IsClear]) _ _ _ rfl

end FrameScript.Store
