import FrameScript.Proofs.Count.Filing
import FrameScript.Proofs.Count.Memo
import FrameScript.Proofs.Disk.Written
import FrameScript.Proofs.Halting
import FrameScript.Proofs.Script.Calls
import FrameScript.Proofs.Script.Filing

/-!
# A store through a session

A session is a list of calls of every kind that share one store: scripts are read, files and texts
are counted, texts are marked, and the store is cleared. Between two calls the disk may change, so
that the store may hold scripts of files that are no longer there. Calls fail, and the store goes on
as they leave it.

## Results

* `Call.runs_run`: what one call does to the store, however it ends.
* `storedBy`: everything that is stored was put there by one of the calls.
* `session_invariant`: **after every session nothing is in progress, each script stands in front of
  those of the files that its file includes, and a call that fails takes nothing away and adds
  nothing on the way to its failure.**
-/

namespace FrameScript.Store

open Reading

/-- A call of those that share a store. -/
inductive Call where
  | script (call : Script.Call)
  | count (call : Count.Call)

namespace Call

/-- Makes a call, whatever is answered. -/
def run (disk : Disk) : Call → Reading Unit
  | .script call => do
    let _ ← call.answer disk
    pure ()
  | .count call => do
    let _ ← call.answer disk
    pure ()

/-- Where a call comes to a snag in a file. -/
def meets (disk : Disk) : Call → Meeting
  | .script _ => Script.Meets disk
  | .count _ => Count.Meets disk

/-- Where a call that begins with the store `s` comes to a snag outside of all files, with the store
`u`: a file that is asked for is the snag itself, and a text is left at one. -/
def Begins (disk : Disk) (s : Store) (failure : Failure) : Call → Snag → Store → Prop
  | .script (.file l _), x, u | .count (.file l), x, u => x = .ofLocation disk l ∧ u = s
  | .script (.text text path _), x, u =>
    Script.LinesMeet disk (Script.parseAt disk []) path (Script.baseOf disk path) (Text.lines text)
      s failure x u
  | .count (.text text base), x, u =>
    Count.LinesMeet disk (Count.fromOutside disk) (Count.baseOf disk base) (Text.lines text)
      s failure x u
  | .count (.annotate text base), x, u =>
    Gutter.LinesMeet disk (Count.baseOf disk base) (Text.lines text) s failure x u
  | .script .clear, _, _ | .count .clear, _, _ => False

end Call

/-! ## What a call does -/

/-- Scripts and counts are stored. -/
abbrev Grows (disk : Disk) : Store → Store → Prop :=
  Changes (Grown (Script.IsFiled disk) []) (Grown (fun p _ _ => disk.IsCanonical p) [])

/-- Everything is forgotten. -/
abbrev Clears : Store → Store → Prop :=
  Changes (fun _ scripts => scripts = []) fun _ counts => counts = []

section Calls

variable {disk : Disk} {s t : Store}

theorem Files.grows (h : Files disk [] s t) : Grows disk s t :=
  ⟨h.scripts, h.counts ▸ .refl, h.parsing, h.counting⟩

theorem Numbers.grows (h : Numbers disk [] s t) : Grows disk s t :=
  ⟨h.scripts ▸ .refl, h.counts, h.parsing, h.counting⟩

/-- What is not stored after a reading was not stored before it. -/
theorem lookup_eq_of_files {k : Path} (h : Files disk [] s t) (hk : Script.hasScript t k = false) :
    t.scripts.lookup k = s.scripts.lookup k := by
  have hnone := Script.hasScript_eq_false_iff.mp hk
  rw [hnone, h.scripts.lookup_none hnone]

/-- What is not stored after a counting was not stored before it. -/
theorem lookup_eq_of_numbers {k : Path} (h : Numbers disk [] s t)
    (hk : Count.hasCount t k = false) : t.counts.lookup k = s.counts.lookup k := by
  have hnone := Count.hasCount_eq_false_iff.mp hk
  rw [hnone, h.counts.lookup_none hnone]

/-- How a call fails that begins with the store `s` and leaves the store `t`: for no file on the
trail of the failure something has been stored. The trail goes from where the call begins down to
the file where the failure comes up, and each file on it includes the next one. -/
def Call.FailsBare (disk : Disk) (s : Store) (call : Call) (failure : Failure) (t : Store) : Prop :=
  ∃ x u trail, call.Begins disk s failure x u ∧ Trail.From (call.meets disk) [] u trail failure x ∧
    trail.IsChain (Includes disk) ∧
    ∀ k ∈ trail, t.scripts.lookup k = s.scripts.lookup k ∧ t.counts.lookup k = s.counts.lookup k

theorem Call.failsBare_script {call : Script.Call} {failure : Failure} {x : Snag} {u : Store}
    (h : Files disk [] s t) (hb : (Call.script call).Begins disk s failure x u)
    (hx : Script.Fails disk [] x u failure t) :
    (Call.script call).FailsBare disk s failure t := by
  obtain ⟨trail, hfrom, hfree⟩ := hx
  have hchain : trail.IsChain (Includes disk) :=
    hfrom.isChain fun _ _ _ _ _ _ hm => (Script.includes_of_meets hm).1
  exact ⟨x, u, trail, hb, hfrom, hchain, fun k hk =>
    ⟨lookup_eq_of_files h (hfree k hk), by rw [h.counts]⟩⟩

theorem Call.failsBare_count {call : Count.Call} {failure : Failure} {x : Snag} {u : Store}
    (h : Numbers disk [] s t) (hb : (Call.count call).Begins disk s failure x u)
    (hx : Count.Fails disk [] x u failure t) :
    (Call.count call).FailsBare disk s failure t := by
  obtain ⟨trail, hfrom, hfree⟩ := hx
  have hchain : trail.IsChain (Includes disk) :=
    hfrom.isChain fun _ _ _ _ _ _ hm => Count.includes_of_meets hm
  exact ⟨x, u, trail, hb, hfrom, hchain, fun k hk =>
    ⟨by rw [h.scripts], lookup_eq_of_numbers h (hfree k hk)⟩⟩

/-- A call that reads scripts stores scripts, or it clears the store and does not fail. -/
theorem Call.runs_script (hp : s.parsing = []) (call : Script.Call) :
    Runs ((Call.script call).run disk) s (fun _ t => Files disk [] s t ∨ Clears s t)
      fun failure t => Files disk [] s t ∧ ((∃ place, failure = .layout .noKind place) ∨
        (Call.script call).FailsBare disk s failure t) := by
  cases call with
  | file l typed =>
    refine runs_bind (runs_bind ((Script.runs_parseFile disk hp l typed).imp
      (fun _ _ => Or.inl) ?_))
    rintro failure t ⟨h, hfails⟩
    exact ⟨h, hfails.imp_right (failsBare_script h ⟨rfl, rfl⟩)⟩
  | text text path typed =>
    refine runs_bind (runs_bind ((Script.runs_parseText hp text path typed).imp
      (fun _ _ => Or.inl) ?_))
    rintro failure t ⟨h, hfails⟩
    exact ⟨h, hfails.imp_right fun ⟨_, _, hx, hx'⟩ => failsBare_script h hx hx'⟩
  | clear => exact Or.inr ⟨rfl, rfl, rfl, rfl⟩

/-- A call that counts stores counts, or it clears the store and does not fail. -/
theorem Call.runs_count (hc : s.counting = []) (call : Count.Call) :
    Runs ((Call.count call).run disk) s (fun _ t => Numbers disk [] s t ∨ Clears s t)
      fun failure t => Numbers disk [] s t ∧ (Call.count call).FailsBare disk s failure t := by
  cases call with
  | file l =>
    refine runs_bind (runs_bind ((Count.runs_countFile disk hc l).imp (fun _ _ h => Or.inl h.1) ?_))
    rintro failure t ⟨h, -, hfails⟩
    exact ⟨h, failsBare_count h ⟨rfl, rfl⟩ hfails⟩
  | text text base =>
    refine runs_bind (runs_bind ((Count.runs_countText hc text base).imp (fun _ _ => Or.inl) ?_))
    rintro failure t ⟨h, x, u, hx, hfails⟩
    exact ⟨h, failsBare_count h hx hfails⟩
  | annotate text base =>
    refine runs_bind (runs_bind ((Gutter.runs_annotate hc text base).imp (fun _ _ => Or.inl) ?_))
    rintro failure t ⟨h, x, u, hx, hfails⟩
    exact ⟨h, failsBare_count h hx hfails⟩
  | clear => exact Or.inr ⟨rfl, rfl, rfl, rfl⟩

/-- **What a call does**: it adds to the store, or it clears it and does not fail. If it fails,
nothing is stored on the trail of the failure, unless all that is wrong with the script that has
been read is that it does not declare its kind. -/
theorem Call.runs_run (hp : s.parsing = []) (hc : s.counting = []) (call : Call) :
    Runs (call.run disk) s (fun _ t => Grows disk s t ∨ Clears s t)
      fun failure t => Grows disk s t ∧
        ((∃ place, failure = .layout .noKind place) ∨ call.FailsBare disk s failure t) := by
  cases call with
  | script call =>
    exact (runs_script hp call).imp (fun _ _ h => h.imp_left Files.grows) fun _ _ h =>
      ⟨h.1.grows, h.2⟩
  | count call =>
    exact (runs_count hc call).imp (fun _ _ h => h.imp_left Numbers.grows) fun _ _ h =>
      ⟨h.1.grows, Or.inr h.2⟩

end Calls

/-! ## Sessions -/

/-- The store after a session, in which each call finds the disk as it is by then. -/
def after (visits : List (Disk × Call)) : Store :=
  visits.foldl (fun store visit => left (visit.2.run visit.1 store)) .empty

variable {visits : List (Disk × Call)} {disk : Disk} {call : Call}

theorem after_concat :
    after (visits ++ [(disk, call)]) = left (call.run disk (after visits)) := by
  rw [after, List.foldl_append]
  rfl

/-- What the next call of a session does, if nothing is in progress. -/
theorem grows_or_clears (disk : Disk) (call : Call) (hp : (after visits).parsing = [])
    (hc : (after visits).counting = []) :
    Grows disk (after visits) (after (visits ++ [(disk, call)])) ∨
      Clears (after visits) (after (visits ++ [(disk, call)])) := by
  rw [after_concat]
  exact (call.runs_run hp hc).left (fun _ _ => id) fun _ _ h => Or.inl h.1

/-- **Between two calls no file is in progress.** -/
theorem idle_after (visits : List (Disk × Call)) :
    (after visits).parsing = [] ∧ (after visits).counting = [] := by
  induction visits using List.reverseRecOn with
  | nil => exact ⟨rfl, rfl⟩
  | append_singleton visits visit ih =>
    obtain ⟨hp, hc⟩ := ih
    rcases grows_or_clears visit.1 visit.2 hp hc with h | h
    · exact ⟨h.parsing.trans hp, h.counting.trans hc⟩
    · exact ⟨h.parsing.trans hp, h.counting.trans hc⟩

/-- **A session on one disk keeps the scripts sound**: each is the one that its file makes on its
own. -/
theorem sound_after (disk : Disk) (calls : List Call) :
    Script.Sound disk [] (after (calls.map fun call => (disk, call))) := by
  induction calls using List.reverseRecOn with
  | nil => exact Script.sound_empty disk
  | append_singleton calls call ih =>
    rw [List.map_append, List.map_singleton, after_concat]
    cases call with
    | script call => exact (gives_map (fun _ => ()) (Script.gives_answer call) _ ih).2
    | count call =>
      -- Counting does not touch the scripts, and neither does a call that fails.
      refine (Call.runs_count (idle_after _).2 call).left ?_ ?_
      · rintro _ t (h | h)
        · exact ⟨h.parsing.trans ih.parsing, h.scripts ▸ ih.scripts⟩
        · exact ⟨h.parsing.trans ih.parsing, h.scripts ▸ fun _ _ hp => by cases hp⟩
      · rintro failure t ⟨h, -⟩
        exact ⟨h.parsing.trans ih.parsing, h.scripts ▸ ih.scripts⟩

/-- The store after a session on one disk. -/
abbrev afterOn (disk : Disk) (calls : List Call) : Store :=
  after (calls.map fun call => (disk, call))

/-- **A session on one disk keeps the counts sound**: each is the one that its file has on its
own. -/
theorem sound_counts_afterOn (disk : Disk) (calls : List Call) :
    Count.Sound disk [] (afterOn disk calls) := by
  unfold afterOn
  induction calls using List.reverseRecOn with
  | nil => exact Count.sound_empty disk
  | append_singleton calls call ih =>
    rw [List.map_append, List.map_singleton, after_concat]
    cases call with
    | count call => exact (gives_map (fun _ => ()) (Count.gives_answer call) _ ih).2
    | script call =>
      -- Reading scripts does not touch the counts, and neither does a call that fails.
      refine (Call.runs_script (idle_after _).1 call).left ?_ ?_
      · rintro _ t (h | h)
        · exact ⟨h.counting.trans ih.counting, h.counts ▸ ih.counts⟩
        · exact ⟨h.counting.trans ih.counting, h.counts ▸ fun _ _ hp => by cases hp⟩
      · rintro failure t ⟨h, -⟩
        exact ⟨h.counting.trans ih.counting, h.counts ▸ ih.counts⟩

/-! ### What is stored -/

section Stored

variable {β : Type} {stored : Store → List (Path × β)}
  {good : Disk → Path → β → List (Path × β) → Prop}

/-- A call of the session has put an entry in front of `older`, and it was `good` on the disk that
the call has found. -/
def StoredBy (stored : Store → List (Path × β)) (good : Disk → Path → β → List (Path × β) → Prop)
    (visits : List (Disk × Call)) (p : Path) (b : β) (older : List (Path × β)) : Prop :=
  ∃ before disk call later, visits = before ++ (disk, call) :: later ∧
    stored (after before) <:+ older ∧
    (p, b) :: older <:+ stored (after (before ++ [(disk, call)])) ∧ good disk p b older

/-- **Everything that is stored was put there by one of the calls**, if calls make a list grow or
empty it. -/
theorem storedBy (hempty : stored .empty = [])
    (hstep : ∀ before disk call, Grown (good disk) [] (stored (after before))
        (stored (after (before ++ [(disk, call)]))) ∨
      stored (after (before ++ [(disk, call)])) = [])
    {newer older : List (Path × β)} {p : Path} {b : β}
    (h : stored (after visits) = newer ++ (p, b) :: older) :
    StoredBy stored good visits p b older := by
  induction visits using List.reverseRecOn generalizing newer with
  | nil =>
    rw [after, List.foldl_nil, hempty] at h
    exact absurd h.symm (List.append_ne_nil_of_right_ne_nil _ (List.cons_ne_nil _ _))
  | append_singleton visits visit ih =>
    rcases hstep visits visit.1 visit.2 with hgrown | hnil
    · rcases hgrown.origin h with ⟨between, hold⟩ | ⟨hsuffix, hgood⟩
      · obtain ⟨before, disk, call, later, rfl, hrest⟩ := ih hold
        exact ⟨before, disk, call, later ++ [visit], by
          rw [List.append_assoc, List.cons_append], hrest⟩
      · exact ⟨visits, visit.1, visit.2, [], rfl, hsuffix, ⟨newer, h.symm⟩, hgood⟩
    · rw [hnil] at h
      exact absurd h.symm (List.append_ne_nil_of_right_ne_nil _ (List.cons_ne_nil _ _))

/-- No path is stored twice, if calls make a list grow or empty it. -/
theorem nodup_stored (hempty : stored .empty = [])
    (hstep : ∀ before disk call, Grown (good disk) [] (stored (after before))
        (stored (after (before ++ [(disk, call)]))) ∨
      stored (after (before ++ [(disk, call)])) = []) :
    ((stored (after visits)).map Prod.fst).Nodup := by
  induction visits using List.reverseRecOn with
  | nil =>
    rw [after, List.foldl_nil, hempty]
    exact List.nodup_nil
  | append_singleton visits visit ih =>
    rcases hstep visits visit.1 visit.2 with hgrown | hnil
    · exact hgrown.nodup ih
    · rw [hnil]
      exact List.nodup_nil

end Stored

theorem grown_scripts_or_nil (visits : List (Disk × Call)) (disk : Disk) (call : Call) :
    Grown (Script.IsFiled disk) [] (after visits).scripts
        (after (visits ++ [(disk, call)])).scripts ∨
      (after (visits ++ [(disk, call)])).scripts = [] :=
  (grows_or_clears disk call (idle_after visits).1 (idle_after visits).2).imp
    Changes.scripts Changes.scripts

theorem grown_counts_or_nil (visits : List (Disk × Call)) (disk : Disk) (call : Call) :
    Grown (fun p _ _ => disk.IsCanonical p) [] (after visits).counts
        (after (visits ++ [(disk, call)])).counts ∨
      (after (visits ++ [(disk, call)])).counts = [] :=
  (grows_or_clears disk call (idle_after visits).1 (idle_after visits).2).imp
    Changes.counts Changes.counts

/-- **What holds after every session.** No file is in progress. No path is stored twice, and each
script was stored by one of the calls, under the canonical path of its file, in front of the scripts
of all files that its file included then; each count was stored under a canonical path. A further
call that fails leaves every script and every count as it is, and it stores nothing for any file on
the trail of the failure, from where the call begins down to the file where it came up; unless all
that is wrong is that the script of the call does not declare its kind. -/
theorem session_invariant (visits : List (Disk × Call)) :
    ((after visits).parsing = [] ∧ (after visits).counting = []) ∧
    (((after visits).scripts.map Prod.fst).Nodup ∧ ((after visits).counts.map Prod.fst).Nodup) ∧
    (∀ newer p script older, (after visits).scripts = newer ++ (p, script) :: older →
      StoredBy Store.scripts Script.IsFiled visits p script older) ∧
    (∀ newer p count older, (after visits).counts = newer ++ (p, count) :: older →
      StoredBy Store.counts (fun disk p _ _ => disk.IsCanonical p) visits p count older) ∧
    ∀ disk call failure t, Call.run disk call (after visits) = .error failure t →
      (∀ p script, (after visits).scripts.lookup p = some script →
        t.scripts.lookup p = some script) ∧
      (∀ p count, (after visits).counts.lookup p = some count →
        t.counts.lookup p = some count) ∧
      ((∃ place, failure = .layout .noKind place) ∨
        call.FailsBare disk (after visits) failure t) := by
  refine ⟨idle_after visits, ⟨nodup_stored rfl grown_scripts_or_nil,
    nodup_stored rfl grown_counts_or_nil⟩, fun _ _ _ _ => storedBy rfl grown_scripts_or_nil,
    fun _ _ _ _ => storedBy rfl grown_counts_or_nil, fun disk call failure t h => ?_⟩
  obtain ⟨hp, hc⟩ := idle_after visits
  obtain ⟨hgrows, hfails⟩ := (call.runs_run hp hc).of_error h
  exact ⟨fun _ _ => hgrows.scripts.lookup_eq, fun _ _ => hgrows.counts.lookup_eq, hfails⟩

/-! Two files that include each other, a file with one frame, and one that includes a file that is
nowhere. -/

/-- A disk with these files, and its reader at the root. -/
def frailDisk : Disk :=
  (mutualDisk.put (mutualPath 'c')
    (.file ("!FORMAT: <KA>\n.\n".toList.map fun c => UInt8.ofNat c.toNat))).put (mutualPath 'd')
    (.file ((mutualText 'e').map fun c => UInt8.ofNat c.toNat))

/-- Reads the file with the given name. -/
def readNamed (name : Char) : Script.Call :=
  .file (mutualPath name).location false

theorem canonical_frail {name : Char} (hn : name ≠ '.') :
    frailDisk.canonical (mutualPath name).location = mutualPath name := by
  have hl : frailDisk.links = [] := by decide +kernel
  refine Disk.canonical_location hl fun part hm => ?_
  rw [List.mem_singleton.mp hm]
  simp [Location.up, Location.stay, hn]

/-- Which file includes which one, and nothing before it. -/
theorem frail_links : ∀ link ∈ [('a', 'b'), ('b', 'a'), ('d', 'e')],
    frailDisk.source (mutualPath link.1) = .ok (mutualText link.2) ∧
    (Header.read (some (mutualPath link.1).text)
      (Text.lines (mutualText link.2))).toOption.isSome = true ∧
    outlineOf (Text.lines (mutualText link.2)) =
      .leaf ⟨2, 0, "INCLUDE ".toList ++ [link.2]⟩ (.inclusion [link.2]) .nil ∧
    (HeaderLines.find (Text.lines (mutualText link.2))).isFragment = false ∧
    (mutualPath link.1).parent.location.under (Location.read [link.2]) =
      (mutualPath link.2).location ∧
    (mutualPath link.2).location.isSound = true ∧ link.2 ≠ '.' := by
  decide +kernel

theorem plainAt_frail (link : Char × Char) (hm : link ∈ [('a', 'b'), ('b', 'a'), ('d', 'e')])
    {chain : List Path} {failure : Failure} (hc : mutualPath link.1 ∉ chain)
    (hq : Script.plainAt frailDisk (mutualPath link.1 :: chain) (mutualPath link.2) =
      .error failure) :
    Script.plainAt frailDisk chain (mutualPath link.1) = .error failure := by
  obtain ⟨hs, hh, ho, hfragment, hlocation, hsound, hdot⟩ := frail_links link hm
  rw [Script.plainAt_of_ok hc hs]
  cases hread : Header.read (some (mutualPath link.1).text) (Text.lines (mutualText link.2)) with
  | error fault =>
    rw [hread] at hh
    cases hh
  | ok header =>
    refine Script.plainLines_of_first_inclusion hread ho ?_ hq
    rw [HeaderLines.aim_of_sound (by simp [hfragment]) (hlocation ▸ hsound), hlocation,
      canonical_frail hdot]

/-- The file that is nowhere is on the trail of the failure, and so is the file that includes it;
the script that was read before is there. -/
theorem session_invariant_missing :
    (∃ script, (after [(frailDisk, .script (readNamed 'c'))]).scripts =
        [(mutualPath 'c', script)] ∧
      StoredBy Store.scripts Script.IsFiled [(frailDisk, .script (readNamed 'c'))] (mutualPath 'c')
        script []) ∧
    ∃ t, (Call.script (readNamed 'd')).run frailDisk
          (after [(frailDisk, .script (readNamed 'c'))]) =
        .error (.unreadable (mutualPath 'e').text (mutualPath 'e').text .missing) t ∧
      (Call.script (readNamed 'd')).FailsBare frailDisk
        (after [(frailDisk, .script (readNamed 'c'))])
        (.unreadable (mutualPath 'e').text (mutualPath 'e').text .missing) t := by
  obtain ⟨-, -, hscripts, -, hfails⟩ :=
    session_invariant [(frailDisk, .script (readNamed 'c'))]
  have hpaths : (after [(frailDisk, .script (readNamed 'c'))]).scripts.map Prod.fst =
      [mutualPath 'c'] := by
    simp only [after, List.foldl, Call.run, readNamed, Script.Call.answer, Script.parseFile,
      Store.resolve, canonical_frail (show 'c' ≠ '.' by decide)]
    decide +kernel
  have hplain : Script.plainAt frailDisk [] (mutualPath 'd') =
      .error (.unreadable (mutualPath 'e').text (mutualPath 'e').text .missing) :=
    plainAt_frail ('d', 'e') (by decide) (by decide)
      (Script.plainAt_of_error (by decide) (by decide +kernel))
  have hfile : Script.plainFileTyped frailDisk (mutualPath 'd').location false =
      .error (.unreadable (mutualPath 'e').text (mutualPath 'e').text .missing) := by
    rw [Script.plainFileTyped_false, Script.plainFile, if_pos (by decide),
      canonical_frail (by decide), hplain]
  have houtcome : outcome ((Call.script (readNamed 'd')).run frailDisk
        (after [(frailDisk, .script (readNamed 'c'))])) =
      .error (.unreadable (mutualPath 'e').text (mutualPath 'e').text .missing) := by
    refine (gives_map (fun _ => ()) (Script.gives_answer (readNamed 'd')) _
      (sound_after frailDisk [.script (readNamed 'c')])).1.trans ?_
    rw [readNamed, Script.Call.plainAnswer, hfile]
    rfl
  refine ⟨?_, ?_⟩
  · obtain ⟨⟨p, script⟩, hentry, hp⟩ := List.map_eq_singleton_iff.mp hpaths
    obtain rfl : p = mutualPath 'c' := hp
    exact ⟨script, hentry, hscripts [] _ script [] hentry⟩
  · cases hrun : (Call.script (readNamed 'd')).run frailDisk
        (after [(frailDisk, .script (readNamed 'c'))]) with
    | ok _ t =>
      rw [hrun] at houtcome
      cases houtcome
    | error failure t =>
      rw [hrun] at houtcome
      obtain rfl := Except.error.inj houtcome
      refine ⟨t, rfl, (hfails _ _ _ t hrun).2.2.resolve_left ?_⟩
      rintro ⟨place, hkind⟩
      cases hkind

end FrameScript.Store
