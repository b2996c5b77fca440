import FrameScript.Proofs.Store.Sessions

/-!
# Scripts that include themselves

Whether a file leads back to itself is found out while it is read, and what is stored by then is
taken for granted. On a disk that does not change this is right: what is stored was read to the end,
and so it leads nowhere that is still in progress.

## Results

* `isCycle_of_trail`: a refusal tells a cycle that is there.
* `finds_cycles`: **whatever was read and counted before, a file that can be read leads to no
  file that leads back to itself, and the chain of files with which one is refused is a cycle of
  inclusions.**
-/

namespace FrameScript.Script

open Reading

variable {disk : Disk} {stored : Path → Bool} {above trail ks : List Path} {p q : Path}
  {failure : Failure} {place : Place} {s u : Store}

/-! ## Files that can be read -/

/-- Everything that a file leads to can be read, if the file can. -/
theorem exists_script_of_leads {chain : List Path} {script : Script}
    (h : plainAt disk chain p = .ok script) (hq : Relation.ReflTransGen (Includes disk) p q) :
    ∃ chain' script', plainAt disk chain' q = .ok script' := by
  induction hq using Relation.ReflTransGen.head_induction_on generalizing chain script with
  | refl => exact ⟨chain, script, h⟩
  | head hi _ ih =>
    obtain ⟨included, hp⟩ := exists_of_includes h hi
    exact ih hp

/-- **Nothing that a file leads to leads back to itself**, if the file can be read. -/
theorem acyclic_of_script {script : Script} (h : plainAt disk [] p = .ok script)
    (hq : Relation.ReflTransGen (Includes disk) p q) :
    ¬ Relation.TransGen (Includes disk) q q := by
  obtain ⟨chain, script', hscript⟩ := exists_script_of_leads h hq
  exact fun hback => not_mem_of_leads hscript hback List.mem_cons_self

/-! ## Refusals -/

/-- The files of a cycle as a refusal tells them, with the place that it tells: each of them
includes the next one, the last one is the first one again, and otherwise they are different. -/
structure IsCycle (disk : Disk) (ks : List Path) (place : Place) : Prop where
  length : 2 ≤ ks.length
  closed : ks.head? = ks.getLast?
  distinct : ks.dropLast.Nodup
  canonical : ∀ k ∈ ks, disk.IsCanonical k
  includes : ks.IsChain (Includes disk)
  place : place = ⟨ks.dropLast.getLast?.map Path.text, none⟩

theorem exists_dropWhile_eq_cons (h : p ∈ ks) : ∃ rest, ks.dropWhile (· ≠ p) = p :: rest := by
  induction ks with
  | nil => cases h
  | cons k rest ih =>
    rw [List.dropWhile_cons]
    by_cases hk : k = p
    · rw [if_neg (by simp [hk]), hk]
      exact ⟨rest, rfl⟩
    · rw [if_pos (by simp [hk])]
      exact ih ((List.mem_cons.mp h).resolve_left (Ne.symm hk))

/-- The files in progress with the one that is read next, innermost first: each has been included by
the one after it, and none is in progress twice. -/
structure Descends (disk : Disk) (above : List Path) (p : Path) : Prop where
  distinct : above.Nodup
  canonical : ∀ k ∈ p :: above, disk.IsCanonical k
  includes : (p :: above).IsChain (flip (Includes disk))

/-- **A file in progress that is met again closes a cycle.** -/
theorem Descends.isCycle (h : Descends disk above p) (hp : p ∈ above) :
    IsCycle disk (cycleOf above p) ⟨above.head?.map Path.text, none⟩ := by
  obtain ⟨rest, hrest⟩ := exists_dropWhile_eq_cons (List.mem_reverse.mpr hp)
  have hcycle : cycleOf above p = p :: (rest ++ [p]) := by
    rw [cycleOf, hrest]
    rfl
  have hsuffix : p :: rest <:+ above.reverse := hrest ▸ List.dropWhile_suffix _
  have hdrop : (p :: (rest ++ [p])).dropLast = p :: rest := by
    rw [← List.cons_append, List.dropLast_concat]
  rw [hcycle]
  refine ⟨by simp, by rw [← List.cons_append, List.getLast?_concat]; rfl, ?_,
    fun k hk => h.canonical k ?_, ?_, ?_⟩
  · rw [hdrop]
    exact hsuffix.sublist.nodup (List.pairwise_reverse.mpr (h.distinct.imp Ne.symm))
  · rcases List.mem_append.mp ((List.cons_append ▸ hk : k ∈ (p :: rest) ++ [p])) with hk | hk
    · exact List.mem_cons_of_mem _ (List.mem_reverse.mp (hsuffix.subset hk))
    · rw [List.mem_singleton.mp hk]
      exact List.mem_cons_self
  · have hchain : (above.reverse ++ [p]).IsChain (Includes disk) := by
      rw [← List.reverse_cons, List.isChain_reverse]
      exact h.includes
    obtain ⟨before, hbefore⟩ := hsuffix
    rw [← hbefore, List.append_assoc] at hchain
    exact hchain.right_of_append
  · obtain ⟨before, hbefore⟩ := hsuffix
    rw [hdrop, ← List.getLast?_reverse, ← hbefore, List.getLast?_append_cons]

/-- What is wrong with a step in itself is no cycle. -/
theorem ne_cycle_of_stepSnag? {source : Option Text} {base : Location} {found : HeaderLines}
    {format : Format} {step : Outline.Step}
    (h : stepSnag? disk source base found format stored step = some (.fault failure)) :
    failure ≠ .layout (.cycle ks) place := by
  rintro rfl
  match step, h with
  | .leaf line (.inclusion target), h =>
    simp only [stepSnag?] at h
    cases ha : found.aim disk base target with
    | nowhere =>
      rw [ha, aimSnag?, closedFailure, closedFault] at h
      split at h <;> cases h
    | astray =>
      rw [ha] at h
      cases h
    | file q =>
      rw [ha, aimSnag?] at h
      split at h <;> cases h
  | .leaf line .data, h =>
    simp only [stepSnag?, Outline.Step.halt, plainData] at h
    cases hf : format.frame? ⟨source, some line.number⟩ line.content with
    | some frame =>
      rw [hf] at h
      cases h
    | none =>
      rw [hf] at h
      cases h
  | .leaf line (.bad misfit), h => cases misfit <;> cases h
  | .leave count, h =>
    simp only [stepSnag?, Outline.Step.halt] at h
    split at h <;> cases h
  | .leaf _ .skip, h | .enter _ _, h => cases h

/-- What is wrong with a file in itself is no cycle. -/
theorem ne_cycle_of_meets (h : Meets disk above p s failure (.fault failure) u) :
    failure ≠ .layout (.cycle ks) place := by
  unfold Meets at h
  split at h
  · rw [h.1]
    exact fun he => by cases he
  · unfold LinesMeet at h
    split at h
    · rename_i hh
      obtain ⟨rfl, -⟩ := h
      rcases Header.ofFound_error hh with ⟨text, place', rfl⟩ | ⟨place', rfl⟩ | hm
      · exact fun he => by cases he
      · exact fun he => by cases he
      · rintro rfl
        exact absurd hm (by decide : some Failure.Kind.layout ∉ Format.faultKinds)
    · obtain ⟨before, step, after, t, t', -, -, -, hsnag, -⟩ := h
      exact ne_cycle_of_stepSnag? hsnag

/-- **A refusal tells a cycle that is there.** -/
theorem isCycle_of_trail (h : Trail (Meets disk) above p s trail failure)
    (hf : failure = .layout (.cycle ks) place) (hd : Descends disk above p) :
    IsCycle disk ks place := by
  induction h with
  | refused hp =>
    rw [cycleFailure] at hf
    cases hf
    exact hd.isCycle hp
  | fault _ hs => exact absurd hf (ne_cycle_of_meets hs)
  | within hp hs _ ih =>
    obtain ⟨hincludes, hcanonical⟩ := includes_of_meets hs
    refine ih hf ⟨List.nodup_cons.mpr ⟨hp, hd.distinct⟩, ?_, .cons_cons hincludes hd.includes⟩
    exact List.forall_mem_cons.mpr ⟨hcanonical, hd.canonical⟩

/-- **Cycles of inclusions are found out exactly**, on a disk that does not change, whatever calls
were made before. If a file can be read, nothing that it leads to leads back to itself. If it is
refused with a chain of files, these are a cycle of inclusions, with the last file before the chain
closes for the place of the failure. -/
theorem finds_cycles (disk : Disk) (calls : List Store.Call) (l : Location) (typed : Bool) :
    (∀ script t, parseFile disk l typed (Store.after (calls.map fun call => (disk, call))) =
        .ok script t →
      ∀ q, Relation.ReflTransGen (Includes disk) (disk.canonical l) q →
        ¬ Relation.TransGen (Includes disk) q q) ∧
    ∀ ks place t, parseFile disk l typed (Store.after (calls.map fun call => (disk, call))) =
        .error (.layout (.cycle ks) place) t →
      IsCycle disk ks place := by
  have hsound := Store.sound_after disk calls
  refine ⟨fun script t h q hq => ?_, fun ks place t h => ?_⟩
  · obtain ⟨houtcome, -⟩ := gives_parseFile_typed l typed _ hsound
    rw [h] at houtcome
    have hplain := plainFile_of_typed houtcome.symm
    unfold plainFile at hplain
    split at hplain
    · exact acyclic_of_script hplain hq
    · cases hplain
  · obtain ⟨-, ⟨place', hkind⟩ | ⟨trail, hfrom, -⟩⟩ :=
      (runs_parseFile disk hsound.parsing l typed).of_error h
    · cases hkind
    · unfold Snag.ofLocation at hfrom
      split at hfrom
      · rename_i hl
        exact isCycle_of_trail hfrom rfl ⟨List.nodup_nil,
          fun k hk => List.mem_singleton.mp hk ▸ ⟨l, hl, rfl⟩, .singleton _⟩
      · obtain ⟨hbad, -⟩ := hfrom
        cases hbad

/-- Of two files that include each other each has been counted, without a number. Reading one of
them is refused with both, and a file apart from them can be read. -/
theorem finds_cycles_mutual :
    (∃ script t, parseFile Store.frailDisk (mutualPath 'c').location false
        (Store.after ([.count (.file (mutualPath 'b').location)].map fun call =>
          (Store.frailDisk, call))) = .ok script t ∧
      ∀ q, Relation.ReflTransGen (Includes Store.frailDisk)
          (Store.frailDisk.canonical (mutualPath 'c').location) q →
        ¬ Relation.TransGen (Includes Store.frailDisk) q q) ∧
    ∃ t, parseFile Store.frailDisk (mutualPath 'a').location false
        (Store.after ([.count (.file (mutualPath 'b').location)].map fun call =>
          (Store.frailDisk, call))) =
        .error (.layout (.cycle [mutualPath 'a', mutualPath 'b', mutualPath 'a'])
          ⟨some (mutualPath 'b').text, none⟩) t ∧
      IsCycle Store.frailDisk [mutualPath 'a', mutualPath 'b', mutualPath 'a']
        ⟨some (mutualPath 'b').text, none⟩ := by
  let calls : List Store.Call := [.count (.file (mutualPath 'b').location)]
  have hsound := Store.sound_after Store.frailDisk calls
  have hread := finds_cycles Store.frailDisk calls (mutualPath 'c').location false
  have hrefused := finds_cycles Store.frailDisk calls (mutualPath 'a').location false
  have hc : (plainAt Store.frailDisk [] (mutualPath 'c')).toOption.isSome = true := by
    decide +kernel
  have ha : plainAt Store.frailDisk [] (mutualPath 'a') =
      .error (.layout (.cycle [mutualPath 'a', mutualPath 'b', mutualPath 'a'])
        ⟨some (mutualPath 'b').text, none⟩) :=
    Store.plainAt_frail ('a', 'b') (by decide) (by decide)
      (Store.plainAt_frail ('b', 'a') (by decide) (by decide) (plainAt_of_mem (by decide)))
  refine ⟨?_, ?_⟩
  · have houtcome := (gives_parseFile (mutualPath 'c').location _ hsound).1
    rw [plainFile, if_pos (by decide), Store.canonical_frail (by decide)] at houtcome
    cases hrun : parseFile Store.frailDisk (mutualPath 'c').location false
        (Store.after (calls.map fun call => (Store.frailDisk, call))) with
    | ok script t => exact ⟨script, t, rfl, hread.1 script t hrun⟩
    | error failure t =>
      rw [hrun] at houtcome
      rw [← houtcome] at hc
      cases hc
  · have houtcome := (gives_parseFile (mutualPath 'a').location _ hsound).1
    rw [plainFile, if_pos (by decide), Store.canonical_frail (by decide), ha] at houtcome
    cases hrun : parseFile Store.frailDisk (mutualPath 'a').location false
        (Store.after (calls.map fun call => (Store.frailDisk, call))) with
    | ok script t =>
      rw [hrun] at houtcome
      cases houtcome
    | error failure t =>
      rw [hrun] at houtcome
      obtain rfl := Except.error.inj houtcome
      exact ⟨t, rfl, hrefused.2 _ _ t hrun⟩

end FrameScript.Script
