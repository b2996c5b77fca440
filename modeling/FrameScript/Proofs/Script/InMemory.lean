import FrameScript.Proofs.Script.Cycles

/-!
# A text in memory and the file that it was read from

A file is read while it is in progress itself, and so it is refused when it leads back to itself.
Its text is not in progress when it is read from memory: the file is met by the inclusion that leads
back to it, goes in progress then, and is refused a lap later. Nothing else tells the two apart, as
the text is handed over with the path that the file goes by.

A lap more may only turn one refusal into another. What a text includes and can be read does not
lead back to the file; otherwise the file could be read after it, and so would lead to itself while
it is in progress. For counts the same was shown of any files in progress that lead to the file
(`Count.plainAt_eq_of_leads`).

## Results

* `Count.plainLines_of_source`: the lines of a file have the count of the file.
* `plainLines_of_source_iff`: the lines of a file make the script of the file.
* `text_agrees_with_file`: **a text can be read exactly when its file can, as the same script, and
  it has the same count.**
-/

namespace FrameScript

namespace Count

variable {disk : Disk} {p : Path} {text : Text}

/-- **The lines of a file have the count of the file**, although the file is not in progress. -/
theorem plainLines_of_source (hs : disk.source p = .ok text) :
    plainLines disk p.parent.location (plainAt disk []) (Text.lines text) = plainAt disk [] p := by
  rw [plainAt_of_ok List.not_mem_nil hs]
  refine plainLines_congr fun q hq => (plainAt_eq_of_leads ?_ (List.nil_subset [p])).symm
  intro c hc
  rw [List.mem_singleton.mp hc]
  exact Relation.TransGen.single (leads_of_asksFor hs hq)

end Count

namespace Store

open Reading

variable (disk : Disk) (text : Text) (calls : List Call)

/-! ## Calls after a session on one disk -/

theorem outcome_parseText (path : Option Text) (typed : Bool) :
    outcome (Script.parseText disk text path typed (afterOn disk calls)) =
      Script.plainText disk text path typed :=
  (Script.gives_parseText text path typed _ (sound_after disk calls)).1

theorem outcome_parseFile (l : Location) (typed : Bool) :
    outcome (Script.parseFile disk l typed (afterOn disk calls)) =
      Script.plainFileTyped disk l typed :=
  (Script.gives_parseFile_typed l typed _ (sound_after disk calls)).1

theorem outcome_countText (base : Option Text) :
    outcome (Count.countText disk text base (afterOn disk calls)) =
      Count.plainLines disk (Count.baseOf disk base) (Count.plainAt disk []) (Text.lines text) :=
  (Count.gives_countText text base _ (sound_counts_afterOn disk calls)).1

theorem outcome_countFile (l : Location) :
    outcome (Count.countFile disk l (afterOn disk calls)) = Count.plainFile disk l :=
  (Count.gives_countFile l _ (sound_counts_afterOn disk calls)).1

end Store

namespace Script

open Reading

variable {disk : Disk} {p q : Path} {text : Text} {script included : Script}

/-- What a file includes does not lead back to it, if it can be read. -/
theorem not_leads_back (hq : plainAt disk [] q = .ok included) (hi : Includes disk p q) :
    ¬ Relation.ReflTransGen (Includes disk) q p := by
  intro hback
  obtain ⟨chain, script, hp⟩ := exists_script_of_leads hq hback
  exact not_mem_of_leads hp (Relation.TransGen.head' hi hback) List.mem_cons_self

/-- **The lines of a file make the script of the file**, although the file is not in progress. -/
theorem plainLines_of_source_iff (hs : disk.source p = .ok text) :
    plainLines disk (some p.text) p.parent.location (plainAt disk []) (Text.lines text) =
        .ok script ↔
      plainAt disk [] p = .ok script := by
  rw [plainAt_of_ok List.not_mem_nil hs]
  constructor
  · intro h
    refine plainLines_of_agree h fun line target q included hstep ha hq => ?_
    refine plainAt_of_ok_of_apart hq fun c hc _ => ?_
    rw [List.mem_singleton.mp hc]
    exact not_leads_back hq (includes_of_step hs hstep ha)
  · intro h
    refine plainLines_of_agree h fun line target q included _ _ hq => ?_
    exact plainAt_of_ok_of_apart hq fun c hc => absurd hc List.not_mem_nil

/-- The folder of a file is the one from which its text sees what it includes. -/
theorem bases_of_named (disk : Disk) (hp : p.IsNamed) :
    baseOf disk (some p.text) = p.parent.location ∧
      Count.baseOf disk (some p.parent.text) = p.parent.location := by
  refine ⟨?_, Path.read_text (Path.isNamed_parent hp)⟩
  rw [baseOf, Path.read_text hp]
  rfl

/-- **A text agrees with the file that it was read from.** For a file that can be opened, with `p`
its canonical path: its text, handed over with this path, can be read exactly when the file can,
with or without its kind, and both make the same script; seen from the folder of the file, it has
the same count, or none, or fails in the same way. It does not matter what was read and counted
before, or whether the file lies on a cycle of inclusions. Every disk that is made by writing and
deleting is written (`Disk.isWritten_write`, `Disk.isWritten_delete`). -/
theorem text_agrees_with_file (disk : Disk) (hd : disk.IsWritten) {path text : Text} {p : Path}
    (hl : (Location.read path).isSound = true)
    (hp : disk.canonical (Location.read path) = p) (hs : disk.source p = .ok text)
    (calls calls' : List Store.Call) :
    (∀ typed script,
      outcome (parseText disk text (some p.text) typed (Store.afterOn disk calls)) =
          .ok script ↔
        outcome (parseFile disk (Location.read path) typed (Store.afterOn disk calls')) =
          .ok script) ∧
    outcome (Count.countText disk text (some p.parent.text) (Store.afterOn disk calls)) =
      outcome (Count.countFile disk (Location.read path) (Store.afterOn disk calls')) := by
  have hnamed : p.IsNamed := hp ▸ Disk.isNamed_canonical hd (Location.isWritten_read path)
  obtain ⟨hbase, hcountBase⟩ := bases_of_named disk hnamed
  constructor
  · intro typed script
    rw [Store.outcome_parseText, Store.outcome_parseFile, plainText, hbase, plainFileTyped,
      plainFile, if_pos hl, hp, bind_plainDemand_eq_ok, bind_plainDemand_eq_ok,
      plainLines_of_source_iff hs]
  · rw [Store.outcome_countText, Store.outcome_countFile, hcountBase, Count.plainFile, if_pos hl,
      hp, Count.plainLines_of_source hs]

/-- Of two files that include each other the text of one can be read no more than the file, and both
have the same count, also after the other file was counted. The text of a file apart from them can
be read, as the script of the file. -/
theorem text_agrees_with_file_mutual :
    Store.frailDisk.IsWritten ∧
    ((∀ script, outcome (parseText Store.frailDisk (mutualText 'b')
          (some (mutualPath 'a').text) false (Store.afterOn Store.frailDisk [])) ≠ .ok script) ∧
      outcome (Count.countText Store.frailDisk (mutualText 'b')
          (some (mutualPath 'a').parent.text) (Store.afterOn Store.frailDisk [])) =
        outcome (Count.countFile Store.frailDisk (Location.read "/a".toList)
          (Store.afterOn Store.frailDisk [.count (.file (mutualPath 'b').location)]))) ∧
    ∃ script, outcome (parseText Store.frailDisk "!FORMAT: <KA>\n.\n".toList
        (some (mutualPath 'c').text) false (Store.afterOn Store.frailDisk [])) = .ok script := by
  have hd : Store.frailDisk.IsWritten := by
    refine Disk.isWritten_put (Disk.isWritten_put (Disk.isWritten_put (Disk.isWritten_put
      (Disk.isWritten_empty Path.isNamed_root) ?_) ?_) ?_) ?_ <;> exact fun target he => by cases he
  have ha : Location.read "/a".toList = (mutualPath 'a').location := by decide +kernel
  have hc : Location.read "/c".toList = (mutualPath 'c').location := by decide +kernel
  have hcycle := text_agrees_with_file Store.frailDisk hd
    (by rw [ha]; decide) (by rw [ha, Store.canonical_frail (by decide)])
    (Store.frail_links ('a', 'b') (by decide)).1 [] [.count (.file (mutualPath 'b').location)]
  have hapart := text_agrees_with_file Store.frailDisk hd
    (by rw [hc]; decide) (by rw [hc, Store.canonical_frail (by decide)])
    (show Store.frailDisk.source (mutualPath 'c') = .ok "!FORMAT: <KA>\n.\n".toList by
      decide +kernel) [] []
  refine ⟨hd, ⟨fun script htext => ?_, hcycle.2⟩, ?_⟩
  · have hfile := (hcycle.1 false script).mp htext
    rw [ha, Store.outcome_parseFile, plainFileTyped_false, plainFile,
      if_pos (by decide), Store.canonical_frail (by decide),
      Store.plainAt_frail ('a', 'b') (by decide) (by decide)
        (Store.plainAt_frail ('b', 'a') (by decide) (by decide) (plainAt_of_mem (by decide)))]
      at hfile
    cases hfile
  · have hread : (plainAt Store.frailDisk [] (mutualPath 'c')).toOption.isSome = true := by
      decide +kernel
    obtain ⟨script, hscript⟩ := exists_ok_of_isSome hread
    refine ⟨script, (hapart.1 false script).mpr ?_⟩
    rw [hc, Store.outcome_parseFile, plainFileTyped_false, plainFile,
      if_pos (by decide), Store.canonical_frail (by decide), hscript]

end Script

end FrameScript
