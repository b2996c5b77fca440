import FrameScript.Proofs.Count.Rounds
import FrameScript.Proofs.Script.Rounds

/-!
# Reading and counting end

A file may include itself, two files may include each other, one file may be included on several
ways, and an `INCLUDE` may stand in `REPEAT` blocks at any depth. Reading a file and counting it end
all the same: whatever they go into is nested in the body at hand, and nothing is nested without
end. So many rounds are enough as the disk has reach, which depends on the files alone. Nothing
bounds how deep the rounds go; a system that bounds the depth of calls may give up before.
-/

namespace FrameScript

/-- **Reading and counting end.** Bodies are not nested without end, as a nested body either has
fewer lines of the same file or belongs to one more file that can be read and was not in progress;
reading and counting a body are recursions over nested bodies. Whatever one does about the bodies
that are left after `disk.reach` rounds, a file is read and counted to the same outcome, in every
store. -/
theorem reading_and_counting_end (disk : Disk) :
    (∀ κ, WellFounded (@Nested κ disk)) ∧
    (∀ κ, ∀ inner outer : Block κ, Nested disk inner outer →
      (inner.chain = outer.chain ∧ inner.lines.length < outer.lines.length) ∨
        ∃ q ∈ disk.paths, q ∉ outer.chain ∧ inner.chain = q :: outer.chain) ∧
    Recursion disk (Script.round disk) (Script.framesOf disk) ∧
    Recursion disk (Count.round disk) (Count.countOf disk) ∧
    ∀ n, disk.reach ≤ n →
      (∀ bottom l typed,
        Script.parseFileBy disk ((Script.round disk)^[n] bottom) l typed =
          Script.parseFile disk l typed) ∧
      ∀ bottom l,
        Count.countFileBy disk ((Count.round disk)^[n] bottom) l = Count.countFile disk l := by
  refine ⟨fun κ => wellFounded_nested κ disk, fun κ inner outer h => h.fewer_or_further,
    Script.recursion_round disk, Count.recursion_round disk, fun n hn => ⟨?_, ?_⟩⟩
  · intro bottom l typed
    exact Script.parseFileBy_iterate hn bottom l typed
  · intro bottom l
    exact Count.countFileBy_iterate hn bottom l

/-! Two files that include each other. -/

/-- The file with the given name, at the root. -/
def mutualPath (name : Char) : Path := ⟨[[name]]⟩

/-- The text of a file that includes the file with the given name. -/
def mutualText (name : Char) : Text :=
  "!FORMAT: <KA>\nINCLUDE ".toList ++ [name]

/-- A disk with two files that include each other, and its reader at the root. -/
def mutualDisk : Disk :=
  let file (name : Char) : Node := .file ((mutualText name).map fun c => UInt8.ofNat c.toNat)
  ((Disk.empty .root).put (mutualPath 'a') (file 'b')).put (mutualPath 'b') (file 'a')

/-- The body of the second file is nested in that of the first one. It opens a further file, and
counting ends even if whatever is left after the last round fails. -/
theorem reading_and_counting_end_mutual :
    Nested mutualDisk (.ofFile [mutualPath 'a'] (mutualPath 'b') () (mutualText 'a'))
      (.ofFile [] (mutualPath 'a') () (mutualText 'b')) ∧
    mutualPath 'b' ∈ mutualDisk.paths ∧
    Count.countFileBy mutualDisk
        ((Count.round mutualDisk)^[mutualDisk.reach] fun _ => throw .badPath)
        (mutualPath 'a').location =
      Count.countFile mutualDisk (mutualPath 'a').location := by
  obtain ⟨-, hnested, -, -, hends⟩ := reading_and_counting_end mutualDisk
  have hsource : (mutualDisk.source (mutualPath 'b')).toOption = some (mutualText 'a') := by
    decide +kernel
  have hs : mutualDisk.source (mutualPath 'b') = .ok (mutualText 'a') := by
    cases h : mutualDisk.source (mutualPath 'b') with
    | ok text =>
      rw [h] at hsource
      rw [Option.some.inj hsource]
    | error fault =>
      rw [h] at hsource
      cases hsource
  have hlines : (Block.ofFile [] (mutualPath 'a') () (mutualText 'b')).lines =
      [⟨2, 0, "INCLUDE b".toList⟩] := by decide +kernel
  have hopening : Outline.opening 0 ⟨2, 0, "INCLUDE b".toList⟩ =
      .nothing (.inclusion ['b']) := by decide +kernel
  have hpath : mutualPath 'b' = mutualDisk.canonical
      ((mutualPath 'a').parent.location.under (Location.read ['b'])) := by
    have hlocation : (mutualPath 'a').parent.location.under (Location.read ['b']) =
        ⟨.absolute, [['b']]⟩ := by decide +kernel
    have hfile : mutualDisk.find? (mutualPath 'b') =
        some (.file ((mutualText 'a').map fun c => UInt8.ofNat c.toNat)) := by decide +kernel
    rw [hlocation]
    show mutualPath 'b' = mutualDisk.follow [] .root [['b']]
    rw [Disk.follow, if_neg (by decide), if_neg (by decide)]
    split
    · rename_i target hlink
      cases hfile.symm.trans hlink
    · rw [Disk.follow]
      rfl
  have h : Nested mutualDisk (.ofFile [mutualPath 'a'] (mutualPath 'b') () (mutualText 'a'))
      (.ofFile [] (mutualPath 'a') () (mutualText 'b')) :=
    .file hlines hopening hpath (by decide) hs
  refine ⟨h, ?_, (hends _ (Nat.le_refl _)).2 _ _⟩
  rcases hnested _ _ _ h with ⟨hchain, -⟩ | ⟨q, hq, -, hchain⟩
  · cases hchain
  · obtain rfl : mutualPath 'b' = q := (List.cons.inj hchain).1
    exact hq

end FrameScript
