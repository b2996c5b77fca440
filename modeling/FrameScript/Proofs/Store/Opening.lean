import FrameScript.Proofs.Reading
import FrameScript.Proofs.Store.Growth
import FrameScript.Script.Count
import FrameScript.Script.Parse
import Mathlib.Data.List.Nodup
import Mathlib.Data.List.Perm.Subperm

/-!
# Which files are opened

A file is opened when its script is to be read, or counted, and nothing is stored for it. Opening
the files that it includes comes in between, and only then is something stored for the file itself,
so that for a while it has been opened and nothing tells so but the list of files in progress. If
the reading fails, nothing is ever stored for the files that it was in the middle of.

A `Shelf` is what a store keeps of files, scripts or counts, with what the journal is told when
something is put there. `Shelf.Adds` says what a reading has done to a shelf: it has opened files,
none of them twice and none that had something on the shelf, and has put there something for some of
them. `Shelf.Opens` says so of a reading from one store, together with two things that allow to put
readings one after another: if the reading does not fail it has put there something for each of
these files, and it does the same on every disk on which these files are the same.

## Results

* `Shelf.Adds.trans`: **files that are opened later are others**, if there is something on the shelf
  for those that were opened before.
* `Shelf.Opens.bind`: so that one reading may come after another.
* `Shelf.Opens.visit`: a file is opened, its lines are read, and something is stored for it.
* `Outline.opens_frames`, `Outline.opens_count?`: unrolling and counting open files where lines do.
-/

namespace FrameScript

namespace Reading

variable {ε σ α β : Type} {x : EStateM ε σ α} {f : α → EStateM ε σ β} {s t : σ}
  {r : EStateM.Result ε σ α}

/-- How a reading ends is what is true of its end. -/
theorem runs_self : Runs x s (fun a t => x s = .ok a t) fun e t => x s = .error e t := by
  unfold Runs
  cases hx : x s with
  | ok a t => rfl
  | error e t => rfl

/-- What is true of the end of a reading may be how it ends. -/
theorem eq_of_runs (h : Runs x s (fun a t => r = .ok a t) fun e t => r = .error e t) :
    x s = r := by
  unfold Runs at h
  cases hx : x s with
  | ok a t =>
    rw [hx] at h
    exact h.symm
  | error e t =>
    rw [hx] at h
    exact h.symm

theorem bind_of_ok {a : α} (h : x s = .ok a t) : (x >>= f) s = f a t := by
  show EStateM.bind x f s = _
  rw [EStateM.bind, h]

theorem bind_of_error {e : ε} (h : x s = .error e t) : (x >>= f) s = .error e t := by
  show EStateM.bind x f s = _
  rw [EStateM.bind, h]

end Reading

open Reading

/-- The files of `files` have the same texts on both disks, and locations lead to the same paths. -/
structure Disk.AgreesOn (files : List Path) (disk disk' : Disk) : Prop where
  canonical : ∀ l, disk'.canonical l = disk.canonical l
  source : ∀ p ∈ files, disk'.source p = disk.source p

theorem Disk.AgreesOn.mono {files fewer : List Path} {disk disk' : Disk}
    (h : disk.AgreesOn files disk') (hs : fewer ⊆ files) : disk.AgreesOn fewer disk' :=
  ⟨h.canonical, fun p hp => h.source p (hs hp)⟩

/-- What the journal of a store has been told under a title, the newest first. -/
def Store.titled (title : String) (s : Store) : Journal :=
  s.journal.filter (·.title == title)

/-- What is told under one title is not told under another. -/
theorem Store.titled_of_cons {title : String} {entry : Journal.Entry} {s t : Store}
    (h : t.journal = entry :: s.journal) (hn : entry.title ≠ title) :
    t.titled title = s.titled title := by
  rw [titled, h, List.filter_cons_of_neg (by simpa using hn)]
  rfl

/-- No file is opened and nothing is stored, and the journal is told of neither. -/
structure Store.Quiet (s t : Store) : Prop where
  opened : t.opened = s.opened
  scripts : t.scripts = s.scripts
  counts : t.counts = s.counts
  parsed : t.titled "Parsed file" = s.titled "Parsed file"
  counted : t.titled "Counted frames" = s.titled "Counted frames"

/-- The journal may be told of something else. -/
theorem Store.quiet_of_told {level : Journal.Level} {title : String}
    {values : List (String × Journal.Value)} {s t : Store} (ho : t.opened = s.opened)
    (hs : t.scripts = s.scripts) (hc : t.counts = s.counts)
    (hj : t.journal = ⟨level, title, values⟩ :: s.journal)
    (hn : title ≠ "Parsed file" ∧ title ≠ "Counted frames") : s.Quiet t where
  opened := ho
  scripts := hs
  counts := hc
  parsed := titled_of_cons hj hn.1
  counted := titled_of_cons hj hn.2

/-- A part of a store: what is stored for files, the newest first, the title and the values with
which the journal is told of it, and what else there is that has nothing to do with it. -/
structure Shelf (β γ : Type) where
  stored : Store → List (Path × β)
  title : String
  values : Path × β → List (String × Journal.Value)
  rest : Store → γ

namespace Shelf

variable {α β γ δ : Type} {shelf : Shelf β γ} {disk : Disk} {busy files later : List Path}
  {new newer : List (Path × β)} {s t u : Store} {p : Path}

/-- What the journal is told when something is stored. -/
def report (shelf : Shelf β γ) (entry : Path × β) : Journal.Entry :=
  ⟨.debug, shelf.title, shelf.values entry⟩

/-- What the journal has been told of what is stored, the newest first. -/
def told (shelf : Shelf β γ) (s : Store) : Journal :=
  s.titled shelf.title

theorem told_of_cons {entry : Path × β} (h : t.journal = shelf.report entry :: s.journal) :
    shelf.told t = shelf.report entry :: shelf.told s := by
  rw [told, Store.titled, h, List.filter_cons_of_pos (by simp [report])]
  rfl

/-! ## What is done to a shelf -/

/-- The shelf is as it was, and no file has been opened. -/
structure Same (shelf : Shelf β γ) (s t : Store) : Prop where
  opened : t.opened = s.opened
  stored : shelf.stored t = shelf.stored s
  told : shelf.told t = shelf.told s
  rest : shelf.rest t = shelf.rest s

theorem Same.refl : shelf.Same s s :=
  ⟨rfl, rfl, rfl, rfl⟩

/-- From the store `s` to the store `t` the files of `files` have been opened, and the entries of
`new` have been put on the shelf. No file is opened twice, none that is `busy` or that had something
on the shelf; the entries are of files that have been opened, and the journal was told of each. -/
structure Adds (shelf : Shelf β γ) (disk : Disk) (busy files : List Path) (new : List (Path × β))
    (s t : Store) : Prop where
  opened : t.opened = files ++ s.opened
  stored : shelf.stored t = new ++ shelf.stored s
  told : shelf.told t = new.map shelf.report ++ shelf.told s
  rest : shelf.rest t = shelf.rest s
  nodup : files.Nodup
  fresh : ∀ p ∈ files, disk.IsCanonical p ∧ p ∉ busy ∧ (shelf.stored s).lookup p = none
  among : (new.map Prod.fst).Subperm files

theorem Same.adds (h : shelf.Same s t) : shelf.Adds disk busy [] [] s t where
  opened := h.opened
  stored := h.stored
  told := h.told
  rest := h.rest
  nodup := List.nodup_nil
  fresh := fun _ hm => absurd hm List.not_mem_nil
  among := List.nil_subperm

/-- The file `p` is opened, and nothing happens to the shelf. -/
structure Enters (shelf : Shelf β γ) (p : Path) (s t : Store) : Prop where
  opened : t.opened = p :: s.opened
  stored : shelf.stored t = shelf.stored s
  told : shelf.told t = shelf.told s
  rest : shelf.rest t = shelf.rest s

/-- An entry is put on the shelf, and the journal is told of it. -/
structure Keeps (shelf : Shelf β γ) (entry : Path × β) (s t : Store) : Prop where
  opened : t.opened = s.opened
  stored : shelf.stored t = entry :: shelf.stored s
  told : shelf.told t = shelf.report entry :: shelf.told s
  rest : shelf.rest t = shelf.rest s

namespace Adds

theorem same_right (h : shelf.Adds disk busy files new s t) (hs : shelf.Same t u) :
    shelf.Adds disk busy files new s u where
  opened := hs.opened.trans h.opened
  stored := hs.stored.trans h.stored
  told := hs.told.trans h.told
  rest := hs.rest.trans h.rest
  nodup := h.nodup
  fresh := h.fresh
  among := h.among

/-- What has nothing on the shelf in the end is not new there, and had nothing before. -/
theorem lookup_none (h : shelf.Adds disk busy files new s t)
    (hn : (shelf.stored t).lookup p = none) :
    p ∉ new.map Prod.fst ∧ (shelf.stored s).lookup p = none := by
  rw [h.stored, lookup_eq_none_iff_not_mem, List.map_append, List.mem_append, not_or] at hn
  exact ⟨hn.1, lookup_eq_none_iff_not_mem.mpr hn.2⟩

/-- No file gets two entries. -/
theorem nodup_new (h : shelf.Adds disk busy files new s t) : (new.map Prod.fst).Nodup := by
  obtain ⟨paths, hperm, hsub⟩ := h.among
  exact hperm.nodup_iff.mp (hsub.nodup h.nodup)

/-- **Files that are opened later are others**, if there is something on the shelf for those that
were opened before. -/
theorem trans (h : shelf.Adds disk busy files new s t) (hp : (new.map Prod.fst).Perm files)
    (h' : shelf.Adds disk busy later newer t u) :
    shelf.Adds disk busy (later ++ files) (newer ++ new) s u where
  opened := by rw [h'.opened, h.opened, List.append_assoc]
  stored := by rw [h'.stored, h.stored, List.append_assoc]
  told := by rw [h'.told, h.told, List.map_append, List.append_assoc]
  rest := h'.rest.trans h.rest
  nodup := by
    refine List.Nodup.append h'.nodup h.nodup fun q hq hm => ?_
    exact (h.lookup_none (h'.fresh q hq).2.2).1 (hp.mem_iff.mpr hm)
  fresh := by
    intro q hq
    rcases List.mem_append.mp hq with hq | hq
    · obtain ⟨hc, hb, hn⟩ := h'.fresh q hq
      exact ⟨hc, hb, (h.lookup_none hn).2⟩
    · exact h.fresh q hq
  among := by
    rw [List.map_append]
    exact h'.among.append h.among

/-- A file is opened before those that are opened while it is in progress. -/
theorem of_enters (h : shelf.Adds disk (p :: busy) files new t u) (he : shelf.Enters p s t)
    (hc : disk.IsCanonical p) (hb : p ∉ busy) (hn : (shelf.stored s).lookup p = none) :
    shelf.Adds disk busy (files ++ [p]) new s u where
  opened := by
    rw [h.opened, he.opened, List.append_assoc]
    rfl
  stored := h.stored.trans (he.stored ▸ rfl)
  told := h.told.trans (he.told ▸ rfl)
  rest := h.rest.trans he.rest
  nodup := by
    -- Nothing that is stored tells that `p` has been opened, but it is in progress.
    refine List.Nodup.append h.nodup (List.nodup_singleton p) fun q hq hm => ?_
    exact (h.fresh q hq).2.1 (List.mem_singleton.mp hm ▸ List.mem_cons_self)
  fresh := by
    intro q hq
    rcases List.mem_append.mp hq with hq | hq
    · obtain ⟨hcanonical, hbusy, hnone⟩ := h.fresh q hq
      exact ⟨hcanonical, fun hm => hbusy (List.mem_cons_of_mem _ hm), he.stored ▸ hnone⟩
    · rw [List.mem_singleton.mp hq]
      exact ⟨hc, hb, hn⟩
  among := h.among.trans (List.sublist_append_left files [p]).subperm

/-- In the end something is stored for the file that was opened first. -/
theorem keep {b : β} (h : shelf.Adds disk busy (files ++ [p]) new s t)
    (hp : (new.map Prod.fst).Perm files) (hk : shelf.Keeps (p, b) t u) :
    shelf.Adds disk busy (files ++ [p]) ((p, b) :: new) s u where
  opened := hk.opened.trans h.opened
  stored := by rw [hk.stored, h.stored, List.cons_append]
  told := by rw [hk.told, h.told, List.map_cons, List.cons_append]
  rest := hk.rest.trans h.rest
  nodup := h.nodup
  fresh := h.fresh
  among := ((hp.cons p).trans (List.perm_append_singleton p files).symm).subperm

end Adds

/-! ## Readings -/

/-- What comes of a file that is opened: it cannot be read, or `lines` reads its text, each from the
store `began`. In the end the file is left with the store `quit`, or something is stored for it with
`keep`. -/
def visitAt (disk : Disk) (p : Path) (lines : Text → Reading β) (began : Store)
    (quit : Store → Store) (keep : β → Store → Store) : EStateM.Result Failure Store β :=
  match disk.source p with
  | .error fault => .error (.unreadable p.text p.text fault) (quit began)
  | .ok text =>
    match lines text began with
    | .ok b t => .ok b (keep b t)
    | .error failure t => .error failure (quit t)

/-- What a reading does with a shelf that begins with the store `s`. It may look at any disk; on one
it opens files, it puts there something for each of them if it does not fail, and it does the same
on every disk that agrees on these files. -/
def Opens (shelf : Shelf β γ) (disk : Disk) (busy : List Path) (x : Disk → Reading α) (s : Store) :
    Prop :=
  ∃ files new, shelf.Adds disk busy files new s (left (x disk s)) ∧
    (∀ a t, x disk s = .ok a t → (new.map Prod.fst).Perm files) ∧
    ∀ disk', disk.AgreesOn files disk' → x disk' s = x disk s

namespace Opens

variable {x : Disk → Reading α}

/-- A reading that ends in the same way on every disk, and leaves the shelf alone. -/
theorem of_apply {r : EStateM.Result Failure Store α} (hx : ∀ d, x d s = r)
    (h : shelf.Same s (left r)) : shelf.Opens disk busy x s := by
  refine ⟨[], [], ?_, fun _ _ _ => .refl _, fun disk' _ => (hx disk').trans (hx disk).symm⟩
  rw [hx disk]
  exact h.adds

/-- A reading that does not look at the disk and leaves the shelf alone. -/
theorem of_same {x : Reading α} (h : shelf.Same s (left (x s))) :
    shelf.Opens disk busy (fun _ => x) s :=
  of_apply (fun _ => rfl) h

theorem pure (a : α) : shelf.Opens disk busy (fun _ => Pure.pure a) s :=
  of_same .refl

theorem throw (failure : Failure) :
    shelf.Opens disk busy (fun _ => (MonadExcept.throw failure : Reading α)) s :=
  of_same .refl

/-- **One reading after another.** -/
theorem bind {f : Disk → α → Reading δ} (hx : shelf.Opens disk busy x s)
    (hf : ∀ a t, x disk s = .ok a t → shelf.Opens disk busy (fun d => f d a) t) :
    shelf.Opens disk busy (fun d => x d >>= f d) s := by
  obtain ⟨files, new, hadds, hperm, hagree⟩ := hx
  cases hr : x disk s with
  | error failure t =>
    have hboth : (x disk >>= f disk) s = .error failure t := bind_of_error hr
    rw [hr] at hadds
    refine ⟨files, new, ?_, fun b u hok => ?_, fun disk' h => ?_⟩ <;> beta_reduce
    · rwa [hboth]
    · exact absurd (hboth.symm.trans hok) (by simp)
    · rw [hboth, bind_of_error ((hagree disk' h).trans hr)]
  | ok a t =>
    have hboth : (x disk >>= f disk) s = f disk a t := bind_of_ok hr
    rw [hr] at hadds
    have hall := hperm a t hr
    obtain ⟨later, newer, hadds', hperm', hagree'⟩ := hf a t hr
    refine ⟨later ++ files, newer ++ new, ?_, fun b u hok => ?_, fun disk' h => ?_⟩ <;> beta_reduce
    · rw [hboth]
      exact hadds.trans hall hadds'
    · rw [List.map_append]
      exact (hperm' b u (hboth.symm.trans hok)).append hall
    · have hfirst := hagree disk' (h.mono (List.subset_append_right later files))
      rw [hboth, bind_of_ok (hfirst.trans hr)]
      exact hagree' disk' (h.mono (List.subset_append_left later files))

/-- With fewer files in progress there is less to be observed. -/
theorem mono {fewer : List Path} (h : shelf.Opens disk busy x s) (hs : fewer ⊆ busy) :
    shelf.Opens disk fewer x s := by
  obtain ⟨files, new, hadds, hrest⟩ := h
  exact ⟨files, new, { hadds with
    fresh := fun p hp => (hadds.fresh p hp).imp_right (And.imp_left fun hb hm => hb (hs hm)) },
    hrest⟩

/-- A reading that first changes the store, but not the shelf. -/
theorem modify_bind {g : Store → Store} {f : Disk → Unit → Reading α}
    (hg : shelf.Same s (g s)) (hf : shelf.Opens disk busy (fun d => f d ()) (g s)) :
    shelf.Opens disk busy (fun d => modify g >>= f d) s :=
  bind (of_same hg) fun _ t ht => by
    obtain rfl : g s = t := by cases ht; rfl
    exact hf

/-- Looking up where a location leads. -/
theorem resolve_bind {l : Location} {f : Disk → Path → Reading α}
    (hf : ∀ p, disk.IsCanonical p → shelf.Opens disk busy (fun d => f d p) s) :
    shelf.Opens disk busy (fun d => Store.resolve d l >>= f d) s := by
  unfold Store.resolve
  by_cases hl : l.isSound = true
  · simp only [if_pos hl, pure_bind]
    obtain ⟨files, new, hadds, hperm, hagree⟩ := hf (disk.canonical l) ⟨l, hl, rfl⟩
    refine ⟨files, new, hadds, hperm, fun disk' h => ?_⟩
    show f disk' (disk'.canonical l) s = _
    rw [h.canonical l]
    exact hagree disk' h
  · simp only [if_neg hl]
    exact throw .badPath

/-- A reading that first looks at the store. -/
theorem get_bind {f : Disk → Store → Reading α}
    (hf : shelf.Opens disk busy (fun d => f d s) s) :
    shelf.Opens disk busy (fun d => get >>= f d) s :=
  hf

/-- **A file is opened, its lines are read, and something is stored for it**, unless it cannot be
read or its lines are left in a failure. What is noted meanwhile does not concern the shelf. -/
theorem visit {x : Disk → Reading β} {lines : Disk → Text → Reading β} {began : Store}
    {quit : Store → Store} {keep : β → Store → Store}
    (hvisit : ∀ d, x d s = visitAt d p (lines d) began quit keep)
    (hbegan : shelf.Enters p s began) (hquit : ∀ t, shelf.Same t (quit t))
    (hkeep : ∀ b t, shelf.Keeps (p, b) t (keep b t)) (hc : disk.IsCanonical p) (hb : p ∉ busy)
    (hn : (shelf.stored s).lookup p = none)
    (hlines : ∀ text, disk.source p = .ok text →
      shelf.Opens disk (p :: busy) (fun d => lines d text) began) :
    shelf.Opens disk busy x s := by
  unfold visitAt at hvisit
  cases hs : disk.source p with
  | error fault =>
    have hx : ∀ d : Disk, d.source p = .error fault →
        x d s = .error (.unreadable p.text p.text fault) (quit began) := by
      intro d hd
      rw [hvisit, hd]
    refine ⟨[p], [], ?_, fun b t hok => ?_, fun disk' h => ?_⟩
    · rw [hx disk hs]
      exact (hquit began).adds.of_enters hbegan hc hb hn
    · exact absurd ((hx disk hs).symm.trans hok) (by simp)
    · rw [hx disk hs, hx disk' ((h.source p (List.mem_singleton_self p)).trans hs)]
  | ok text =>
    obtain ⟨files, new, hadds, hperm, hagree⟩ := hlines text hs
    have hsame : ∀ disk', disk.AgreesOn (files ++ [p]) disk' → x disk' s = x disk s := by
      intro disk' h
      have hp : p ∈ files ++ [p] := List.mem_append_right _ (List.mem_singleton_self p)
      have hrest := hagree disk' (h.mono (List.subset_append_left files [p]))
      simp only [hvisit, h.source p hp, hs, hrest]
    beta_reduce at hadds
    cases hr : lines disk text began with
    | error failure t =>
      have hx : x disk s = .error failure (quit t) := by
        simp only [hvisit, hs, hr]
      rw [hr] at hadds
      refine ⟨files ++ [p], new, ?_, fun b u hok => ?_, hsame⟩
      · rw [hx]
        exact (hadds.of_enters hbegan hc hb hn).same_right (hquit t)
      · exact absurd (hx.symm.trans hok) (by simp)
    | ok b t =>
      have hx : x disk s = .ok b (keep b t) := by
        simp only [hvisit, hs, hr]
      rw [hr] at hadds
      have hall := hperm b t hr
      refine ⟨files ++ [p], (p, b) :: new, ?_, fun _ _ _ => ?_, hsame⟩
      · rw [hx]
        exact (hadds.of_enters hbegan hc hb hn).keep hall (hkeep b t)
      · exact (hall.cons p).trans (List.perm_append_singleton p files).symm

end Opens

end Shelf

/-! ## Outlines -/

namespace Outline

variable {β γ : Type} {shelf : Shelf β γ} {disk : Disk} {busy : List Path}

/-- **Unrolling opens files where its lines do.** -/
theorem opens_frames {source : Option Text} {data : Line → Reading Frame}
    {included : Disk → Line → Text → Reading (List Frame)}
    (hd : ∀ line s, shelf.Opens disk busy (fun _ => data line) s)
    (hi : ∀ line target s, shelf.Opens disk busy (fun d => included d line target) s)
    (o : Outline) (s : Store) :
    shelf.Opens disk busy (fun d => o.frames source data (included d)) s := by
  induction o generalizing s with
  | nil => exact .pure _
  | leaf line item next ih =>
    cases item with
    | skip => exact ih s
    | data => exact .bind (hd line s) fun _ t _ => .bind (ih t) fun _ _ _ => .pure _
    | inclusion target =>
      exact .bind (hi line target s) fun _ t _ => .bind (ih t) fun _ _ _ => .pure _
    | bad misfit => exact .throw _
  | loop line count body next ihb ihn =>
    refine .bind (ihb s) fun block t _ => ?_
    by_cases hl : repeatLimit < count
    · simp only [if_pos hl]
      exact .bind (.throw _) fun _ u _ => .bind (ihn u) fun _ _ _ => .pure _
    · simp only [if_neg hl]
      exact .bind (ihn t) fun _ _ _ => .pure _

/-- **Counting opens files where it asks for them.** -/
theorem opens_count? {ask : Disk → Text → Reading (Option Nat)}
    (ha : ∀ target s, shelf.Opens disk busy (fun d => ask d target) s) (o : Outline) (s : Store) :
    shelf.Opens disk busy (fun d => o.count? (ask d)) s := by
  induction o generalizing s with
  | nil => exact .pure _
  | leaf line item next ih =>
    cases item with
    | skip => exact ih s
    | data => exact .bind (ih s) fun _ _ _ => .pure _
    | inclusion target =>
      refine .bind (ha target s) fun number t _ => ?_
      cases number with
      | none => exact .pure _
      | some n => exact .bind (ih t) fun _ _ _ => .pure _
    | bad misfit =>
      cases misfit with
      | longCount digits => exact .throw _
      | stray | badCount => exact .pure _
  | loop line count body next ihb ihn =>
    refine .bind (ihb s) fun number t _ => ?_
    cases number with
    | none => exact .pure _
    | some n => exact .bind (ihn t) fun _ _ _ => .pure _

end Outline

end FrameScript
