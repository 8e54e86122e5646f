/-
**Files that are written and read back.**

A file that is made, or made empty, and gets some data holds these data afterwards, and the name by
which it was written leads to it.  In between, the machine may do whatever cannot be noticed.

Main definitions:

* `LtoBridge.Disk.isWritable`: a name leads to a file, or to nothing yet;
* `LtoBridge.Disk.ChangesFile`: one file comes or goes;
* `LtoBridge.Disk.IsTarget`: a name and the place where a file is written under it;
* `LtoBridge.Disk.IsSpot`: the same, if the name is no link.

Main results:

* `LtoBridge.Disk.locate_put`: a file that is written does not change where names lead;
* `LtoBridge.Disk.changesFile_of_create`, `LtoBridge.Disk.changesFile_of_append`,
  `LtoBridge.Disk.changesFile_of_remove`: what a change of a file may do;
* `LtoBridge.Disk.read_of_create_of_append`: **what was written is read**;
* `LtoBridge.Machine.read_of_written`: the same for the calls to a machine.
-/

import LtoBridge.Machine
import LtoBridge.Proofs.Files.Ways
import LtoBridge.Proofs.Script

set_option autoImplicit false

namespace LtoBridge

namespace Disk

variable {d d' d'' : Disk} {p : Path}

/-- A file that is written does not change where names lead. -/
theorem locate_put {l₀ l : Location} {contents : Bytes} {executable : Bool}
    (h : isOpenTo d.tree l₀) (hl : d.locate p = .ok l) :
    (d.put l₀ (.file contents executable)).locate p = .ok l := by
  have hways : d.tree.SameWays (d.put l₀ (.file contents executable)).tree :=
    sameWays_put contents executable h
  exact (locateWith_congr hways rfl).1 hl

/-- What is looked at is what is there. -/
theorem lookAt_eq_ok {l : Location} {found : Location × Node} (h : d.lookAt p l = .ok found) :
    found.1 = l ∧ d.tree.get? l = some found.2 := by
  unfold lookAt at h
  split at h
  · cases h
  · rename_i hget
    cases h
    exact ⟨rfl, hget⟩
  · rename_i n _ hget
    split at h
    · cases h
    · cases h
      exact ⟨rfl, hget⟩

/-- What is found is what is there, and its name leads there. -/
theorem of_find_eq_ok {found : Location × Node} (h : d.find p = .ok found) :
    d.locate p = .ok found.1 ∧ d.tree.get? found.1 = some found.2 := by
  obtain ⟨l, hl, hlook⟩ := exists_of_bind_eq_ok h
  obtain ⟨rfl, hget⟩ := lookAt_eq_ok hlook
  exact ⟨hl, hget⟩

/-- Does a name lead to a file, or to nothing yet? -/
def isWritable (d : Disk) (p : Path) : Bool :=
  match d.locate p with
  | .ok l => isOpenTo d.tree l
  | .error _ => false

/-- A name that can be written leads somewhere. -/
theorem isWritable_iff : d.isWritable p ↔ ∃ l, d.locate p = .ok l ∧ isOpenTo d.tree l := by
  unfold isWritable
  cases d.locate p <;> simp

/-- Can what is at a location be run, once there is a file? -/
def executableAt (t : FileTree) (l : Location) : Bool :=
  match t.get? l with
  | some (.file _ executable) => executable
  | _ => false

section

variable {l : Location} {contents : Bytes} {executable : Bool}

/-- A name that leads to a file leads to it, unless it insists on a directory. -/
theorem find_eq_ok (hl : d.locate p = .ok l)
    (hget : d.tree.get? l = some (.file contents executable))
    (hseparator : endsInSeparator p = false) : d.find p = .ok (l, .file contents executable) := by
  simp [find, hl, lookAt, hget, hseparator, bind, Except.bind]

/-- What has been put at a location is there. -/
theorem get?_put_self (h : isOpenTo d.tree l) (n : Node) : (d.put l n).tree.get? l = some n := by
  rw [put, FileTree.get?_put _ _ _ _ (ne_nil_of_isOpenTo h), if_pos rfl]

/-- All else is as before. -/
theorem get?_put_of_ne {m : Location} (h : isOpenTo d.tree l) (n : Node) (hm : m ≠ l) :
    (d.put l n).tree.get? m = d.tree.get? m := by
  rw [put, FileTree.get?_put _ _ _ _ (ne_nil_of_isOpenTo h), if_neg hm]

/-- Only what was put last at a location matters. -/
theorem put_put (n n' : Node) : (d.put l n).put l n' = d.put l n' := by
  have herase : (⟨(l, n) :: (d.tree.erase l).nodes⟩ : FileTree).erase l = d.tree.erase l := by
    simp [FileTree.erase]
  rw [put, put, put, FileTree.put, FileTree.put, herase, FileTree.put]

/-- What was put where nothing was can be taken away again, and all is as before. -/
theorem erase_put (h : d.tree.get? l = none) (n : Node) :
    ({ d.put l n with tree := (d.put l n).tree.erase l } : Disk) = d := by
  have hne : l ≠ [] := ne_nil_of_isOpenTo (isOpenTo_of_none h)
  have hnodes : d.tree.nodes.filter (·.1 != l) = d.tree.nodes := by
    rw [List.filter_eq_self]
    intro entry hentry
    simp only [FileTree.get?, hne, if_false, Option.map_eq_none_iff, List.find?_eq_none] at h
    simpa using h entry hentry
  simp [put, FileTree.put, FileTree.erase, hnodes]

/-- Making a file empties it, or makes a new one. -/
theorem create_eq_ok (hl : d.locate p = .ok l) (h : isOpenTo d.tree l)
    (hseparator : endsInSeparator p = false) :
    d.create p = .ok (d.put l (.file [] (executableAt d.tree l))) := by
  unfold create
  rw [if_neg (by simp [hseparator]), hl]
  unfold isOpenTo at h
  cases hnode : d.tree.get? l with
  | none => simp [executableAt, hnode, bind, Except.bind]
  | some n =>
      cases n with
      | file bytes executable => simp [executableAt, hnode, bind, Except.bind]
      | _ => simp [hnode] at h

/-- A file is made only under a name that leads somewhere and does not insist on a directory. -/
theorem locate_of_create (hcreate : d.create p = .ok d') :
    endsInSeparator p = false ∧ ∃ l, d.locate p = .ok l := by
  unfold create at hcreate
  split at hcreate
  · cases hholder : d.holder p <;> rw [hholder] at hcreate <;> cases hcreate
  · rename_i hname
    obtain ⟨l, hl, -⟩ := exists_of_bind_eq_ok hcreate
    obtain ⟨⟨hzero, -, hlong⟩, -⟩ := locateWith_eq_ok_iff.1 hl
    exact ⟨by simpa [hzero, hlong] using hname, l, hl⟩

/-- Data that are added come after those that are there. -/
theorem append_eq_ok {data : Bytes} (hl : d.locate p = .ok l)
    (hget : d.tree.get? l = some (.file contents executable))
    (hseparator : endsInSeparator p = false) :
    d.append p data = .ok (d.put l (.file (contents ++ data) executable)) := by
  rw [append, find_eq_ok hl hget hseparator]
  simp [bind, Except.bind, appendAt, hget]

theorem read_eq_ok (hl : d.locate p = .ok l)
    (hget : d.tree.get? l = some (.file contents executable))
    (hseparator : endsInSeparator p = false) : d.read p = .ok contents := by
  rw [read, find_eq_ok hl hget hseparator]
  rfl

/-- A file that is no link is removed from where its name leads. -/
theorem remove_eq_ok (hl : d.locateEntry p = .ok l)
    (hget : d.tree.get? l = some (.file contents executable))
    (hseparator : endsInSeparator p = false) :
    d.remove p = .ok { d with tree := d.tree.erase l } := by
  simp [remove, findEntry, hl, lookAt, hget, hseparator, bind, Except.bind]

end

/-- Of what is no file, nothing changes when it is written, and it is no directory. -/
theorem eq_of_create_of_not_open {l : Location} (hcreate : d.create p = .ok d')
    (hl : d.locate p = .ok l) (hopen : ¬ isOpenTo d.tree l) :
    d' = d ∧ ∃ n, d.tree.get? l = some n ∧ n ≠ .directory ∧ ∀ contents executable,
      n ≠ .file contents executable := by
  obtain ⟨hseparator, -⟩ := locate_of_create hcreate
  unfold create at hcreate
  rw [if_neg (by simp [hseparator]), hl] at hcreate
  cases hnode : d.tree.get? l with
  | none => simp [isOpenTo, hnode] at hopen
  | some n =>
      simp only [bind, Except.bind, hnode] at hcreate
      cases n with
      | directory => cases hcreate
      | file => simp [isOpenTo, hnode] at hopen
      | _ => exact ⟨(Except.ok.inj hcreate).symm, _, rfl, by simp, by simp⟩

/-! ### Files that come and go -/

/-- **The change of a disk is about one file**: it is written or removed. -/
def ChangesFile (d d' : Disk) (l : Location) : Prop :=
  isOpenTo d.tree l ∧ ((∃ contents executable, d' = d.put l (.file contents executable)) ∨
    d' = { d with tree := d.tree.erase l })

namespace ChangesFile

variable {d d' : Disk} {l : Location}

theorem sameWays (h : d.ChangesFile d' l) : d.tree.SameWays d'.tree := by
  obtain ⟨hopen, ⟨contents, executable, rfl⟩ | rfl⟩ := h
  · exact sameWays_put contents executable hopen
  · exact sameWays_erase hopen

theorem current_eq (h : d.ChangesFile d' l) : d'.current = d.current := by
  obtain ⟨-, ⟨_, _, rfl⟩ | rfl⟩ := h <;> rfl

/-- All else is as before. -/
theorem get?_of_ne {l' : Location} (h : d.ChangesFile d' l) (hne : l' ≠ l) :
    d'.tree.get? l' = d.tree.get? l' := by
  obtain ⟨hopen, ⟨contents, executable, rfl⟩ | rfl⟩ := h
  · exact get?_put_of_ne hopen _ hne
  · rw [FileTree.get?_erase _ _ _ (ne_nil_of_isOpenTo hopen), if_neg hne]

/-- Where there could be a file, there still can. -/
theorem isOpenTo_of_isOpenTo {l' : Location} (h : d.ChangesFile d' l) (hl' : isOpenTo d.tree l') :
    isOpenTo d'.tree l' := by
  by_cases hne : l' = l
  · subst hne
    obtain ⟨hopen, ⟨contents, executable, rfl⟩ | rfl⟩ := h
    · exact isOpenTo_of_file (get?_put_self hopen _)
    · refine isOpenTo_of_none ?_
      rw [FileTree.get?_erase _ _ _ (ne_nil_of_isOpenTo hopen), if_pos rfl]
  · rw [isOpenTo, h.get?_of_ne hne]
    exact hl'

end ChangesFile

/-- A file that is made comes where its name leads, unless something else than a file is there. -/
theorem changesFile_of_create (hcreate : d.create p = .ok d') :
    d' = d ∨ ∃ l, d.locate p = .ok l ∧ d.ChangesFile d' l := by
  obtain ⟨hseparator, l, hl⟩ := locate_of_create hcreate
  by_cases hopen : isOpenTo d.tree l
  · rw [create_eq_ok hl hopen hseparator] at hcreate
    exact .inr ⟨l, hl, hopen, .inl ⟨_, _, (Except.ok.inj hcreate).symm⟩⟩
  · exact .inl (eq_of_create_of_not_open hcreate hl hopen).1

/-- Data are added where a name leads, unless something else than a file is there. -/
theorem changesFile_of_append {data : Bytes} (happend : d.append p data = .ok d') :
    d' = d ∨ ∃ l, d.locate p = .ok l ∧ d.ChangesFile d' l := by
  obtain ⟨⟨l, n⟩, hfound, happend⟩ := exists_of_bind_eq_ok happend
  obtain ⟨hl, hget⟩ := of_find_eq_ok hfound
  simp only [appendAt] at happend hl hget
  rw [hget] at happend
  cases n with
  | file contents executable =>
      exact .inr ⟨l, hl, isOpenTo_of_file hget, .inl ⟨_, _, (Except.ok.inj happend).symm⟩⟩
  | device device =>
      left
      cases device with
      | full =>
          dsimp only at happend
          split at happend
          · exact (Except.ok.inj happend).symm
          · cases happend
      | _ => exact (Except.ok.inj happend).symm
  | _ => exact .inl (Except.ok.inj happend).symm

/-- What is removed without following a link was no directory, and if it was a file, a file goes. -/
theorem changesFile_of_remove (hremove : d.remove p = .ok d') :
    ∃ l, d.locateEntry p = .ok l ∧ (isOpenTo d.tree l → d.ChangesFile d' l) := by
  obtain ⟨⟨l, n⟩, hfound, hremove⟩ := exists_of_bind_eq_ok hremove
  obtain ⟨_, hl, hlook⟩ := exists_of_bind_eq_ok hfound
  obtain ⟨rfl, hget⟩ := lookAt_eq_ok hlook
  refine ⟨l, hl, fun hopen => ⟨hopen, .inr ?_⟩⟩
  cases n with
  | file contents executable => exact (Except.ok.inj hremove).symm
  | _ => simp [isOpenTo, hget] at hopen

/-! ### Targets -/

/-- **A name is that of a target for writing**: it leads there, and there is a file at the target,
or nothing at all. -/
structure IsTarget (d : Disk) (p : Path) (l : Location) : Prop where
  locate : d.locate p = .ok l
  isOpen : isOpenTo d.tree l
  separator : endsInSeparator p = false

namespace IsTarget

variable {l : Location}

theorem create_eq (h : d.IsTarget p l) :
    d.create p = .ok (d.put l (.file [] (executableAt d.tree l))) :=
  create_eq_ok h.locate h.isOpen h.separator

theorem append_put (h : d.IsTarget p l) (contents data : Bytes) (executable : Bool) :
    (d.put l (.file contents executable)).append p data =
      .ok (d.put l (.file (contents ++ data) executable)) := by
  rw [append_eq_ok (locate_put h.isOpen h.locate) (get?_put_self h.isOpen _) h.separator, put_put]

theorem read_put (h : d.IsTarget p l) (contents : Bytes) (executable : Bool) :
    (d.put l (.file contents executable)).read p = .ok contents :=
  read_eq_ok (locate_put h.isOpen h.locate) (get?_put_self h.isOpen _) h.separator

end IsTarget

/-! ### Spots -/

/-- **A name is that of a spot for a file**: it leads there, whether or not a link would be
followed, and there is a file at the spot, or nothing at all. -/
structure IsSpot (d : Disk) (p : Path) (l : Location) : Prop where
  locate : d.locate p = .ok l
  locateEntry : d.locateEntry p = .ok l
  isOpen : isOpenTo d.tree l
  separator : endsInSeparator p = false

namespace IsSpot

variable {l : Location}

/-- A file that is written leaves its spot where it is. -/
theorem put (h : d.IsSpot p l) (contents : Bytes) (executable : Bool) :
    (d.put l (.file contents executable)).IsSpot p l := by
  have hways : d.tree.SameWays (d.put l (.file contents executable)).tree :=
    sameWays_put contents executable h.isOpen
  refine ⟨(locateWith_congr hways rfl).1 h.locate, (locateWith_congr hways rfl).1 h.locateEntry,
    isOpenTo_of_file (get?_put_self h.isOpen _), h.separator⟩

theorem changesFile_put (h : d.IsSpot p l) (contents : Bytes) (executable : Bool) :
    d.ChangesFile (d.put l (.file contents executable)) l :=
  ⟨h.isOpen, .inl ⟨contents, executable, rfl⟩⟩

theorem isTarget (h : d.IsSpot p l) : d.IsTarget p l := ⟨h.locate, h.isOpen, h.separator⟩

theorem remove_put (h : d.IsSpot p l) (contents : Bytes) (executable : Bool) :
    (d.put l (.file contents executable)).remove p =
      .ok { d.put l (.file contents executable) with
        tree := (d.put l (.file contents executable)).tree.erase l } := by
  have hput := h.put contents executable
  exact remove_eq_ok hput.locateEntry (get?_put_self h.isOpen _) h.separator

end IsSpot

/-- **What was written is read.** -/
theorem read_of_create_of_append {data : Bytes} (h : d.isWritable p) (hcreate : d.create p = .ok d')
    (happend : d'.append p data = .ok d'') : d''.read p = .ok data := by
  obtain ⟨l, hl, hopen⟩ := isWritable_iff.1 h
  obtain ⟨hseparator, -⟩ := locate_of_create hcreate
  rw [create_eq_ok hl hopen hseparator] at hcreate
  obtain rfl := Except.ok.inj hcreate
  rw [append_eq_ok (locate_put hopen hl) (get?_put_self hopen _) hseparator, put_put] at happend
  obtain rfl := Except.ok.inj happend
  rw [read_eq_ok (locate_put hopen hl) (get?_put_self hopen _) hseparator, List.nil_append]

/-- Whatever is written can be read. -/
theorem exists_read_of_create_of_append {data : Bytes} (hcreate : d.create p = .ok d')
    (happend : d'.append p data = .ok d'') : ∃ contents, d''.read p = .ok contents := by
  by_cases hwritable : d.isWritable p
  · exact ⟨data, read_of_create_of_append hwritable hcreate happend⟩
  obtain ⟨-, l, hl⟩ := locate_of_create hcreate
  have hopen : ¬ isOpenTo d.tree l := fun hopen => hwritable (isWritable_iff.2 ⟨l, hl, hopen⟩)
  obtain ⟨rfl, n, hnode, hdirectory, hfile⟩ := eq_of_create_of_not_open hcreate hl hopen
  obtain ⟨⟨l', n'⟩, hfound, -⟩ := exists_of_bind_eq_ok happend
  obtain ⟨hl', hnode'⟩ := of_find_eq_ok hfound
  obtain rfl : l' = l := Except.ok.inj (hl'.symm.trans hl)
  obtain rfl : n' = n := Option.some.inj (hnode'.symm.trans hnode)
  have hsame : d'' = d' := by
    obtain hsame | ⟨l, hl, hchange⟩ := changesFile_of_append happend
    · exact hsame
    · obtain rfl : l = l' := Except.ok.inj (hl.symm.trans hl')
      exact absurd hchange.1 hopen
  rw [hsame, read, hfound]
  cases n' with
  | directory => exact absurd rfl hdirectory
  | _ => exact ⟨_, rfl⟩

end Disk

namespace Machine

variable {L : Type} [Linker L]

omit [Linker L] in
theorem disk_onDisk {f : Disk → Except OsError Disk} {m : Machine L}
    (h : (onDisk f m).1.isOk = true) : f m.disk = .ok (onDisk f m).2.disk := by
  unfold onDisk at h ⊢
  cases hf : f m.disk with
  | ok disk => rfl
  | error error =>
      rw [hf] at h
      cases h

omit [Linker L] in
/-- A call that changes the disk, or fails and leaves it as it is. -/
theorem onDisk_cases {f : Disk → Except OsError Disk} (m : Machine L) :
    (onDisk f m).2.opened = m.opened ∧ ((onDisk f m).2.disk = m.disk ∨
      f m.disk = .ok (onDisk f m).2.disk) := by
  unfold onDisk
  cases hf : f m.disk with
  | error error => exact ⟨rfl, .inl rfl⟩
  | ok d => exact ⟨rfl, .inr rfl⟩

/-- What cannot be noticed leaves the disk alone. -/
theorem disk_after_of_hidden {c : Call (Machine L)} (hc : c.effect.visible = false) :
    c.after.disk = c.before.disk := by
  obtain ⟨effect, m⟩ := c
  cases effect with
  | openFile path =>
      simp only [Call.after, Effect.outcome, Platform.openFile, Prod.map_snd, id, openFile]
      cases m.disk.find path <;> rfl
  | currentDirectory | readFile | closeFile | fileSize | readAt | mapFile | report => rfl
  | _ => cases hc

/-- What cannot be noticed, or is for the linker, leaves the disk alone. -/
theorem disk_after_of_still {c : Call (Machine L)}
    (h : c.effect.visible = false ∨ c.effect.isLinker = true) : c.after.disk = c.before.disk := by
  obtain hhidden | hlinker := h
  · exact disk_after_of_hidden hhidden
  · obtain ⟨effect, m⟩ := c
    cases effect with
    | addSymbols | getSymbols | addInputFile | addInputLibrary | releaseSymbols => rfl
    | _ => cases hlinker

omit [Linker L] in
theorem disk_onDisk_of_failed {f : Disk → Except OsError Disk} {m : Machine L}
    (h : (onDisk f m).1.isOk = false) : (onDisk f m).2.disk = m.disk := by
  unfold onDisk at h ⊢
  cases hf : f m.disk with
  | ok disk =>
      rw [hf] at h
      cases h
  | error error => rfl

/-- Nothing is done to the disk between two calls that can be noticed, if no such call is made in
between. -/
theorem disk_before_of_next {t t' : Traced (Machine L)} {cs before after : List (Call (Machine L))}
    {c d : Call (Machine L)} (hext : t.Extends cs t')
    (hcalls : visible cs = before ++ c :: d :: after) : d.before.disk = c.after.disk := by
  obtain ⟨pre, rest, rfl, -, hrest⟩ := visible_split hcalls
  obtain ⟨between, post, rfl, hbetween, -⟩ :=
    visible_split (show visible rest = [] ++ d :: after from hrest)
  obtain ⟨u, -, hbefore, hlater⟩ := hext.split
  obtain ⟨u', hsteps, hbefore', -⟩ := hlater.split
  have hafter : (u.record c.effect).world = c.after := by
    rw [Call.after, hbefore]
    rfl
  rw [hbefore']
  refine hsteps.invariant (P := fun m => m.disk = c.after.disk) ?_ (by rw [hafter])
  intro e he hdisk
  have hhidden : e.effect.visible = false := by
    simpa using List.filter_eq_nil_iff.1 hbetween e he
  rw [disk_after_of_hidden hhidden, hdisk]

/-- Nothing is done to the disk after a call, if only the linker gets calls that can be noticed. -/
theorem disk_of_last {t t' : Traced (Machine L)} {cs before after : List (Call (Machine L))}
    {c : Call (Machine L)} (hext : t.Extends cs t') (hcalls : visible cs = before ++ c :: after)
    (hafter : ∀ d ∈ after, d.effect.isLinker = true) : t'.world.disk = c.after.disk := by
  obtain ⟨pre, post, rfl, -, hpost⟩ := visible_split hcalls
  obtain ⟨u, -, hbefore, hlater⟩ := hext.split
  have hdone : (u.record c.effect).world = c.after := by
    rw [Call.after, hbefore]
    rfl
  refine hlater.invariant (P := fun m => m.disk = c.after.disk) ?_ (by rw [hdone])
  intro d hd hdisk
  rw [disk_after_of_still, hdisk]
  cases hvisible : d.effect.visible with
  | false => exact .inl rfl
  | true => exact .inr (hafter d (hpost ▸ List.mem_filter.2 ⟨hd, hvisible⟩))

/-- A file that was made. -/
theorem create_of_succeeded {c : Call (Machine L)} {path : Path} (hc : c.effect = .createFile path)
    (hsucceeded : c.succeeded = true) : c.before.disk.create path = .ok c.after.disk := by
  unfold Call.succeeded at hsucceeded
  unfold Call.after
  rw [hc] at hsucceeded ⊢
  exact disk_onDisk (f := (·.create path)) hsucceeded

/-- Data that were added. -/
theorem append_of_succeeded {c : Call (Machine L)} {path : Path} {data : Bytes}
    (hc : c.effect = .appendFile path data) (hsucceeded : c.succeeded = true) :
    c.before.disk.append path data = .ok c.after.disk := by
  unfold Call.succeeded at hsucceeded
  unfold Call.after
  rw [hc] at hsucceeded ⊢
  exact disk_onDisk (f := (·.append path data)) hsucceeded

/-- **A file holds what was written to it**: it was made, and nothing else that can be noticed was
done before the data were added. -/
theorem read_of_written {t t' : Traced (Machine L)} {cs before after : List (Call (Machine L))}
    {created written : Call (Machine L)} {path : Path} {data : Bytes} (hext : t.Extends cs t')
    (hcalls : visible cs = before ++ created :: written :: after)
    (hcreated : created.effect = .createFile path)
    (hwritten : written.effect = .appendFile path data) (hsucceeded : created.succeeded = true)
    (hsucceeded' : written.succeeded = true) (hpath : created.before.disk.isWritable path) :
    written.after.disk.read path = .ok data := by
  have happend := append_of_succeeded hwritten hsucceeded'
  rw [disk_before_of_next hext hcalls] at happend
  exact Disk.read_of_create_of_append hpath (create_of_succeeded hcreated hsucceeded) happend

end Machine

end LtoBridge
