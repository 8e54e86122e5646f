/-
**What calls leave in a file.**

A file is made, gets data and is removed by calls to the machine.  As long as there is a file at a
location, or nothing, and nobody else touches it, its contents can be told from these calls.

Main definitions:

* `LtoBridge.Disk.contentsAt`: the contents of a file;
* `LtoBridge.Call.leaves`: what a call leaves of the contents of a file;
* `LtoBridge.leftAt`: what is left after some calls.

Main results:

* `LtoBridge.Call.contentsAt_after`: **what a call leaves is what is there afterwards**.
-/

import LtoBridge.Proofs.Files.Losses
import LtoBridge.Proofs.Session.Undisturbed

set_option autoImplicit false

namespace LtoBridge

namespace Disk

/-- The contents of the file at a location, if there is one. -/
def contentsAt (d : Disk) (l : Location) : Option Bytes :=
  match d.tree.get? l with
  | some (.file contents _) => some contents
  | _ => none

/-- Does a name lead to a location? -/
def leadsTo (d : Disk) (toEnd : Bool) (p : Path) (l : Location) : Bool :=
  match d.locateWith toEnd p with
  | .ok m => m == l
  | .error _ => false

variable {d d' : Disk} {p : Path} {l : Location}

theorem leadsTo_iff {toEnd : Bool} : d.leadsTo toEnd p l ↔ d.locateWith toEnd p = .ok l := by
  unfold leadsTo
  cases d.locateWith toEnd p <;> simp

theorem contentsAt_of_get?_eq (h : d'.tree.get? l = d.tree.get? l) :
    d'.contentsAt l = d.contentsAt l := by
  rw [contentsAt, contentsAt, h]

theorem contentsAt_of_file {contents : Bytes} {executable : Bool}
    (h : d.tree.get? l = some (.file contents executable)) : d.contentsAt l = some contents := by
  rw [contentsAt, h]

/-- What is read from a file is what is there. -/
theorem exists_of_read {contents : Bytes} (h : d.read p = .ok contents) :
    ∃ l, d.locate p = .ok l ∧ (isOpenTo d.tree l → d.contentsAt l = some contents) := by
  obtain ⟨⟨l, n⟩, hfound, hcontents⟩ := exists_of_bind_eq_ok h
  obtain ⟨hl, hget⟩ := of_find_eq_ok hfound
  refine ⟨l, hl, fun hopen => ?_⟩
  dsimp only at hget
  rw [isOpenTo, hget] at hopen
  cases n with
  | file contents' executable =>
      obtain rfl := Except.ok.inj hcontents
      exact contentsAt_of_file hget
  | _ => cases hopen

/-- A file that is made is empty. -/
theorem contentsAt_create (hopen : isOpenTo d.tree l) (h : d.create p = .ok d') :
    d'.contentsAt l = if d.leadsTo true p l then some [] else d.contentsAt l := by
  split
  · rename_i hleads
    have hl := leadsTo_iff.1 hleads
    rw [create_eq_ok hl hopen (locate_of_create h).1] at h
    obtain rfl := Except.ok.inj h
    exact contentsAt_of_file (get?_put_self hopen _)
  · rename_i hleads
    refine contentsAt_of_get?_eq ?_
    obtain rfl | ⟨m, hm, hchange⟩ := changesFile_of_create h
    · rfl
    · refine hchange.get?_of_ne ?_
      rintro rfl
      exact hleads (leadsTo_iff.2 hm)

/-- Data are added at the end of a file. -/
theorem contentsAt_append {data : Bytes} (hopen : isOpenTo d.tree l)
    (h : d.append p data = .ok d') :
    d'.contentsAt l =
      if d.leadsTo true p l then some ((d.contentsAt l).getD [] ++ data) else d.contentsAt l := by
  split
  · rename_i hleads
    obtain ⟨⟨m, n⟩, hfound, happend⟩ := exists_of_bind_eq_ok h
    obtain ⟨hm, hget⟩ := of_find_eq_ok hfound
    obtain rfl : m = l := Except.ok.inj (hm.symm.trans (leadsTo_iff.1 hleads))
    simp only [appendAt] at happend hget
    rw [isOpenTo, hget] at hopen
    rw [hget] at happend
    cases n with
    | file contents executable =>
        obtain rfl := Except.ok.inj happend
        rw [contentsAt_of_file hget]
        exact contentsAt_of_file (get?_put_self (isOpenTo_of_file hget) _)
    | _ => cases hopen
  · rename_i hleads
    refine contentsAt_of_get?_eq ?_
    obtain rfl | ⟨m, hm, hchange⟩ := changesFile_of_append h
    · rfl
    · refine hchange.get?_of_ne ?_
      rintro rfl
      exact hleads (leadsTo_iff.2 hm)

/-- Nothing is left of a file that is removed. -/
theorem contentsAt_remove (h : d.remove p = .ok d') :
    d'.contentsAt l =
      if d.leadsTo (endsInSeparator p) p l then none else d.contentsAt l := by
  obtain ⟨m, n, hm, hget, hn, rfl⟩ := remove_cases h
  have herase := FileTree.get?_erase d.tree m l (ne_nil_of_get? hget hn)
  split
  · rename_i hleads
    obtain rfl : m = l := Except.ok.inj (hm.symm.trans (leadsTo_iff.1 hleads))
    rw [if_pos rfl] at herase
    simp only [contentsAt, herase]
  · rename_i hleads
    refine contentsAt_of_get?_eq (herase.trans (if_neg ?_))
    rintro rfl
    exact hleads (leadsTo_iff.2 hm)

end Disk

/-! ### What calls leave -/

variable {L : Type} [Linker L]

/-- **What a call leaves** of what was found at a location: a file is empty when it has been made,
data are added at its end, and nothing is left when it has been removed. -/
def Call.leaves (l : Location) (found : Option Bytes) (c : Call (Machine L)) : Option Bytes :=
  if c.succeeded then
    match c.effect with
    | .createFile file => if c.before.disk.leadsTo true file l then some [] else found
    | .appendFile file data =>
        if c.before.disk.leadsTo true file l then some (found.getD [] ++ data) else found
    | .removeFile file =>
        if c.before.disk.leadsTo (Disk.endsInSeparator file) file l then none else found
    | _ => found
  else found

/-- **What is left at a location** after some calls, where nothing was before. -/
def leftAt (l : Location) (calls : List (Call (Machine L))) : Option Bytes :=
  calls.foldl (Call.leaves l) none

section

variable {c : Call (Machine L)} {l : Location} {found : Option Bytes}

/-- A call that neither writes nor removes a file leaves everything. -/
theorem Call.leaves_of_ne (hwritten : c.effect.written? = none)
    (hremoved : ∀ file, c.effect ≠ .removeFile file) : c.leaves l found = found := by
  unfold leaves
  split
  · cases heffect : c.effect with
    | createFile | appendFile =>
        rw [heffect] at hwritten
        cases hwritten
    | removeFile file => exact absurd heffect (hremoved file)
    | _ => rfl
  · rfl

/-- A call about a file that fails changes nothing. -/
theorem Call.disk_after_of_failed {file : Path}
    (heffect : c.effect.written? = some file ∨ c.effect = .removeFile file)
    (h : c.succeeded = false) : c.after.disk = c.before.disk := by
  obtain ⟨effect, m⟩ := c
  cases effect with
  | createFile file' => exact Machine.disk_onDisk_of_failed (f := (·.create file')) h
  | appendFile file' data => exact Machine.disk_onDisk_of_failed (f := (·.append file' data)) h
  | removeFile file' => exact Machine.disk_onDisk_of_failed (f := (·.remove file')) h
  | _ => obtain ⟨⟨⟩⟩ | ⟨⟨⟩⟩ := heffect

/-- **What a call leaves is what is there afterwards**, if there was a file or nothing. -/
theorem Call.contentsAt_after (hopen : Disk.isOpenTo c.before.disk.tree l)
    (hfar : c.effect.reachesFurther = false) :
    c.after.disk.contentsAt l = c.leaves l (c.before.disk.contentsAt l) := by
  have hfailed : ∀ file, c.effect.written? = some file ∨ c.effect = .removeFile file →
      c.succeeded = false →
        c.after.disk.contentsAt l = c.leaves l (c.before.disk.contentsAt l) := by
    intro file heffect hsucceeded
    rw [Call.disk_after_of_failed heffect hsucceeded, leaves, hsucceeded]
    rfl
  cases heffect : c.effect with
  | createFile file =>
      cases hsucceeded : c.succeeded with
      | false => exact hfailed file (.inl (by rw [heffect]; rfl)) hsucceeded
      | true =>
          rw [leaves, hsucceeded, if_pos rfl, heffect]
          exact Disk.contentsAt_create hopen (Machine.create_of_succeeded heffect hsucceeded)
  | appendFile file data =>
      cases hsucceeded : c.succeeded with
      | false => exact hfailed file (.inl (by rw [heffect]; rfl)) hsucceeded
      | true =>
          rw [leaves, hsucceeded, if_pos rfl, heffect]
          exact Disk.contentsAt_append hopen (Machine.append_of_succeeded heffect hsucceeded)
  | removeFile file =>
      cases hsucceeded : c.succeeded with
      | false => exact hfailed file (.inr heffect) hsucceeded
      | true =>
          rw [leaves, hsucceeded, if_pos rfl, heffect]
          exact Disk.contentsAt_remove (Machine.remove_of_succeeded heffect hsucceeded)
  | makeTemporaryDirectory | removeTree | launch =>
      rw [heffect] at hfar
      cases hfar
  | addSymbols | getSymbols | addInputFile | addInputLibrary | releaseSymbols =>
      rw [Machine.disk_after_of_still (.inr (by rw [heffect]; rfl)),
        Call.leaves_of_ne (by rw [heffect]; rfl) (by simp [heffect])]
  | _ =>
      rw [Machine.disk_after_of_still (.inl (by rw [heffect]; rfl)),
        Call.leaves_of_ne (by rw [heffect]; rfl) (by simp [heffect])]

end

end LtoBridge
