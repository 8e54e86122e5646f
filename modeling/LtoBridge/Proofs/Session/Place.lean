/-
**Where a session keeps its own files.**

A session works in its temporary directory, and has names there for the copies of archive members
and for the arguments of the backend.  No two of them are the same, and each of them leads to an
entry of that very directory.

Main definitions:

* `LtoBridge.Claim.memberName`: the name of a copy;
* `LtoBridge.Session.IsOwnName`: the names of a session's own files;
* `LtoBridge.Session.Hosts`: a directory in which a session can work.

Main results:

* `LtoBridge.Claim.memberName_injective`, `LtoBridge.Claim.memberName_ne_argumentsName`: **names
  are never used twice**;
* `LtoBridge.Session.Hosts.isSpot`: a name that leads anywhere leads to an entry of the directory;
* `LtoBridge.Session.Hosts.of_changesFile`: files that come and go do not disturb a session.
-/

import LtoBridge.Proofs.Decimal
import LtoBridge.Proofs.Files.Written

set_option autoImplicit false

namespace LtoBridge

namespace Claim

/-! ### Names -/

/-- The name of a copy within the temporary directory. -/
def memberName (number : Nat) : Path := Bytes.ofString s!"obj{number}.o"

theorem memberName_eq (number : Nat) :
    memberName number = [111, 98, 106] ++ Bytes.decimal number ++ [46, 111] := by
  have hstem : Bytes.ofString "obj" = [111, 98, 106] := by decide
  have hending : Bytes.ofString ".o" = [46, 111] := by decide
  rw [← hstem, ← hending, Bytes.decimal, ← Bytes.ofString_append, ← Bytes.ofString_append]
  rfl

/-- **Different copies have different names.** -/
theorem memberName_injective {m n : Nat} (h : memberName m = memberName n) : m = n := by
  rw [memberName_eq, memberName_eq] at h
  exact Bytes.decimal_injective (List.append_cancel_left (List.append_cancel_right h))

/-- The names of copies consist of letters, digits and dots. -/
theorem mem_memberName {number : Nat} {b : UInt8} (h : b ∈ memberName number) :
    b = 46 ∨ 48 ≤ b := by
  rw [memberName_eq] at h
  simp only [List.mem_append, List.mem_cons, List.not_mem_nil, or_false] at h
  rcases h with (hstem | hdigit) | hending
  · right
    rcases hstem with rfl | rfl | rfl <;> decide
  · exact .inr (Bytes.digit_of_mem_decimal b hdigit).1
  · rcases hending with rfl | rfl <;> decide

/-- **No copy has the name of the arguments file.** -/
theorem memberName_ne_argumentsName (number : Nat) : memberName number ≠ Backend.argumentsName := by
  have harguments : Backend.argumentsName.head? = some 97 := by decide
  intro h
  rw [← h, memberName_eq] at harguments
  cases harguments

end Claim

namespace Session

/-- **The names of a session's own files** within the temporary directory. -/
inductive IsOwnName : Path → Prop
  | arguments : IsOwnName Backend.argumentsName
  | copy (number : Nat) : IsOwnName (Claim.memberName number)

namespace IsOwnName

variable {name : Path}

/-- They are names of entries. -/
theorem isEntryName (h : IsOwnName name) : Disk.IsEntryName name := by
  cases h with
  | arguments => exact ⟨by decide, by decide, by decide, by decide⟩
  | copy number =>
      have hhead : (Claim.memberName number).head? = some 111 := by
        rw [Claim.memberName_eq]
        rfl
      refine ⟨?_, ?_, ?_, fun hmem => ?_⟩
      · intro h
        rw [h] at hhead
        cases hhead
      · intro h
        rw [h] at hhead
        cases hhead
      · intro h
        rw [h] at hhead
        cases hhead
      · exact absurd (Claim.mem_memberName hmem) (by decide)

theorem zero_not_mem (h : IsOwnName name) : 0 ∉ name := by
  cases h with
  | arguments => decide
  | copy number => exact fun hmem => absurd (Claim.mem_memberName hmem) (by decide)

end IsOwnName

/-! ### The temporary directory -/

/-- **A directory hosts a session**: the name leads to it, and under the names of the session's own
files there are files in it, or nothing at all. -/
structure Hosts (d : Disk) (path : Path) (directory : Location) : Prop where
  locate : d.locate path = .ok directory
  isDirectory : d.tree.get? directory = some .directory
  isOpen : ∀ name, IsOwnName name → Disk.isOpenTo d.tree (directory ++ [name])

namespace Hosts

variable {d d' : Disk} {path name : Path} {directory l : Location}

theorem path_ne_nil (h : Hosts d path directory) : path ≠ [] := Disk.ne_nil_of_locate h.locate

theorem not_link (h : Hosts d path directory) (hname : IsOwnName name) (target : Path) :
    d.tree.get? (directory ++ [name]) ≠ some (.link target) :=
  Disk.not_link_of_isOpenTo (h.isOpen name hname) target

/-- A name of the session's own leads to an entry of the directory, if it is not too long. -/
theorem isSpot_of_short (h : Hosts d path directory) (hname : IsOwnName name)
    (hlength : name.length ≤ Disk.nameLimit) (hlong : (path.join name).length < Disk.pathLimit) :
    d.IsSpot (path.join name) (directory ++ [name]) := by
  have hlocate : ∀ toEnd, d.locateWith toEnd (path.join name) = .ok (directory ++ [name]) :=
    fun toEnd => Disk.locateWith_join h.locate h.isDirectory hname.isEntryName hname.zero_not_mem
      (h.not_link hname) hlength hlong
  exact ⟨hlocate true, hlocate _, h.isOpen name hname,
    hname.isEntryName.endsInSeparator_join h.path_ne_nil⟩

/-- It leads nowhere else. -/
theorem eq_of_locateWith {toEnd : Bool} (h : Hosts d path directory) (hname : IsOwnName name)
    (hl : d.locateWith toEnd (path.join name) = .ok l) : l = directory ++ [name] :=
  Disk.eq_of_locateWith_join h.locate hname.isEntryName (h.not_link hname) hl

theorem isSpot (h : Hosts d path directory) (hname : IsOwnName name)
    (hl : d.locate (path.join name) = .ok l) :
    d.IsSpot (path.join name) (directory ++ [name]) := by
  obtain ⟨hlength, hlong⟩ :=
    Disk.short_of_locateWith_join h.path_ne_nil hname.isEntryName hl
  exact h.isSpot_of_short hname hlength hlong

/-- What is removed under a name of the session's own goes from the directory. -/
theorem changesFile_of_remove (h : Hosts d path directory) (hname : IsOwnName name)
    (hremove : d.remove (path.join name) = .ok d') : d.ChangesFile d' (directory ++ [name]) := by
  obtain ⟨l, hl, hchange⟩ := Disk.changesFile_of_remove hremove
  obtain rfl := h.eq_of_locateWith hname hl
  exact hchange (h.isOpen name hname)

/-- A directory goes on hosting a session when files come and go. -/
theorem of_changesFile (h : Hosts d path directory) (hchange : d.ChangesFile d' l) :
    Hosts d' path directory where
  locate := (Disk.locateWith_congr hchange.sameWays hchange.current_eq).1 h.locate
  isDirectory := (hchange.sameWays.directory directory).1 h.isDirectory
  isOpen name hname := hchange.isOpenTo_of_isOpenTo (h.isOpen name hname)

end Hosts

end Session

end LtoBridge
