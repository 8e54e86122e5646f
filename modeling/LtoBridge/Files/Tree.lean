/-
**A tree of files.**

A file is found at a location, which is the list of names on the way from the root.  The tree
itself does not care whether the directory of a file exists; the operations of `LtoBridge.Disk` do.

Main definitions:

* `LtoBridge.Location`, `LtoBridge.Device`, `LtoBridge.Node`, `LtoBridge.FileTree`;
* `LtoBridge.FileTree.get?`, `LtoBridge.FileTree.put`, `LtoBridge.FileTree.erase`,
  `LtoBridge.FileTree.eraseBelow`, `LtoBridge.FileTree.move`.

Main results:

* `LtoBridge.FileTree.get?_put`, `LtoBridge.FileTree.get?_erase`,
  `LtoBridge.FileTree.get?_eraseBelow`: what is found after each change.
-/

import LtoBridge.Path

set_option autoImplicit false

namespace LtoBridge

/-- The names on the way from the root to a file. -/
abbrev Location := List Bytes

/-- A device. -/
inductive Device
  /-- Takes everything and has nothing. -/
  | null
  /-- Takes everything and has zeros without end. -/
  | zero
  /-- Has no space, and zeros without end. -/
  | full
  deriving DecidableEq

/-- What can be at a location. -/
inductive Node
  | directory
  | file (contents : Bytes) (executable : Bool)
  /-- A name that stands for another path. -/
  | link (target : Path)
  | device (device : Device)
  /-- A program of the machine, by its name. -/
  | program (name : String)
  deriving DecidableEq

/-- Files and directories by location. -/
structure FileTree where
  nodes : List (Location × Node) := []

namespace FileTree

/-- What is at a location.  The root is always there. -/
def get? (t : FileTree) (l : Location) : Option Node :=
  if l = [] then some .directory
  else (t.nodes.find? (·.1 == l)).map (·.2)

/-- The tree without what is at a location. -/
def erase (t : FileTree) (l : Location) : FileTree := ⟨t.nodes.filter (·.1 != l)⟩

/-- The tree with something at a location. -/
def put (t : FileTree) (l : Location) (n : Node) : FileTree := ⟨(l, n) :: (t.erase l).nodes⟩

/-- The tree without what is at a location and below. -/
def eraseBelow (t : FileTree) (l : Location) : FileTree :=
  ⟨t.nodes.filter fun entry => !l.isPrefixOf entry.1⟩

/-- The tree in which what is at `l` and below is at `m` and below, in place of what was there. -/
def move (t : FileTree) (l m : Location) : FileTree :=
  ⟨((t.eraseBelow m).nodes).map fun entry =>
    if l.isPrefixOf entry.1 then (m ++ entry.1.drop l.length, entry.2) else entry⟩

/-- The names in a directory. -/
def names (t : FileTree) (l : Location) : List Bytes :=
  (t.nodes.filter fun entry => entry.1 != [] && entry.1.dropLast == l).map (·.1.getLastD [])

theorem find?_filter_eq {α : Type} {p q : α → Bool} (xs : List α)
    (h : ∀ x ∈ xs, q x = true → p x = true) :
    (xs.filter p).find? q = xs.find? q := by
  induction xs with
  | nil => rfl
  | cons x xs ih =>
      have ih := ih fun y hy => h y (List.mem_cons_of_mem _ hy)
      by_cases hq : q x = true
      · simp [h x List.mem_cons_self hq, hq]
      · by_cases hp : p x = true <;> simp [hp, hq, ih]

theorem find?_filter_none {α : Type} {p q : α → Bool} (xs : List α)
    (h : ∀ x ∈ xs, q x = true → p x = false) : (xs.filter p).find? q = none := by
  simp only [List.find?_eq_none, List.mem_filter]
  rintro x ⟨hx, hp⟩ hq
  simp [h x hx hq] at hp

/-- After something has been put at a location, it is there and all else is as before. -/
theorem get?_put (t : FileTree) (l m : Location) (n : Node) (hl : l ≠ []) :
    (t.put l n).get? m = if m = l then some n else t.get? m := by
  by_cases hm : m = l
  · subst hm
    simp [get?, put, hl]
  · by_cases hroot : m = []
    · subst hroot
      simp [get?, Ne.symm hl]
    · have hne : (l == m) = false := by simpa using fun h => hm h.symm
      simp only [get?, put, erase, hroot, hm, if_false, List.find?_cons, hne]
      rw [find?_filter_eq]
      intro x _ hx
      simp only [beq_iff_eq] at hx
      simpa [hx] using hm

/-- After a location has been emptied, nothing is there and all else is as before. -/
theorem get?_erase (t : FileTree) (l m : Location) (hl : l ≠ []) :
    (t.erase l).get? m = if m = l then none else t.get? m := by
  by_cases hm : m = l
  · subst hm
    simp only [get?, hl, if_false, if_true, erase, Option.map_eq_none_iff]
    refine find?_filter_none _ fun x _ hx => ?_
    simpa using hx
  · by_cases hroot : m = []
    · subst hroot
      simp [get?, Ne.symm hl]
    · simp only [get?, erase, hroot, hm, if_false]
      rw [find?_filter_eq]
      intro x _ hx
      simp only [beq_iff_eq] at hx
      simpa [hx] using hm

/-- After a directory has been emptied and removed, nothing is there or below, and all else is as
before. -/
theorem get?_eraseBelow (t : FileTree) (l m : Location) (hl : l ≠ []) :
    (t.eraseBelow l).get? m = if l.isPrefixOf m then none else t.get? m := by
  by_cases hm : l.isPrefixOf m = true
  · have hroot : m ≠ [] := by
      rintro rfl
      cases l <;> simp_all [List.isPrefixOf]
    simp only [get?, hroot, if_false, hm, if_true, eraseBelow, Option.map_eq_none_iff]
    refine find?_filter_none _ fun x _ hx => ?_
    simp only [beq_iff_eq] at hx
    simp [hx, hm]
  · by_cases hroot : m = []
    · subst hroot
      simp [get?, hm]
    · simp only [get?, eraseBelow, hroot, hm, if_false]
      rw [find?_filter_eq]
      · rfl
      intro x _ hx
      simp only [beq_iff_eq] at hx
      simp [hx, hm]

end FileTree

end LtoBridge
