/-
**What is lost.**

If things are only taken away from a disk, no name leads to anything new: what is found under a name
was found there before.  So whatever has been removed under its name is gone for good, whatever else
is removed later.

Main definitions:

* `LtoBridge.Disk.Loses`: nothing is new on a disk;
* `LtoBridge.Disk.IsGone`: a name leads to nothing;
* `LtoBridge.Call.Takes`: what a call takes away from a machine.

Main results:

* `LtoBridge.Disk.locateWith_of_loses`: **what a name leads to, it led to before**;
* `LtoBridge.Disk.IsGone.of_loses`: what is gone stays gone;
* `LtoBridge.Disk.isGone_of_remove`, `LtoBridge.Disk.isGone_of_removeTree`: what is removed is gone;
* `LtoBridge.Call.takes`: calls that only take away.
-/

import LtoBridge.Proofs.Files.Written

set_option autoImplicit false

namespace LtoBridge

/-- **Nothing is new in a tree**: everywhere there is what was there before, or nothing. -/
def FileTree.Loses (t t' : FileTree) : Prop := ∀ l, t'.get? l = t.get? l ∨ t'.get? l = none

/-- What is there was there before. -/
theorem FileTree.Loses.get?_eq {t t' : FileTree} {l : Location} {n : Node} (h : t.Loses t')
    (hl : t'.get? l = some n) : t.get? l = some n := by
  obtain hsame | hnone := h l
  · rw [← hsame, hl]
  · rw [hnone] at hl
    cases hl

namespace Disk

/-! ### Disks on which nothing is new -/

/-- **Nothing is new on a disk.** -/
structure Loses (d d' : Disk) : Prop where
  current : d'.current = d.current
  tree : d.tree.Loses d'.tree

namespace Loses

variable {d d' d'' : Disk} {l : Location}

theorem of_eq (h : d' = d) : d.Loses d' := by
  subst h
  exact ⟨rfl, fun _ => .inl rfl⟩

theorem refl (d : Disk) : d.Loses d := of_eq rfl

theorem trans (h : d.Loses d') (h' : d'.Loses d'') : d.Loses d'' := by
  refine ⟨h'.current.trans h.current, fun l => ?_⟩
  obtain hsame | hnone := h'.tree l
  · rw [hsame]
    exact h.tree l
  · exact .inr hnone

theorem erase (hl : l ≠ []) : d.Loses { d with tree := d.tree.erase l } := by
  refine ⟨rfl, fun m => ?_⟩
  change (d.tree.erase l).get? m = _ ∨ (d.tree.erase l).get? m = none
  rw [FileTree.get?_erase _ _ _ hl]
  split
  · exact .inr rfl
  · exact .inl rfl

theorem eraseBelow (l : Location) : d.Loses { d with tree := d.tree.eraseBelow l } := by
  refine ⟨rfl, fun m => ?_⟩
  change (d.tree.eraseBelow l).get? m = _ ∨ (d.tree.eraseBelow l).get? m = none
  by_cases hl : l = []
  · -- only the root is left, which cannot be removed
    subst hl
    by_cases hm : m = []
    · exact .inl (by simp [FileTree.get?, hm])
    · exact .inr (by simp [FileTree.get?, FileTree.eraseBelow, hm])
  · rw [FileTree.get?_eraseBelow _ _ _ hl]
    split
    · exact .inr rfl
    · exact .inl rfl

end Loses

/-- A walk that ends at something begins at something. -/
theorem ne_none_of_walkNames {follow : Location → List Bytes → Except OsError Location}
    {t : FileTree} {toEnd : Bool} {l m : Location} {names : List Bytes}
    (hwalk : walkNames follow t toEnd l names = .ok m) (hm : t.get? m ≠ none) :
    t.get? l ≠ none := by
  intro hl
  cases names with
  | nil =>
      obtain rfl := Except.ok.inj hwalk
      exact hm hl
  | cons name rest =>
      unfold walkNames at hwalk
      rw [hl] at hwalk
      cases hwalk

/-- Names that lead to something led there before, if links are followed alike. -/
theorem walkNames_of_loses {follow follow' : Location → List Bytes → Except OsError Location}
    {t t' : FileTree} {toEnd : Bool} {l m : Location} (h : t.Loses t') (hm : t'.get? m ≠ none)
    (hfollow : ∀ l names, follow' l names = .ok m → follow l names = .ok m) (names : List Bytes)
    (hwalk : walkNames follow' t' toEnd l names = .ok m) :
    walkNames follow t toEnd l names = .ok m := by
  induction names generalizing l with
  | nil => exact hwalk
  | cons name rest ih =>
      unfold walkNames at hwalk ⊢
      cases hl : t'.get? l with
      | none =>
          rw [hl] at hwalk
          cases hwalk
      | some n =>
          rw [hl] at hwalk
          rw [h.get?_eq hl]
          cases n with
          | directory =>
              dsimp only at hwalk ⊢
              split at hwalk
              · cases hwalk
              · rename_i hname
                rw [if_neg hname]
                split at hwalk
                · rename_i target htarget
                  rw [h.get?_eq htarget]
                  dsimp only
                  split at hwalk
                  · rename_i hlast
                    rw [if_pos hlast]
                    exact hwalk
                  · rename_i hlast
                    rw [if_neg hlast]
                    exact hfollow _ _ hwalk
                · rename_i hnext
                  -- what comes next is still there, and no link; so it was no link before
                  obtain hsame | hnone := h (step l name)
                  · rw [← hsame]
                    split
                    · rename_i target htarget
                      exact absurd htarget (hnext target)
                    · exact ih hwalk
                  · exact absurd hnone (ne_none_of_walkNames hwalk hm)
          | _ => cases hwalk

theorem walk_of_loses {t t' : FileTree} {toEnd : Bool} {l m : Location} (h : t.Loses t')
    (hm : t'.get? m ≠ none) (links : Nat) (names : List Bytes)
    (hwalk : walk t' toEnd links l names = .ok m) : walk t toEnd links l names = .ok m := by
  induction links generalizing l names with
  | zero => exact walkNames_of_loses h hm (fun _ _ hfollow => hfollow) names hwalk
  | succ links ih =>
      unfold walk at hwalk ⊢
      exact walkNames_of_loses h hm (fun _ names hfollow => ih names hfollow) names hwalk

/-- **What a name leads to, it led to before.** -/
theorem locateWith_of_loses {d d' : Disk} {toEnd : Bool} {p : Path} {l : Location}
    (h : d.Loses d') (hl : d'.locateWith toEnd p = .ok l) (hthere : d'.tree.get? l ≠ none) :
    d.locateWith toEnd p = .ok l := by
  have horigin : d'.origin p = d.origin p := by rw [origin, origin, h.current]
  rw [locateWith_eq_ok_iff] at hl ⊢
  rw [horigin] at hl
  exact ⟨hl.1, walk_of_loses h.tree hthere linkLimit _ hl.2⟩

/-! ### What is gone -/

/-- **There is nothing under a name**, if it leads anywhere at all. -/
def IsGone (d : Disk) (p : Path) : Prop :=
  ∀ l, d.locateEntry p = .ok l → d.tree.get? l = none

variable {d d' : Disk} {p : Path}

/-- What is gone stays gone. -/
theorem IsGone.of_loses (hgone : d.IsGone p) (h : d.Loses d') : d'.IsGone p := by
  intro l hl
  refine Classical.byContradiction fun hthere => ?_
  obtain hsame | hnone := h.tree l
  · rw [hgone l (locateWith_of_loses h hl hthere)] at hsame
    exact hthere hsame
  · exact hthere hnone

/-- What a name led to is gone with it. -/
theorem isGone_of_loses {l : Location} (h : d.Loses d') (hl : d.locateEntry p = .ok l)
    (hnone : d'.tree.get? l = none) : d'.IsGone p := by
  intro m hm
  refine Classical.byContradiction fun hthere => ?_
  obtain rfl : m = l := Except.ok.inj ((locateWith_of_loses h hm hthere).symm.trans hl)
  exact hthere hnone

/-- What is removed was there, and was no directory. -/
theorem remove_cases (h : d.remove p = .ok d') : ∃ l n, d.locateEntry p = .ok l ∧
    d.tree.get? l = some n ∧ n ≠ .directory ∧ d' = { d with tree := d.tree.erase l } := by
  obtain ⟨⟨l, n⟩, hfound, h⟩ := exists_of_bind_eq_ok h
  obtain ⟨_, hl, hlook⟩ := exists_of_bind_eq_ok hfound
  obtain ⟨rfl, hget⟩ := lookAt_eq_ok hlook
  cases n with
  | directory => cases h
  | _ => exact ⟨l, _, hl, hget, nofun, (Except.ok.inj h).symm⟩

/-- A tree that is removed was a directory, with all that was in it, or just a link. -/
theorem removeTree_cases (h : d.removeTree p = .ok d') : ∃ l, d.locateEntry p = .ok l ∧
    (d.tree.get? l = some .directory ∧ d' = { d with tree := d.tree.eraseBelow l } ∨
      ∃ target, d.tree.get? l = some (.link target) ∧
        d' = { d with tree := d.tree.erase l }) := by
  obtain ⟨⟨l, n⟩, hfound, h⟩ := exists_of_bind_eq_ok h
  obtain ⟨_, hl, hlook⟩ := exists_of_bind_eq_ok hfound
  obtain ⟨rfl, hget⟩ := lookAt_eq_ok hlook
  cases n with
  | directory => exact ⟨l, hl, .inl ⟨hget, (Except.ok.inj h).symm⟩⟩
  | link target => exact ⟨l, hl, .inr ⟨target, hget, (Except.ok.inj h).symm⟩⟩
  | _ => cases h

theorem ne_nil_of_get? {t : FileTree} {l : Location} {n : Node} (h : t.get? l = some n)
    (hn : n ≠ .directory) : l ≠ [] := by
  rintro rfl
  exact hn (Option.some.inj h).symm

/-- **What is removed is gone.** -/
theorem isGone_of_remove (h : d.remove p = .ok d') : d'.IsGone p := by
  obtain ⟨l, n, hl, hget, hn, rfl⟩ := remove_cases h
  have hne := ne_nil_of_get? hget hn
  refine isGone_of_loses (.erase hne) hl ?_
  exact (FileTree.get?_erase _ _ _ hne).trans (if_pos rfl)

/-- **So is a tree that is removed**, unless it is everything. -/
theorem isGone_of_removeTree (h : d.removeTree p = .ok d') (hroot : d.locateEntry p ≠ .ok []) :
    d'.IsGone p := by
  obtain ⟨l, hl, hremoved⟩ := removeTree_cases h
  have hne : l ≠ [] := by
    rintro rfl
    exact hroot hl
  obtain ⟨-, rfl⟩ | ⟨target, -, rfl⟩ := hremoved
  · refine isGone_of_loses (.eraseBelow l) hl ?_
    exact (FileTree.get?_eraseBelow _ _ _ hne).trans (if_pos (by simp))
  · refine isGone_of_loses (.erase hne) hl ?_
    exact (FileTree.get?_erase _ _ _ hne).trans (if_pos rfl)

/-- The name of an entry of a directory does not lead to the root. -/
theorem locateEntry_join_ne_root {parent name : Path} (hparent : parent ≠ [])
    (hname : IsEntryName name) : d.locateEntry (parent.join name) ≠ .ok [] := by
  intro hroot
  unfold locateEntry at hroot
  rw [hname.endsInSeparator_join hparent] at hroot
  obtain ⟨l, -, -, hlast⟩ := lastStep_of_locateWith_join hparent hname hroot
  exact absurd (hlast (.inl rfl)) (by simp)

end Disk

/-! ### Calls that only take away -/

/-- Can a call do nothing to files but remove some? -/
def Effect.onlyTakes : Effect → Bool
  | makeTemporaryDirectory _ _ | createFile _ | appendFile _ _ | launch _ _ => false
  | _ => true

variable {L : Type} [Linker L]

namespace Machine

/-- A file that was removed. -/
theorem remove_of_succeeded {c : Call (Machine L)} {path : Path} (hc : c.effect = .removeFile path)
    (hsucceeded : c.succeeded = true) : c.before.disk.remove path = .ok c.after.disk := by
  unfold Call.succeeded at hsucceeded
  unfold Call.after
  rw [hc] at hsucceeded ⊢
  exact disk_onDisk (f := (·.remove path)) hsucceeded

/-- A tree that was removed. -/
theorem removeTree_of_succeeded {c : Call (Machine L)} {path : Path}
    (hc : c.effect = .removeTree path) (hsucceeded : c.succeeded = true) :
    c.before.disk.removeTree path = .ok c.after.disk := by
  unfold Call.succeeded at hsucceeded
  unfold Call.after
  rw [hc] at hsucceeded ⊢
  exact disk_onDisk (f := (·.removeTree path)) hsucceeded

end Machine

/-- **All that a call can take away from a machine**, if it does nothing else to files. -/
inductive Call.Takes (c : Call (Machine L)) : Prop
  | nothing (hdisk : c.after.disk = c.before.disk)
  | entry (path : Path) (l : Location) (n : Node)
      (heffect : c.effect = .removeFile path ∨ c.effect = .removeTree path)
      (hl : c.before.disk.locateEntry path = .ok l) (hget : c.before.disk.tree.get? l = some n)
      (hn : n ≠ .directory)
      (hdisk : c.after.disk = { c.before.disk with tree := c.before.disk.tree.erase l })
  | tree (path : Path) (l : Location) (heffect : c.effect = .removeTree path)
      (hl : c.before.disk.locateEntry path = .ok l)
      (hget : c.before.disk.tree.get? l = some .directory)
      (hdisk : c.after.disk = { c.before.disk with tree := c.before.disk.tree.eraseBelow l })

theorem Call.takes (c : Call (Machine L)) (hc : c.effect.onlyTakes = true) : c.Takes := by
  obtain ⟨effect, m⟩ := c
  cases effect with
  | removeFile path =>
      obtain hsame | hremove := (Machine.onDisk_cases (f := (·.remove path)) m).2
      · exact .nothing hsame
      · obtain ⟨l, n, hl, hget, hn, hdisk⟩ := Disk.remove_cases hremove
        exact .entry path l n (.inl rfl) hl hget hn hdisk
  | removeTree path =>
      obtain hsame | hremove := (Machine.onDisk_cases (f := (·.removeTree path)) m).2
      · exact .nothing hsame
      · obtain ⟨l, hl, ⟨hget, hdisk⟩ | ⟨target, hget, hdisk⟩⟩ := Disk.removeTree_cases hremove
        · exact .tree path l rfl hl hget hdisk
        · exact .entry path l _ (.inr rfl) hl hget nofun hdisk
  | makeTemporaryDirectory | createFile | appendFile | launch => cases hc
  | addSymbols | getSymbols | addInputFile | addInputLibrary | releaseSymbols => exact .nothing rfl
  | _ => exact .nothing (Machine.disk_after_of_hidden rfl)

/-- Nothing is new after such a call. -/
theorem Call.Takes.loses {c : Call (Machine L)} (h : c.Takes) :
    c.before.disk.Loses c.after.disk := by
  cases h with
  | nothing hdisk => exact .of_eq hdisk
  | entry path l n heffect hl hget hn hdisk =>
      rw [hdisk]
      exact .erase (Disk.ne_nil_of_get? hget hn)
  | tree path l heffect hl hget hdisk =>
      rw [hdisk]
      exact .eraseBelow l

/-- What cannot be noticed takes nothing away. -/
theorem Effect.onlyTakes_of_hidden {e : Effect} (h : e.visible = false) : e.onlyTakes = true := by
  cases e with
  | makeTemporaryDirectory | createFile | appendFile | launch => cases h
  | _ => rfl

section

variable {t t' : Traced (Machine L)} {cs : List (Call (Machine L))}

/-- Nothing is new after such calls. -/
theorem Traced.Extends.loses (h : t.Extends cs t')
    (htakes : ∀ c ∈ cs, c.effect.onlyTakes = true) : t.world.disk.Loses t'.world.disk := by
  refine h.invariant (P := fun m => t.world.disk.Loses m.disk) ?_ (.refl _)
  intro c hc hloses
  exact hloses.trans (c.takes (htakes c hc)).loses

/-- **What is removed by one of such calls is gone in the end.** -/
theorem Traced.Extends.isGone_of_removed {c : Call (Machine L)} {p : Path} (h : t.Extends cs t')
    (htakes : ∀ c ∈ cs, c.effect.onlyTakes = true) (hc : c ∈ cs)
    (hgone : c.after.disk.IsGone p) : t'.world.disk.IsGone p := by
  obtain ⟨pre, post, rfl⟩ := List.append_of_mem hc
  obtain ⟨u, -, hbefore, hrest⟩ := h.split
  have hafter : (u.record c.effect).world = c.after := by
    rw [Call.after, hbefore]
    rfl
  have hloses := hrest.loses fun d hd => htakes d (by simp [hd])
  rw [hafter] at hloses
  exact hgone.of_loses hloses

end

end LtoBridge
