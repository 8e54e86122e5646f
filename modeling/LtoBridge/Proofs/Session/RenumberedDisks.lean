/-
**Disks with renumbered copies.**

Two disks hold the same, but for the copies, which have other numbers on the second one, and for the
files that list them.  What a session does to its files keeps it that way: it either fails on both
disks, with the same error, or comes to disks that hold the same again.

Main definitions:

* `LtoBridge.Renumbering.Disks`: a disk, and the same with renumbered copies;
* `LtoBridge.Renumbering.LeadsPast`: a name that does not depend on how copies are numbered;
* `LtoBridge.Renumbering.Ends`: two changes of such disks come out alike.

Main results:

* `LtoBridge.Renumbering.Disks.put`, `LtoBridge.Renumbering.Disks.erase`: changes in one place;
* `LtoBridge.Renumbering.Disks.hosts`: if the one disk hosts a session, then so does the other one;
* `LtoBridge.Renumbering.Disks.ends_create_copy`, `LtoBridge.Renumbering.Disks.ends_append_copy`,
  `LtoBridge.Renumbering.Disks.ends_remove_copy`: copies come, grow and go alike;
* `LtoBridge.Renumbering.Disks.ends_create_listing`,
  `LtoBridge.Renumbering.Disks.ends_append_listing`: the files that list copies are written alike;
* `LtoBridge.Renumbering.Disks.ends_removeTree`: the directory goes alike.
-/

import LtoBridge.Proofs.Session.Renumbering

set_option autoImplicit false

namespace LtoBridge

/-! ### Names that lead somewhere -/

/-- After a directory has been emptied and removed, nothing is there or below; only the root is
always there. -/
theorem FileTree.get?_eraseBelow_of_ne (t : FileTree) (l : Location) {m : Location} (hm : m ≠ []) :
    (t.eraseBelow l).get? m = if l <+: m then none else t.get? m := by
  by_cases hl : l = []
  · subst hl
    simp [FileTree.get?, FileTree.eraseBelow, hm, List.isPrefixOf]
  · rw [FileTree.get?_eraseBelow t l m hl]
    simp only [List.isPrefixOf_iff_prefix]

namespace Disk

variable {d d' : Disk} {p : Path} {l : Location}

/-- Names that lead somewhere also do so if no link is followed at the end: to that link, or to the
same. -/
theorem walkNames_to_link {follow follow' : Location → List Bytes → Except OsError Location}
    {t : FileTree} {m : Location} (hfollow : ∀ l names, follow l names = .ok m →
      ∃ m', follow' l names = .ok m' ∧ ((∃ target, t.get? m' = some (.link target)) ∨ m' = m))
    (names : List Bytes) (hwalk : walkNames follow t true l names = .ok m) :
    ∃ m', walkNames follow' t false l names = .ok m' ∧
      ((∃ target, t.get? m' = some (.link target)) ∨ m' = m) := by
  induction names generalizing l with
  | nil => exact ⟨m, hwalk, .inr rfl⟩
  | cons name rest ih =>
      unfold walkNames at hwalk ⊢
      cases hl : t.get? l with
      | none =>
          rw [hl] at hwalk
          cases hwalk
      | some n =>
          rw [hl] at hwalk
          cases n with
          | directory =>
              dsimp only at hwalk ⊢
              split at hwalk
              · cases hwalk
              · rename_i hname
                rw [if_neg hname]
                split at hwalk
                · rename_i target htarget
                  rw [if_neg (by simp)] at hwalk
                  split
                  · exact ⟨_, rfl, .inl ⟨target, htarget⟩⟩
                  · exact hfollow _ _ hwalk
                · exact ih hwalk
          | _ => cases hwalk

theorem walk_to_link {t : FileTree} {m : Location} (links : Nat) (names : List Bytes)
    (hwalk : walk t true links l names = .ok m) :
    ∃ m', walk t false links l names = .ok m' ∧
      ((∃ target, t.get? m' = some (.link target)) ∨ m' = m) := by
  induction links generalizing l names with
  | zero => exact walkNames_to_link (fun _ _ h => by cases h) names hwalk
  | succ links ih =>
      unfold walk at hwalk ⊢
      exact walkNames_to_link (fun _ names h => ih names h) names hwalk

/-- A name that leads somewhere names an entry: a link, or what it leads to. -/
theorem exists_locateEntry (hl : d.locate p = .ok l) :
    ∃ m, d.locateEntry p = .ok m ∧
      ((∃ target, d.tree.get? m = some (.link target)) ∨ m = l) := by
  unfold locateEntry
  cases endsInSeparator p with
  | true => exact ⟨l, hl, .inr rfl⟩
  | false =>
      obtain ⟨hname, hwalk⟩ := locateWith_eq_ok_iff.1 hl
      obtain ⟨m, hm, hends⟩ := walk_to_link linkLimit _ hwalk
      exact ⟨m, locateWith_eq_ok_iff.2 ⟨hname, hm⟩, hends⟩

/-! ### Spots -/

/-- At a spot there is a file, or nothing. -/
theorem IsSpot.node_cases (h : d.IsSpot p l) :
    d.tree.get? l = none ∨ ∃ contents executable,
      d.tree.get? l = some (.file contents executable) := by
  have hopen := h.isOpen
  unfold isOpenTo at hopen
  split at hopen
  · exact .inl ‹_›
  · exact .inr ⟨_, _, ‹_›⟩
  · cases hopen

theorem IsSpot.find_of_none (h : d.IsSpot p l) (hget : d.tree.get? l = none) :
    d.find p = .error .noEntry := by
  rw [find, h.locate]
  simp [bind, Except.bind, lookAt, hget]

theorem IsSpot.remove_of_none (h : d.IsSpot p l) (hget : d.tree.get? l = none) :
    d.remove p = .error .noEntry := by
  rw [remove, findEntry, h.locateEntry]
  simp [bind, Except.bind, lookAt, hget]

end Disk

namespace Renumbering

variable (σ : Renumbering)

/-! ### Places and numbers -/

/-- Every number is a new number, but for those that are no longer used. -/
theorem exists_number {n : Nat} (h : ¬ (σ.first ≤ n ∧ n < σ.first + σ.step)) :
    ∃ k, σ.number k = n := by
  rcases Nat.lt_or_ge n σ.first with hn | hn
  · exact ⟨n, σ.number_of_lt hn⟩
  · refine ⟨n - σ.step, ?_⟩
    rw [σ.number_of_le (by omega)]
    omega

/-- Only in the directory anything moves. -/
theorem isPrefix_move {l : Location} : σ.directory <+: σ.move l ↔ σ.directory <+: l := by
  rcases σ.move_eq_or l with hsame | ⟨n, rfl, hmoved⟩
  · rw [hsame]
  · rw [hmoved]
    exact iff_of_true (List.prefix_append _ _) (List.prefix_append _ _)

theorem move_eq_nil_iff {l : Location} : σ.move l = [] ↔ l = [] := by
  rcases σ.move_eq_or l with hsame | ⟨n, rfl, hmoved⟩
  · rw [hsame]
  · rw [hmoved]
    simp [copyAt]

/-- Of two texts that list the same, both are empty or none. -/
theorem Lists.eq_nil_iff {text text' : Bytes} (h : σ.Lists text text') :
    text = [] ↔ text' = [] := by
  have hrender : ∀ arguments : List Bytes,
      ArgumentsFile.render arguments = [] ↔ arguments.length = 0 := by
    intro arguments
    cases arguments with
    | nil => exact iff_of_true rfl rfl
    | cons a arguments => simp [ArgumentsFile.render]
  cases h with
  | arguments words => rw [hrender, hrender, List.length_map]
  | resolutions r => simp [ResolutionFile.render]

/-! ### Disks -/

/-- **What is at a location and what is at its new place**: the same, unless it is a file that lists
others. -/
inductive NodesAlike (l : Location) : Option Node → Option Node → Prop
  | same (n : Option Node) : NodesAlike l n n
  | listing {text text' : Bytes} (hl : σ.listing l) (h : σ.Lists text text') (executable : Bool) :
      NodesAlike l (some (.file text executable)) (some (.file text' executable))

/-- **A disk and the same with renumbered copies**, which are files, or are not there; there are no
copies whose numbers are no longer used. -/
structure Disks (d d' : Disk) : Prop where
  current : d'.current = d.current
  isOpen : ∀ n, Disk.isOpenTo d.tree (σ.copyAt n)
  nodes : ∀ l, σ.NodesAlike l (d.tree.get? l) (d'.tree.get? (σ.move l))
  gap : ∀ n, σ.first ≤ n → n < σ.first + σ.step → d'.tree.get? (σ.copyAt n) = none

/-- The session works in the directory. -/
abbrev Hosts (d : Disk) : Prop := Session.Hosts d σ.path σ.directory

/-- The names of a copy are short enough before and after. -/
structure Short (n : Nat) : Prop where
  entry : (Claim.memberName n).length ≤ Disk.nameLimit
  entry' : (Claim.memberName (σ.number n)).length ≤ Disk.nameLimit
  whole : (σ.copyName n).length < Disk.pathLimit
  whole' : (σ.copyName (σ.number n)).length < Disk.pathLimit

/-- **Two changes of disks come out alike**: with the same error, or with disks that hold the same
but for the numbers of the copies; and the first one has a property. -/
inductive Ends (P : Disk → Prop) : Except OsError Disk → Except OsError Disk → Prop
  | ok {d d' : Disk} (h : σ.Disks d d') (hd : P d) : Ends P (.ok d) (.ok d')
  | error (error : OsError) : Ends P (.error error) (.error error)

/-- **A name leads to the same place on two disks**, and if it leads anywhere, to a file that lists
others. -/
structure LeadsAlike (d d' : Disk) (file : Path) : Prop where
  locate : d'.locate file = d.locate file
  holder : Disk.endsInSeparator file = true → d'.holder file = d.holder file
  listed : ∀ l, d.locate file = .ok l → σ.listing l

/-- **Where a name leads does not depend on how copies are numbered.** -/
def LeadsPast (d : Disk) (file : Path) : Prop := ∀ d', σ.Disks d d' → σ.LeadsAlike d d' file

/-- A file that lists others has just been made: it is empty. -/
def Emptied (file : Path) (d : Disk) : Prop :=
  ∃ l, d.locate file = .ok l ∧ σ.listing l ∧ ∀ contents executable,
    d.tree.get? l = some (.file contents executable) → contents = []

namespace NodesAlike

variable {σ} {l : Location} {n n' : Option Node}

theorem eq (h : σ.NodesAlike l n n') (hl : ¬ σ.listing l) : n' = n := by
  cases h with
  | same => rfl
  | listing hlisting => exact absurd hlisting hl

theorem eq_none_iff (h : σ.NodesAlike l n n') : n' = none ↔ n = none := by
  cases h with
  | same => exact Iff.rfl
  | listing => simp

theorem eq_directory_iff (h : σ.NodesAlike l n n') :
    n = some .directory ↔ n' = some .directory := by
  cases h with
  | same => exact Iff.rfl
  | listing => simp

theorem eq_link_iff (h : σ.NodesAlike l n n') (target : Path) :
    n = some (.link target) ↔ n' = some (.link target) := by
  cases h with
  | same => exact Iff.rfl
  | listing => simp

end NodesAlike

namespace Disks

variable {σ} {d d' : Disk} {l : Location} {n : Nat} {file : Path} {P : Disk → Prop}

/-- **A disk without copies yet to come is the same with them renumbered.** -/
theorem of_vacant (hhosts : σ.Hosts d)
    (h : ∀ n, σ.first ≤ n → d.tree.get? (σ.copyAt n) = none) : σ.Disks d d where
  current := rfl
  isOpen n := hhosts.isOpen _ (.copy n)
  nodes l := by
    rcases σ.move_eq_or l with hsame | ⟨n, rfl, hmoved⟩
    · rw [hsame]
      exact .same _
    · rw [hmoved]
      rcases Nat.lt_or_ge n σ.first with hn | hn
      · rw [σ.number_of_lt hn]
        exact .same _
      · rw [h n hn, σ.number_of_le hn, h _ (by omega)]
        exact .same _
  gap n hn _ := h n hn

theorem get?_copy (h : σ.Disks d d') (n : Nat) :
    d'.tree.get? (σ.copyAt (σ.number n)) = d.tree.get? (σ.copyAt n) := by
  rw [← σ.move_copyAt]
  exact (h.nodes _).eq (σ.copies n)

theorem nodes_of_listing (h : σ.Disks d d') (hl : σ.listing l) :
    σ.NodesAlike l (d.tree.get? l) (d'.tree.get? l) := by
  have hnodes := h.nodes l
  rwa [σ.move_of_listing hl] at hnodes

/-! ### Changes in one place -/

/-- **A file is written somewhere**, on the second disk at the new place. -/
theorem put (h : σ.Disks d d') (hl : l ≠ []) {text text' : Bytes} {executable : Bool}
    (hn : σ.NodesAlike l (some (.file text executable)) (some (.file text' executable))) :
    σ.Disks (d.put l (.file text executable)) (d'.put (σ.move l) (.file text' executable)) where
  current := h.current
  isOpen n := by
    by_cases hn : σ.copyAt n = l
    · refine Disk.isOpenTo_of_file ((FileTree.get?_put _ _ _ _ hl).trans (if_pos hn))
    · rw [Disk.isOpenTo, Disk.put, FileTree.get?_put _ _ _ _ hl, if_neg hn]
      exact h.isOpen n
  nodes m := by
    have hmove : σ.move l ≠ [] := mt σ.move_eq_nil_iff.1 hl
    rw [Disk.put, Disk.put, FileTree.get?_put _ _ _ _ hl, FileTree.get?_put _ _ _ _ hmove]
    by_cases hm : m = l
    · subst hm
      rw [if_pos rfl, if_pos rfl]
      exact hn
    · rw [if_neg hm, if_neg fun hsame => hm (σ.move_injective hsame)]
      exact h.nodes m
  gap k hk hk' := by
    have hmove : σ.move l ≠ [] := mt σ.move_eq_nil_iff.1 hl
    rw [Disk.put, FileTree.get?_put _ _ _ _ hmove, if_neg (σ.move_ne hk hk').symm]
    exact h.gap k hk hk'

/-- **Something is taken away.** -/
theorem erase (h : σ.Disks d d') (hl : l ≠ []) :
    σ.Disks { d with tree := d.tree.erase l } { d' with tree := d'.tree.erase (σ.move l) } where
  current := h.current
  isOpen n := by
    by_cases hn : σ.copyAt n = l
    · exact Disk.isOpenTo_of_none ((FileTree.get?_erase _ _ _ hl).trans (if_pos hn))
    · rw [Disk.isOpenTo, FileTree.get?_erase _ _ _ hl, if_neg hn]
      exact h.isOpen n
  nodes m := by
    have hmove : σ.move l ≠ [] := mt σ.move_eq_nil_iff.1 hl
    simp only [FileTree.get?_erase _ _ _ hl, FileTree.get?_erase _ _ _ hmove]
    by_cases hm : m = l
    · subst hm
      rw [if_pos rfl, if_pos rfl]
      exact .same _
    · rw [if_neg hm, if_neg fun hsame => hm (σ.move_injective hsame)]
      exact h.nodes m
  gap k hk hk' := by
    have hmove : σ.move l ≠ [] := mt σ.move_eq_nil_iff.1 hl
    simp only [FileTree.get?_erase _ _ _ hmove]
    rw [if_neg (σ.move_ne hk hk').symm]
    exact h.gap k hk hk'

/-- **The directory is taken away**, with all copies. -/
theorem eraseBelow (h : σ.Disks d d') :
    σ.Disks { d with tree := d.tree.eraseBelow σ.directory }
      { d' with tree := d'.tree.eraseBelow σ.directory } where
  current := h.current
  isOpen n := by
    refine Disk.isOpenTo_of_none ?_
    rw [FileTree.get?_eraseBelow_of_ne _ _ (by simp [copyAt])]
    exact if_pos (List.prefix_append _ _)
  nodes l := by
    by_cases hl : l = []
    · rw [σ.move_eq_nil_iff.2 hl, hl]
      exact .same _
    · simp only [FileTree.get?_eraseBelow_of_ne _ _ hl,
        FileTree.get?_eraseBelow_of_ne _ _ (mt σ.move_eq_nil_iff.1 hl), σ.isPrefix_move]
      split
      · exact .same _
      · exact h.nodes l
  gap n _ _ := by
    have hne : σ.copyAt n ≠ [] := by simp [copyAt]
    simp only [FileTree.get?_eraseBelow_of_ne _ _ hne]
    exact if_pos (List.prefix_append _ _)

/-! ### Where names lead -/

/-- Where copies are, there are files on both disks, or nothing. -/
theorem isOpenTo_copyAt (h : σ.Disks d d') (n : Nat) : Disk.isOpenTo d'.tree (σ.copyAt n) := by
  -- every other number is the new number of a copy
  by_cases hn : σ.first ≤ n ∧ n < σ.first + σ.step
  · exact Disk.isOpenTo_of_none (h.gap n hn.1 hn.2)
  · obtain ⟨k, rfl⟩ := σ.exists_number hn
    rw [Disk.isOpenTo, h.get?_copy k]
    exact h.isOpen k

/-- **There are the same directories and links**, none of which is a copy. -/
theorem sameWays (h : σ.Disks d d') : d.tree.SameWays d'.tree := by
  have hcopy : ∀ n, (d.tree.get? (σ.copyAt n) ≠ some .directory ∧
      ∀ target, d.tree.get? (σ.copyAt n) ≠ some (.link target)) ∧
      d'.tree.get? (σ.copyAt n) ≠ some .directory ∧
      ∀ target, d'.tree.get? (σ.copyAt n) ≠ some (.link target) := by
    have hopen : ∀ {t : FileTree} {l : Location}, Disk.isOpenTo t l →
        t.get? l ≠ some .directory ∧ ∀ target, t.get? l ≠ some (.link target) := by
      intro t l hl
      refine ⟨fun hdirectory => ?_, Disk.not_link_of_isOpenTo hl⟩
      rw [Disk.isOpenTo, hdirectory] at hl
      cases hl
    exact fun n => ⟨hopen (h.isOpen n), hopen (h.isOpenTo_copyAt n)⟩
  refine ⟨fun l => ?_, fun l target => ?_⟩
  · by_cases hl : ∃ n, l = σ.copyAt n
    · obtain ⟨n, rfl⟩ := hl
      exact iff_of_false (hcopy n).1.1 (hcopy n).2.1
    · have hnodes := h.nodes l
      rw [σ.move_of_ne fun n hn => hl ⟨n, hn⟩] at hnodes
      exact hnodes.eq_directory_iff
  · by_cases hl : ∃ n, l = σ.copyAt n
    · obtain ⟨n, rfl⟩ := hl
      exact iff_of_false ((hcopy n).1.2 target) ((hcopy n).2.2 target)
    · have hnodes := h.nodes l
      rw [σ.move_of_ne fun n hn => hl ⟨n, hn⟩] at hnodes
      exact hnodes.eq_link_iff target

/-- **If the one disk hosts the session, then so does the other one.** -/
theorem hosts (h : σ.Disks d d') (hhosts : σ.Hosts d) : σ.Hosts d' where
  locate := (Disk.locateWith_congr h.sameWays h.current).1 hhosts.locate
  isDirectory := (h.sameWays.directory _).1 hhosts.isDirectory
  isOpen name hname := by
    cases hname with
    | copy n => exact h.isOpenTo_copyAt n
    | arguments =>
        have hopen := hhosts.isOpen _ .arguments
        have hnodes := h.nodes_of_listing σ.arguments
        rw [Disk.isOpenTo] at hopen ⊢
        revert hopen hnodes
        generalize d.tree.get? (σ.directory ++ [Backend.argumentsName]) = n
        generalize d'.tree.get? (σ.directory ++ [Backend.argumentsName]) = n'
        rintro hopen (_ | _)
        · exact hopen
        · rfl

/-! ### Copies -/

/-- The names of a copy lead to it. -/
theorem isSpot_copy (h : σ.Disks d d') (hhosts : σ.Hosts d) (hn : σ.Short n) :
    d.IsSpot (σ.copyName n) (σ.copyAt n) ∧
      d'.IsSpot (σ.copyName (σ.number n)) (σ.copyAt (σ.number n)) :=
  ⟨hhosts.isSpot_of_short (.copy n) hn.entry hn.whole,
    (h.hosts hhosts).isSpot_of_short (.copy _) hn.entry' hn.whole'⟩

/-- **A copy is begun.** -/
theorem ends_create_copy (h : σ.Disks d d') (hhosts : σ.Hosts d) (hn : σ.Short n) :
    σ.Ends σ.Hosts (d.create (σ.copyName n)) (d'.create (σ.copyName (σ.number n))) := by
  obtain ⟨hspot, hspot'⟩ := h.isSpot_copy hhosts hn
  have hexecutable : Disk.executableAt d'.tree (σ.copyAt (σ.number n)) =
      Disk.executableAt d.tree (σ.copyAt n) := by
    rw [Disk.executableAt, Disk.executableAt, h.get?_copy]
  rw [hspot.isTarget.create_eq, hspot'.isTarget.create_eq, hexecutable, ← σ.move_copyAt]
  exact .ok (h.put (Disk.ne_nil_of_isOpenTo hspot.isOpen) (.same _))
    (hhosts.of_changesFile (hspot.changesFile_put _ _))

/-- **A copy grows.** -/
theorem ends_append_copy (h : σ.Disks d d') (hhosts : σ.Hosts d) (hn : σ.Short n) (data : Bytes) :
    σ.Ends σ.Hosts (d.append (σ.copyName n) data) (d'.append (σ.copyName (σ.number n)) data) := by
  obtain ⟨hspot, hspot'⟩ := h.isSpot_copy hhosts hn
  obtain hnone | ⟨contents, executable, hfile⟩ := hspot.node_cases
  · rw [Disk.append, Disk.append, hspot.find_of_none hnone,
      hspot'.find_of_none (by rw [h.get?_copy, hnone])]
    exact .error _
  · rw [Disk.append_eq_ok hspot.locate hfile hspot.separator,
      Disk.append_eq_ok hspot'.locate (by rw [h.get?_copy, hfile]) hspot'.separator,
      ← σ.move_copyAt]
    exact .ok (h.put (Disk.ne_nil_of_isOpenTo hspot.isOpen) (.same _))
      (hhosts.of_changesFile (hspot.changesFile_put _ _))

/-- A file goes from its spots. -/
theorem ends_remove_spot {p p' : Path} (h : σ.Disks d d') (hhosts : σ.Hosts d)
    (hspot : d.IsSpot p l) (hspot' : d'.IsSpot p' (σ.move l)) :
    σ.Ends σ.Hosts (d.remove p) (d'.remove p') := by
  have hnodes := h.nodes l
  obtain hnone | ⟨contents, executable, hfile⟩ := hspot.node_cases
  · rw [hspot.remove_of_none hnone, hspot'.remove_of_none (hnodes.eq_none_iff.2 hnone)]
    exact .error _
  · obtain hnone' | ⟨contents', executable', hfile'⟩ := hspot'.node_cases
    · rw [hnodes.eq_none_iff.1 hnone'] at hfile
      cases hfile
    · rw [Disk.remove_eq_ok hspot.locateEntry hfile hspot.separator,
        Disk.remove_eq_ok hspot'.locateEntry hfile' hspot'.separator]
      exact .ok (h.erase (Disk.ne_nil_of_isOpenTo hspot.isOpen))
        (hhosts.of_changesFile ⟨hspot.isOpen, .inr rfl⟩)

/-- **A copy goes.** -/
theorem ends_remove_copy (h : σ.Disks d d') (hhosts : σ.Hosts d) (hn : σ.Short n) :
    σ.Ends σ.Hosts (d.remove (σ.copyName n)) (d'.remove (σ.copyName (σ.number n))) := by
  obtain ⟨hspot, hspot'⟩ := h.isSpot_copy hhosts hn
  rw [← σ.move_copyAt] at hspot'
  exact h.ends_remove_spot hhosts hspot hspot'

/-! ### Files that list copies -/

/-- The name of the arguments file leads to it on both disks, or is too long on both. -/
theorem arguments_cases (h : σ.Disks d d') (hhosts : σ.Hosts d) :
    let file := σ.path.join Backend.argumentsName
    let l := σ.directory ++ [Backend.argumentsName]
    (d.IsSpot file l ∧ d'.IsSpot file l) ∨
      ∀ toEnd, d.locateWith toEnd file = .error .nameTooLong ∧
        d'.locateWith toEnd file = .error .nameTooLong := by
  intro file l
  have hname := Session.IsOwnName.arguments
  rcases Nat.lt_or_ge file.length Disk.pathLimit with hlong | hlong
  · exact .inl ⟨hhosts.isSpot_of_short hname (by decide) hlong,
      (h.hosts hhosts).isSpot_of_short hname (by decide) hlong⟩
  · have hzero : 0 ∉ file := by
      rw [hname.isEntryName.zero_mem_join σ.path_ne_nil]
      exact not_or.2 ⟨(Disk.locateWith_eq_ok_iff.1 hhosts.locate).1.1, hname.zero_not_mem⟩
    have hempty : file ≠ [] := by
      intro hnil
      rw [hnil] at hlong
      exact absurd hlong (by decide)
    refine .inr fun toEnd => ?_
    rw [Disk.locateWith, Disk.locateWith, if_neg hzero, if_neg hzero, if_neg hempty,
      if_neg hempty, if_pos hlong, if_pos hlong]
    exact ⟨rfl, rfl⟩

/-- Where the arguments file is does not depend on how copies are numbered. -/
theorem leadsAlike_arguments (h : σ.Disks d d') (hhosts : σ.Hosts d) :
    σ.LeadsAlike d d' (σ.path.join Backend.argumentsName) := by
  have hseparator :=
    Session.IsOwnName.arguments.isEntryName.endsInSeparator_join σ.path_ne_nil
  obtain ⟨hspot, hspot'⟩ | hlong := h.arguments_cases hhosts
  · refine ⟨hspot'.locate.trans hspot.locate.symm, fun hends => ?_, fun l hl => ?_⟩
    · rw [hseparator] at hends
      cases hends
    · obtain rfl := Except.ok.inj (hspot.locate.symm.trans hl)
      exact σ.arguments
  · refine ⟨(hlong true).2.trans (hlong true).1.symm, fun hends => ?_, fun l hl => ?_⟩
    · rw [hseparator] at hends
      cases hends
    · cases (hlong true).1.symm.trans hl

/-- **The arguments file goes.** -/
theorem ends_remove_arguments (h : σ.Disks d d') (hhosts : σ.Hosts d) :
    σ.Ends σ.Hosts (d.remove (σ.path.join Backend.argumentsName))
      (d'.remove (σ.path.join Backend.argumentsName)) := by
  obtain ⟨hspot, hspot'⟩ | hlong := h.arguments_cases hhosts
  · rw [← σ.move_of_listing σ.arguments] at hspot'
    exact h.ends_remove_spot hhosts hspot hspot'
  · rw [Disk.remove, Disk.remove, Disk.findEntry, Disk.findEntry, Disk.locateEntry,
      Disk.locateEntry, (hlong _).1, (hlong _).2]
    exact .error _

/-- **A file that lists others is made**, or made empty. -/
theorem ends_create_listing (h : σ.Disks d d') (hP : ∀ d d' l, P d → d.ChangesFile d' l → P d')
    (hd : P d) (hfile : σ.LeadsAlike d d' file) :
    σ.Ends (fun d => P d ∧ σ.Emptied file d) (d.create file) (d'.create file) := by
  unfold Disk.create
  split
  · rename_i hname
    rw [hfile.holder hname.2.1]
    cases d.holder file with
    | error error => exact .error error
    | ok l => exact .error _
  · rw [hfile.locate]
    cases hl : d.locate file with
    | error error => exact .error error
    | ok l =>
        have hlisting := hfile.listed l hl
        -- what is made is empty, and its name leads where it did
        have hmade : ∀ executable, Disk.isOpenTo d.tree l →
            σ.Ends (fun d => P d ∧ σ.Emptied file d) (.ok (d.put l (.file [] executable)))
              (.ok (d'.put l (.file [] executable))) := by
          intro executable hopen
          have hput := h.put (Disk.ne_nil_of_isOpenTo hopen) (.same (some (.file [] executable)))
          rw [σ.move_of_listing hlisting] at hput
          refine .ok hput ⟨hP _ _ l hd ⟨hopen, .inl ⟨_, _, rfl⟩⟩, l, Disk.locate_put hopen hl,
            hlisting, fun contents executable' hget => ?_⟩
          rw [Disk.get?_put_self hopen] at hget
          cases hget
          rfl
        have hkept : (∀ contents executable, d.tree.get? l ≠ some (.file contents executable)) →
            σ.Ends (fun d => P d ∧ σ.Emptied file d) (.ok d) (.ok d') :=
          fun hnone => .ok h ⟨hd, l, hl, hlisting, fun contents executable hget =>
            absurd hget (hnone contents executable)⟩
        have hnodes := h.nodes_of_listing hlisting
        simp only [bind, Except.bind]
        cases hget : d.tree.get? l with
        | none =>
            rw [hnodes.eq_none_iff.2 hget]
            exact hmade false (Disk.isOpenTo_of_none hget)
        | some n =>
            rw [hget] at hnodes hkept
            generalize d'.tree.get? l = n' at hnodes
            cases hnodes with
            | listing _ _ executable => exact hmade executable (Disk.isOpenTo_of_file hget)
            | same =>
                cases n with
                | directory => exact .error _
                | file contents executable => exact hmade executable (Disk.isOpenTo_of_file hget)
                | _ => exact hkept (by simp)

/-- **What lists the same is written to a file** that has just been made. -/
theorem ends_append_listing {text text' : Bytes} (h : σ.Disks d d')
    (hP : ∀ d d' l, P d → d.ChangesFile d' l → P d') (hd : P d) (hfile : σ.Emptied file d)
    (htext : σ.Lists text text') : σ.Ends P (d.append file text) (d'.append file text') := by
  obtain ⟨l, hl, hlisting, hempty⟩ := hfile
  have hl' : d'.locate file = .ok l :=
    (Disk.locateWith_congr h.sameWays h.current).1 hl
  -- what is written comes after nothing on both disks
  have hwritten : ∀ executable, d.tree.get? l = some (.file [] executable) →
      σ.Ends P (.ok (d.put l (.file text executable)))
        (.ok (d'.put l (.file text' executable))) := by
    intro executable hget
    have hopen := Disk.isOpenTo_of_file hget
    have hput := h.put (Disk.ne_nil_of_isOpenTo hopen) (.listing hlisting htext executable)
    rw [σ.move_of_listing hlisting] at hput
    exact .ok hput (hP _ _ l hd ⟨hopen, .inl ⟨_, _, rfl⟩⟩)
  have hnodes := h.nodes_of_listing hlisting
  unfold Disk.append Disk.find
  rw [hl, hl']
  simp only [bind, Except.bind, Disk.lookAt]
  cases hget : d.tree.get? l with
  | none =>
      rw [hnodes.eq_none_iff.2 hget]
      exact .error _
  | some n =>
      rw [hget] at hnodes hempty
      generalize hget' : d'.tree.get? l = n' at hnodes
      cases hnodes with
      | listing _ hlists executable =>
          obtain rfl := hempty _ _ rfl
          obtain rfl := (hlists.eq_nil_iff σ).1 rfl
          cases hends : Disk.endsInSeparator file with
          | true => exact .error _
          | false =>
              simp only [Bool.false_eq_true, if_false, Disk.appendAt, hget, hget', List.nil_append]
              exact hwritten executable hget
      | same =>
          cases n with
          | directory =>
              simp only [Disk.appendAt, hget, hget']
              exact .ok h hd
          | file contents executable =>
              obtain rfl := hempty _ _ rfl
              cases hends : Disk.endsInSeparator file with
              | true => exact .error _
              | false =>
                  simp only [Bool.false_eq_true, if_false, Disk.appendAt, hget, hget',
                    List.nil_append]
                  exact hwritten executable hget
          | device device =>
              cases hends : Disk.endsInSeparator file with
              | true => exact .error _
              | false =>
                  simp only [Bool.false_eq_true, if_false, Disk.appendAt, hget, hget']
                  cases device with
                  | full =>
                      simp only [htext.eq_nil_iff σ]
                      split
                      · exact .ok h hd
                      · exact .error _
                  | _ => exact .ok h hd
          | _ =>
              cases hends : Disk.endsInSeparator file with
              | true => exact .error _
              | false =>
                  simp only [Bool.false_eq_true, if_false, Disk.appendAt, hget, hget']
                  exact .ok h hd

/-! ### The directory -/

/-- **The directory goes with all that is in it**, or the link that its name names. -/
theorem ends_removeTree (h : σ.Disks d d') (hhosts : σ.Hosts d) :
    σ.Ends (fun _ => True) (d.removeTree σ.path) (d'.removeTree σ.path) := by
  obtain ⟨l, hl, hends⟩ := Disk.exists_locateEntry hhosts.locate
  have hl' : d'.locateEntry σ.path = .ok l :=
    (Disk.locateWith_congr h.sameWays h.current).1 hl
  unfold Disk.removeTree Disk.findEntry
  rw [hl, hl']
  simp only [bind, Except.bind, Disk.lookAt]
  rcases hends with ⟨target, htarget⟩ | rfl
  · -- only the link goes, which is no copy
    rw [htarget, (h.sameWays.link l target).1 htarget]
    cases hseparator : Disk.endsInSeparator σ.path with
    | true => exact .error _
    | false =>
        have hlink : ∀ n, l ≠ σ.copyAt n := by
          rintro n rfl
          exact hhosts.not_link (.copy n) target htarget
        have hne : l ≠ [] := by
          rintro rfl
          simp [FileTree.get?] at htarget
        have herase := h.erase hne
        rw [σ.move_of_ne hlink] at herase
        exact .ok herase trivial
  · rw [hhosts.isDirectory, (h.hosts hhosts).isDirectory]
    exact .ok h.eraseBelow trivial

end Disks

end Renumbering

end LtoBridge
