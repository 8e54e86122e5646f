/-
**What a session leaves in its directory.**

As long as nobody else touches the temporary directory and the session's own files in it, everything
that is there can be accounted for.  The arguments file holds what the calls of the session left
there.  And where there is a copy of a member, the member was claimed, or its copying failed, or the
resolutions were written there.

Main definitions:

* `LtoBridge.Session.LeavesAlone`: what others must not touch;
* `LtoBridge.Session.IsAccountedFor`: why there is a copy;
* `LtoBridge.Session.Inventory`: all that is there is accounted for.

Main results:

* `LtoBridge.Session.yields_allSymbolsRead_copies`: how a copy can come to be there when all symbols
  have been read;
* `LtoBridge.Session.Later.inventory`: **everything can be accounted for in every state**.
-/

import LtoBridge.Proofs.Files.Contents
import LtoBridge.Proofs.Session.AppendOnly
import LtoBridge.Proofs.Session.OwnCalls

set_option autoImplicit false

namespace LtoBridge.Session

variable {L : Type} [Linker L] {path : Path} {directory : Location}

/-! ### What others must not touch -/

/-- Where a session has its directory and its own files. -/
def IsOwnLocation (directory l : Location) : Prop :=
  l = directory ∨ ∃ name, IsOwnName name ∧ l = directory ++ [name]

/-- **A change of a machine leaves a session's own files alone**: the name of the directory still
leads to it, and neither it nor any of these files is touched. -/
structure LeavesAlone (path : Path) (directory : Location) (m m' : Machine L) : Prop where
  locate : m.disk.locate path = .ok directory → m'.disk.locate path = .ok directory
  get? : ∀ l, IsOwnLocation directory l → m'.disk.tree.get? l = m.disk.tree.get? l

omit [Linker L] in
/-- A directory goes on hosting a session when its own files are left alone. -/
theorem Hosts.of_leavesAlone {m m' : Machine L} (h : Hosts m.disk path directory)
    (hleaves : LeavesAlone path directory m m') : Hosts m'.disk path directory where
  locate := hleaves.locate h.locate
  isDirectory := by rw [hleaves.get? _ (.inl rfl), h.isDirectory]
  isOpen name hname := by
    rw [Disk.isOpenTo, hleaves.get? _ (.inr ⟨name, hname, rfl⟩)]
    exact h.isOpen name hname

section

variable {c : Call (Machine L)} {resolutions : Option Path}

omit [Linker L] in
/-- Unless it runs a program, a call before the cleanup does not reach further than a file. -/
theorem IsWithin.reachesFurther {name? : Option Path} {e : Effect}
    (h : IsWithin name? resolutions e)
    (hlaunch : ∀ program arguments, e ≠ .launch program arguments) : e.reachesFurther = false := by
  refine Bool.eq_false_iff.2 fun hfar => ?_
  obtain ⟨hvisible, hlinker⟩ := Effect.visible_of_reachesFurther hfar
  cases h with
  | still h =>
      obtain h | h := h
      · rw [hvisible] at h
        cases h
      · rw [hlinker] at h
        cases h
  | launch program arguments h => exact hlaunch program arguments h
  | resolutions file hfile h =>
      rw [(Effect.visible_of_written h).2.2] at hfar
      cases hfar
  | entry path name hpath hname h =>
      obtain h | rfl := h
      · rw [(Effect.visible_of_written h).2.2] at hfar
        cases hfar
      · cases hfar

/-- What is removed before the cleanup has a name of the session's own. -/
theorem IsWithin.removed {name? : Option Path} {file : Path}
    (h : IsWithin name? resolutions (.removeFile file)) :
    ∃ path name, name? = some path ∧ IsOwnName name ∧ file = path.join name := by
  cases h with
  | still h => obtain ⟨⟨⟩⟩ | ⟨⟨⟩⟩ := h
  | launch _ _ h => cases h
  | resolutions file hfile h => cases h
  | entry path name hpath hname h =>
      obtain ⟨⟨⟩⟩ | h := h
      exact ⟨path, name, hpath, hname, Effect.removeFile.inj h⟩

/-- **A directory goes on hosting a session**, and each of its own files holds what a call leaves
there. -/
theorem Hosts.leaves (h : Hosts c.before.disk path directory)
    (hc : IsWithin (some path) resolutions c.effect)
    (hlaunch : ∀ program arguments, c.effect = .launch program arguments →
      LeavesAlone path directory c.before c.after) {name : Path} (hname : IsOwnName name) :
    Hosts c.after.disk path directory ∧ c.after.disk.contentsAt (directory ++ [name]) =
      c.leaves (directory ++ [name]) (c.before.disk.contentsAt (directory ++ [name])) := by
  by_cases hprogram : ∃ program arguments, c.effect = .launch program arguments
  · obtain ⟨program, arguments, heffect⟩ := hprogram
    have hleaves := hlaunch program arguments heffect
    refine ⟨h.of_leavesAlone hleaves, ?_⟩
    rw [Call.leaves_of_ne (by rw [heffect]; rfl) (by simp [heffect])]
    exact Disk.contentsAt_of_get?_eq (hleaves.get? _ (.inr ⟨name, hname, rfl⟩))
  · have hfar := hc.reachesFurther fun program arguments heffect =>
      hprogram ⟨program, arguments, heffect⟩
    refine ⟨?_, Call.contentsAt_after (h.isOpen name hname) hfar⟩
    cases c.changes hfar with
    | nothing hdisk hopened => rwa [hdisk]
    | written file l heffect hl hchange hopened => exact h.of_changesFile hchange
    | removed file l heffect hl hchange hopened =>
        rw [heffect] at hc
        obtain ⟨_, removed, ⟨⟩, hremoved, rfl⟩ := hc.removed
        obtain rfl := h.eq_of_locateWith hremoved hl
        exact h.of_changesFile (hchange (h.isOpen _ hremoved))

end

/-! ### Why there is a copy -/

section

variable {s₀ s : Live (Traced (Machine L))}

/-- Where the copy with a number is. -/
abbrev copyAt (directory : Location) (number : Nat) : Location :=
  directory ++ [Claim.memberName number]

/-- The copy with a number is one that a cleanup deletes, and its name is not too long. -/
structure IsKnownCopy (path : Path) (session : Session) (number : Nat) : Prop where
  mem : Claim.memberPath path number ∈ session.temporaryPaths
  short : (Claim.memberName number).length ≤ Disk.nameLimit ∧
    (Claim.memberPath path number).length < Disk.pathLimit

/-- **The copying of a member failed**, and a part of the copy with a number was left behind. -/
def IsLeftBehind (path : Path) (directory : Location) (s₀ s : Live (Traced (Machine L)))
    (number : Nat) : Prop :=
  ∃ s₁ input, Later (LeavesAlone path directory) s₀ s₁ ∧
    Later (LeavesAlone path directory) ((Operation.offer input).after s₁) s ∧
    input.isMember = true ∧ s₁.session.copied = number ∧
    ∃ failure : Failure,
      (claimFile input s₁).1 = .error (failure.within (.extracting input.offset input.path))

/-- **The resolutions were written** where the copy with a number is. -/
def IsWrittenOver (directory : Location) (s : Live (Traced (Machine L))) (number : Nat) : Prop :=
  ∃ c ∈ s.world.calls, ∃ file, s.session.options.resolutionFile = some file ∧
    c.effect.written? = some file ∧ c.before.disk.locate file = .ok (copyAt directory number)

/-- **It is known why there is a copy** with a number. -/
def IsAccountedFor (path : Path) (directory : Location) (s₀ s : Live (Traced (Machine L)))
    (number : Nat) : Prop :=
  IsKnownCopy path s.session number ∨ IsLeftBehind path directory s₀ s number ∨
    IsWrittenOver directory s number

theorem temporaryPaths_eq_copyPaths (session : Session) :
    session.temporaryPaths = copyPaths session.registry.identities := by
  simp [temporaryPaths, copyPaths, Registry.identities, List.filter_map, Function.comp_def,
    ClaimedFile.identity]

/-- What is known about a copy stays known until the cleanup. -/
theorem IsAccountedFor.after {number : Nat} (h : IsAccountedFor path directory s₀ s number)
    {op : Operation} (hop : op ≠ .cleanup) :
    IsAccountedFor path directory s₀ (op.after s) number := by
  obtain ⟨hmem, hshort⟩ | ⟨s₁, input, hs₁, hlater, hfailed⟩ | ⟨c, hc, file, hfile, hwritten⟩ := h
  · refine .inl ⟨?_, hshort⟩
    rw [temporaryPaths_eq_copyPaths] at hmem ⊢
    have hevolves : Evolves op s (op.after s) := evolves_after op s fun h => absurd h hop
    obtain ⟨rest, hrest⟩ := hevolves.continues.identities_prefix
    rw [← hrest, copyPaths, List.filter_append, List.map_append]
    exact List.mem_append_left _ hmem
  · exact .inr (.inl ⟨s₁, input, hs₁, .operate op hlater, hfailed⟩)
  · refine .inr (.inr ⟨c, calls_subset_after op s hc, file, ?_, hwritten⟩)
    obtain ⟨passThrough, hoptions⟩ := options_after op s
    rw [hoptions]
    exact hfile

/-- **Where there is a copy after an offer**, there was one before, or it is known where it comes
from. -/
theorem isAccountedFor_of_handled {input : InputFile} {number : Nat}
    {cs : List (Call (Machine L))} (hs : Later (LeavesAlone path directory) s₀ s)
    (hpath : path ≠ [])
    (h : Handled input path directory s (claimFile input s).1 cs ((Operation.offer input).after s))
    (hthere : ((Operation.offer input).after s).world.world.disk.tree.get?
      (copyAt directory number) ≠ none) :
    s.world.world.disk.tree.get? (copyAt directory number) ≠ none ∨
      IsAccountedFor path directory s₀ ((Operation.offer input).after s) number := by
  by_cases hnumber : number = s.session.copied
  · subst hnumber
    cases h with
    | file found hmember hfound hdecided =>
        obtain ⟨-, -, -, journal, hw'⟩ := hdecided
        left
        rw [hw'] at hthere
        simpa using hthere
    | unplaced hmember hunplaced =>
        left
        rwa [hunplaced.world] at hthere
    | stuck hmember hspot hstuck =>
        exact .inr (.inr (.inl ⟨s, input, hs, .refl, hmember, rfl, hstuck.result⟩))
    | member bytes readPlan hmember hspot hbytes hdecided =>
        by_cases hr : (claimFile input s).1 = .ok true
        · obtain ⟨table, journal, -, hs', -⟩ := hdecided.of_claimed hr
          refine .inr (.inl ⟨?_, Disk.short_of_locateWith_join hpath
            (IsOwnName.copy s.session.copied).isEntryName hspot.locate⟩)
          rw [hs']
          refine mem_temporaryPaths.2 ⟨_, List.mem_append_right _ (List.mem_singleton_self _), ?_⟩
          exact ⟨hmember, rfl⟩
        · -- the copy is deleted again
          obtain ⟨-, journal, hw'⟩ := hdecided.of_unclaimed hr
          rw [hw'] at hthere
          refine absurd ?_ hthere
          exact (FileTree.get?_erase _ _ _ (by simp [copyLocation])).trans (if_pos rfl)
  · left
    rwa [h.spares.get? _ (ne_copyLocation hnumber)] at hthere

/-- When all symbols have been read, a call changes nothing where a copy is, unless it writes the
resolutions there. -/
theorem get?_copy_of_settling {c : Call (Machine L)} {session : Session} (number : Nat)
    (hc : IsSettling session c.effect) (hdirectory : session.temporaryDirectory = some path)
    (hhosts : Hosts c.before.disk path directory)
    (hlaunch : ∀ program arguments, c.effect = .launch program arguments →
      LeavesAlone path directory c.before c.after) :
    c.after.disk.tree.get? (copyAt directory number) =
        c.before.disk.tree.get? (copyAt directory number) ∨
      ∃ file, session.options.resolutionFile = some file ∧ c.effect.written? = some file ∧
        c.before.disk.locate file = .ok (copyAt directory number) := by
  by_cases hprogram : ∃ program arguments, c.effect = .launch program arguments
  · obtain ⟨program, arguments, heffect⟩ := hprogram
    exact .inl ((hlaunch program arguments heffect).get? _ (.inr ⟨_, .copy number, rfl⟩))
  · have hnone : ∀ program arguments, c.effect ≠ .launch program arguments :=
      fun program arguments heffect => hprogram ⟨program, arguments, heffect⟩
    have hother : copyAt directory number ≠ directory ++ [Backend.argumentsName] := by
      intro hl
      exact Claim.memberName_ne_argumentsName number
        (List.singleton_inj.1 (List.append_cancel_left hl))
    cases c.changes ((hc.isWithin hdirectory).reachesFurther hnone) with
    | nothing hdisk hopened => exact .inl (by rw [hdisk])
    | written file l heffect hl hchange hopened =>
        by_cases hcopy : copyAt directory number = l
        · obtain rfl | hfile := hc.written_cases heffect
          · rw [argumentsPath_eq hdirectory] at hl
            obtain rfl := hhosts.eq_of_locateWith .arguments hl
            exact absurd hcopy hother
          · exact .inr ⟨file, hfile, heffect, hl.trans (congrArg Except.ok hcopy.symm)⟩
        · exact .inl (hchange.get?_of_ne hcopy)
    | removed file l heffect hl hchange hopened =>
        have horderly : Orderly path directory c :=
          hc.orderly hdirectory fun program arguments h => absurd h (hnone program arguments)
        obtain rfl := horderly.removes file heffect
        obtain rfl := hhosts.eq_of_locateWith .arguments hl
        exact .inl ((hchange (hhosts.isOpen _ .arguments)).get?_of_ne hother)

/-- **Where there is a copy when all symbols have been read**, there was one before, or the
resolutions have been written there. -/
theorem yields_allSymbolsRead_copies (number : Nat)
    (hdirectory : s.session.temporaryDirectory = some path)
    (hhosts : Hosts s.world.world.disk path directory)
    (hprograms : ProgramsObey (LeavesAlone path directory)
      (Operation.allSymbolsRead.after s).world.calls)
    (hthere : (Operation.allSymbolsRead.after s).world.world.disk.tree.get?
      (copyAt directory number) ≠ none) :
    s.world.world.disk.tree.get? (copyAt directory number) ≠ none ∨
      IsWrittenOver directory (Operation.allSymbolsRead.after s) number := by
  obtain ⟨cs, hext, hcs, registry, outputs, passThrough, -, hs'⟩ :=
    yields_allSymbolsRead_settling s
  have hresolutions : (Operation.allSymbolsRead.after s).session.options.resolutionFile =
      s.session.options.resolutionFile := congrArg (·.options.resolutionFile) hs'
  -- each call finds the directory in place, and brings nothing but resolutions to the copy
  have hinvariant := hext.invariant (P := fun m => Hosts m.disk path directory ∧
    (m.disk.tree.get? (copyAt directory number) ≠ none →
      s.world.world.disk.tree.get? (copyAt directory number) ≠ none ∨
        IsWrittenOver directory (Operation.allSymbolsRead.after s) number)) ?_ ⟨hhosts, .inl⟩
  · exact hinvariant.2 hthere
  · rintro c hc ⟨hhosts, hbefore⟩
    have hcall := hext.subset hc
    have hwithin := (hcs c hc).isWithin hdirectory
    rw [hdirectory] at hwithin
    refine ⟨(hhosts.leaves hwithin (hprograms c hcall) .arguments).1, fun hafter => ?_⟩
    obtain hsame | ⟨file, hfile, hwritten, hl⟩ :=
      get?_copy_of_settling number (hcs c hc) hdirectory hhosts (hprograms c hcall)
    · rw [hsame] at hafter
      exact hbefore hafter
    · exact .inr ⟨c, hcall, file, hresolutions.trans hfile, hwritten, hl⟩

/-! ### Every state -/

/-- **All that is in the directory can be accounted for**: a file of the session's own holds what
the calls left there, and where there is a copy, it is known why. -/
structure Inventory (path : Path) (directory : Location) (s₀ s : Live (Traced (Machine L))) :
    Prop where
  hosts : Hosts s.world.world.disk path directory
  contents : ∀ name, IsOwnName name → s.world.world.disk.contentsAt (directory ++ [name]) =
    leftAt (directory ++ [name]) s.world.calls
  copies : ∀ number, s.world.world.disk.tree.get? (copyAt directory number) ≠ none →
    IsAccountedFor path directory s₀ s number

/-- When a session begins, no file has been written or removed. -/
theorem only_startIn (options : Options) (parent : Path) :
    Act.Only (fun e => e.written? = none ∧ ∀ file, e ≠ .removeFile file)
      (startIn (W := Traced (Machine L)) options parent) := by
  refine Act.Only.bind (.within fun t => .ofOsAt rfl fun c hc => ?_) fun path => ?_
  · rw [List.mem_singleton.1 hc]
    exact ⟨rfl, nofun⟩
  · exact Act.Only.bind (.change (fun _ => rfl) ⟨rfl, nofun⟩) fun _ => .pure _

/-- **A session begins with a directory that is accounted for.** -/
theorem inventory_of_startIn {options : Options} {parent : Path} {m : Machine L}
    (hwhole : IsWhole m.disk.tree)
    (hbegin : startIn options parent { world := m } = (.ok s₀.session, s₀.world))
    (hmakes : Makes m s₀.world.world path directory) : Inventory path directory s₀ s₀ := by
  have hnothing : ∀ name, s₀.world.world.disk.tree.get? (directory ++ [name]) = none :=
    fun name => hmakes.empty hwhole (List.prefix_append _ _) (by simp)
  refine ⟨⟨hmakes.locateWith true, ?_, fun name _ => ?_⟩, fun name _ => ?_, fun number hthere => ?_⟩
  · rw [hmakes.get?, if_pos rfl]
  · exact Disk.isOpenTo_of_none (hnothing name)
  · obtain ⟨cs, hext, hcs⟩ := only_startIn options parent { world := m }
    rw [hbegin] at hext
    have hcalls : s₀.world.calls = cs := hext.calls_eq
    rw [Disk.contentsAt, hnothing, hcalls, leftAt]
    -- the calls leave everything as it was
    clear hext hcalls
    induction cs with
    | nil => rfl
    | cons c cs ih =>
        obtain ⟨hwritten, hremoved⟩ := hcs c List.mem_cons_self
        rw [List.foldl_cons, Call.leaves_of_ne hwritten hremoved]
        exact ih fun d hd => hcs d (List.mem_cons_of_mem _ hd)
  · exact absurd (hnothing _) hthere

/-- What an operation leaves can be accounted for. -/
theorem Inventory.after (h : Inventory path directory s₀ s)
    (hs : Later (LeavesAlone path directory) s₀ s) {op : Operation} (hop : op ≠ .cleanup)
    (hdirectory : s.session.temporaryDirectory = some path)
    (hprograms : ProgramsObey (LeavesAlone path directory) (op.after s).world.calls) :
    Inventory path directory s₀ (op.after s) := by
  have hcontents : ∀ name, IsOwnName name → Hosts (op.after s).world.world.disk path directory ∧
      (op.after s).world.world.disk.contentsAt (directory ++ [name]) =
        leftAt (directory ++ [name]) (op.after s).world.calls := by
    intro name hname
    obtain ⟨cs, hext, hcs⟩ := isWithin_after hop s
    rw [hdirectory] at hcs
    obtain ⟨hhosts, hleft⟩ := hext.foldl (P := fun m => Hosts m.disk path directory)
      (f := fun m => m.disk.contentsAt (directory ++ [name]))
      (fun c hc hhosts => hhosts.leaves (hcs c hc) (hprograms c (hext.subset hc)) hname) h.hosts
    refine ⟨hhosts, hleft.trans ?_⟩
    rw [h.contents name hname, leftAt, leftAt, ← List.foldl_append, ← hext.calls_eq]
  refine ⟨(hcontents _ .arguments).1, fun name hname => (hcontents name hname).2, ?_⟩
  intro number hthere
  have hearlier : s.world.world.disk.tree.get? (copyAt directory number) ≠ none →
      IsAccountedFor path directory s₀ (op.after s) number :=
    fun hbefore => (h.copies number hbefore).after hop
  cases op with
  | offer input =>
      obtain ⟨cs, -, hhandled⟩ := yields_claimFile_handled hdirectory h.hosts input
      exact (isAccountedFor_of_handled hs h.hosts.path_ne_nil hhandled hthere).elim hearlier id
  | allSymbolsRead =>
      exact (yields_allSymbolsRead_copies number hdirectory h.hosts hprograms hthere).elim hearlier
        fun hwritten => .inr (.inr hwritten)
  | release => exact hearlier hthere
  | cleanup => exact absurd rfl hop

/-- What others leave alone can be accounted for as before. -/
theorem Inventory.of_leavesAlone {m : Machine L} (h : Inventory path directory s₀ s)
    (hleaves : LeavesAlone path directory s.world.world m) :
    Inventory path directory s₀ { s with world := { s.world with world := m } } where
  hosts := h.hosts.of_leavesAlone hleaves
  contents name hname :=
    (Disk.contentsAt_of_get?_eq (hleaves.get? _ (.inr ⟨name, hname, rfl⟩))).trans
      (h.contents name hname)
  copies number hthere := by
    dsimp only at hthere
    rw [hleaves.get? _ (.inr ⟨_, .copy number, rfl⟩)] at hthere
    obtain hknown | ⟨s₁, input, hs₁, hlater, hfailed⟩ | hwritten := h.copies number hthere
    · exact .inl hknown
    · exact .inr (.inl ⟨s₁, input, hs₁, .meanwhile hlater hleaves, hfailed⟩)
    · exact .inr (.inr hwritten)

/-- **Everything can be accounted for in every state**, up to the cleanup. -/
theorem Later.inventory (h : Later (LeavesAlone path directory) s₀ s)
    (hbegin : Inventory path directory s₀ s₀)
    (hprograms : ProgramsObey (LeavesAlone path directory) s.world.calls)
    (hdirectory : s.session.temporaryDirectory = some path) : Inventory path directory s₀ s := by
  induction h with
  | refl => exact hbegin
  | @operate s op h ih =>
      obtain ⟨hop, hbefore⟩ := ne_cleanup_of_temporaryDirectory hdirectory
      have hearlier := ih (fun c hc => hprograms c (calls_subset_after op s hc)) hbefore
      exact hearlier.after h hop hbefore hprograms
  | meanwhile h hleaves ih => exact (ih hprograms hdirectory).of_leavesAlone hleaves

end

end LtoBridge.Session
