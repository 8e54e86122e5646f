/-
**What a verbose session keeps.**

A verbose session keeps its temporary directory.  If the cleanup succeeds, the arguments file is
there as it was left, and no copy is there that was claimed.  But there may be nothing left of the
arguments file, since it is removed when the backend has succeeded; a part of a copy may be there
that could not be made; and if a copy cannot be deleted, the directory is removed after all.

Main definitions:

* `LtoBridge.Session.LeavesArguments`: what a run of the backend leaves of its arguments;
* `LtoBridge.Session.Evidence`: what is in the directory that is kept;
* `LtoBridge.Session.Abandons`: a cleanup that does not keep the directory.

Main results:

* `LtoBridge.Session.verbose_session_keeps_its_evidence`: **all that is kept**;
* `LtoBridge.Session.verbose_session_loses_evidence`: what is not kept.
-/

import LtoBridge.Proofs.Session.Arguments
import LtoBridge.Proofs.Session.Endings
import LtoBridge.Proofs.Session.Leftovers
import LtoBridge.Proofs.Session.Offers

set_option autoImplicit false

namespace LtoBridge.Session

variable {L : Type} [Linker L] {path : Path} {directory : Location}
  {s₀ s : Live (Traced (Machine L))}

/-! ### Runs of the backend -/

/-- **What a run of the backend leaves of its arguments**: all of them, or nothing if the backend
has succeeded. -/
def LeavesArguments (directory : Location) (s : Live (Traced (Machine L)))
    (cs : List (Call (Machine L))) (d : Disk) : Prop :=
  let found := d.contentsAt (directory ++ [Backend.argumentsName])
  found = some (ArgumentsFile.render s.session.backendArguments) ∨
    found = none ∧ ∃ process, launched cs = some process ∧ process.status.success = true

section

variable {cs before after : List (Call (Machine L))} {c created written : Call (Machine L)}
  {t : Traced (Machine L)}

/-- The backend finds its arguments, and leaves them alone. -/
theorem PreparedFor.leavesArguments (h : PreparedFor s.session cs c before after created written)
    (hext : s.world.Extends cs t) (hdirectory : s.session.temporaryDirectory = some path)
    (hhosts : Hosts s.world.world.disk path directory)
    (hthen : Hosts c.before.disk path directory)
    (hleaves : LeavesAlone path directory c.before c.after) :
    LeavesArguments directory s cs c.after.disk := by
  have hpath := argumentsPath_eq hdirectory
  obtain ⟨l, hl, hcontents⟩ :=
    Disk.exists_of_read (h.read hext (hpath ▸ hhosts.leadsToFile .arguments))
  rw [hpath] at hl
  obtain rfl := hthen.eq_of_locateWith .arguments hl
  refine .inl ((Disk.contentsAt_of_get?_eq ?_).trans (hcontents (hthen.isOpen _ .arguments)))
  exact hleaves.get? _ (.inr ⟨_, .arguments, rfl⟩)

/-- What is left of the arguments stays as it is once the backend has been run, or is removed. -/
theorem LeavesArguments.afterwards {process : Process} {ok : Bool}
    (h : LeavesArguments directory s cs c.before.disk) (hprocess : launched cs = some process)
    (hfollows : Follows (aftermath s.session (some process)) after ok) (hc : c ∈ after) :
    LeavesArguments directory s cs c.after.disk := by
  obtain hlinker | hremoved := eq_of_mem_aftermath (hfollows.effect_mem hc)
  · rwa [Machine.disk_after_of_still (.inr hlinker)]
  · cases hsucceeded : c.succeeded with
    | false => rwa [Call.disk_after_of_failed (.inr hremoved) hsucceeded]
    | true =>
        have hleft := Disk.contentsAt_remove (l := directory ++ [Backend.argumentsName])
          (Machine.remove_of_succeeded hremoved hsucceeded)
        split at hleft
        · exact .inr ⟨hleft, process, hprocess, success_of_removed hfollows hc hremoved⟩
        · rwa [LeavesArguments, hleft]

/-- After the backend has been run, nothing else is done to its arguments. -/
theorem PreparedFor.leavesArguments_end
    (h : PreparedFor s.session cs c before after created written) (hext : s.world.Extends cs t)
    {program : Path} {arguments : List Bytes} (hlaunch : c.effect = .launch program arguments)
    (hleft : LeavesArguments directory s cs c.after.disk) :
    LeavesArguments directory s cs t.world.disk := by
  have hcalls : visible cs = (before ++ [created, written]) ++ c :: after := by
    rw [h.calls]
    simp
  obtain ⟨pre, post, hsplit, -, hpost⟩ := visible_split hcalls
  obtain ⟨u, -, hbefore, hlater⟩ := (hsplit ▸ hext).split
  have hstart : (u.record c.effect).world = c.after := by
    rw [Call.after, hbefore]
    rfl
  refine hlater.invariant (P := fun m => LeavesArguments directory s cs m.disk) ?_
    (by rwa [hstart])
  intro d hd hleft
  cases hvisible : d.effect.visible with
  | false => rwa [Machine.disk_after_of_hidden hvisible]
  | true =>
      have hmem : d ∈ after := hpost ▸ List.mem_filter.2 ⟨hd, hvisible⟩
      obtain rfl | ⟨hrun, ok, hrest⟩ := h.rest
      · cases hmem
      · have hc : c ∈ cs := by
          rw [hsplit]
          simp
        obtain ⟨process, hprocess⟩ := exists_launched hc hlaunch hrun
        rw [hprocess] at hrest
        exact LeavesArguments.afterwards hleft hprocess hrest hmem

end

/-- **When all symbols have been read and the backend is run, its arguments are left**, unless it
succeeds. -/
theorem yields_allSymbolsRead_arguments (hdirectory : s.session.temporaryDirectory = some path)
    (hhosts : Hosts s.world.world.disk path directory)
    (hprograms : ProgramsObey (LeavesAlone path directory)
      (Operation.allSymbolsRead.after s).world.calls) :
    allSymbolsRead.Yields s fun _ cs s' => ∀ c ∈ cs, ∀ program arguments,
      c.effect = .launch program arguments →
        LeavesArguments directory s cs s'.world.world.disk := by
  by_cases hfiles : s.session.registry.files = []
  · refine yields_view_bind_iff.2 ?_
    rw [if_pos hfiles]
    refine ⟨_, .single _ _, fun c hc program arguments hlaunch => ?_⟩
    rw [List.mem_singleton.1 hc] at hlaunch
    cases hlaunch
  · obtain ⟨cs, hext, hfollows, -⟩ := yields_allSymbolsRead hfiles
    obtain ⟨cs', hext', hwithin⟩ := yields_allSymbolsRead_within s
    obtain rfl := hext'.unique hext
    rw [hdirectory] at hwithin
    refine ⟨cs', hext, fun c hc program arguments hlaunch => ?_⟩
    have hleaves : ∀ d ∈ cs', ∀ program arguments, d.effect = .launch program arguments →
        LeavesAlone path directory d.before d.after := fun d hd => hprograms d (hext.subset hd)
    have hthen : Hosts c.before.disk path directory :=
      hext.before (P := fun m => Hosts m.disk path directory)
        (fun d hd h => (h.leaves (hwithin d hd) (hleaves d hd) .arguments).1) hhosts c hc
    obtain ⟨-, before, after, created, written, hprepared⟩ :=
      preparedFor_of_follows hfollows (List.mem_filter.2 ⟨hc, by rw [hlaunch]; rfl⟩) hlaunch
    have hleft := hprepared.leavesArguments hext hdirectory hhosts hthen
      (hleaves c hc program arguments hlaunch)
    exact hprepared.leavesArguments_end hext hlaunch hleft

/-! ### Cleanups -/

/-- **What is in the directory that is kept**: the arguments file as the calls of the session left
it, and no copies but parts of copies that could not be made, or resolutions that were written
there. -/
structure Evidence (path : Path) (directory : Location) (s₀ s : Live (Traced (Machine L)))
    (d : Disk) : Prop where
  hosts : Hosts d path directory
  arguments : d.contentsAt (directory ++ [Backend.argumentsName]) =
    leftAt (directory ++ [Backend.argumentsName]) s.world.calls
  copies : ∀ number, d.tree.get? (copyAt directory number) ≠ none →
    IsLeftBehind path directory s₀ s number ∨ IsWrittenOver directory s number

/-- **A cleanup does not keep the directory**: a copy cannot be deleted, and the last thing that is
done is to remove the directory with all that is in it. -/
structure Abandons (path : Path) (s : Live (Traced (Machine L))) (cs : List (Call (Machine L)))
    (d : Disk) : Prop where
  failed : ∃ file ∈ s.session.temporaryPaths, ∃ c ∈ cs,
    c.effect = .removeFile file ∧ c.succeeded = false
  removed : ∃ tree, (visible cs).getLast? = some tree ∧ tree.effect = .removeTree path ∧
    (tree.succeeded = true → d.IsGone path)

section

variable {cs : List (Call (Machine L))} {t : Traced (Machine L)}

/-- What was accounted for is kept if only the copies are deleted. -/
theorem Inventory.evidence (h : Inventory path directory s₀ s)
    (hcopies : ∀ kept ∈ s.session.temporaryPaths, ∃ number, kept = Claim.memberPath path number)
    (hext : s.world.Extends cs t) (htakes : ∀ c ∈ cs, c.effect.onlyTakes = true)
    (hcalls : Follows (s.session.deletionScript ++ [.call .releaseSymbols]) (visible cs) true) :
    Evidence path directory s₀ s t.world.disk := by
  have hwithin : ∀ c ∈ cs, IsWithin (some path) none c.effect :=
    isWithin_of_visible fun c hc => isWithin_of_mem_deletions hcopies (hcalls.effect_mem hc)
  have hhosts : Hosts t.world.disk path directory := by
    refine hext.invariant (P := fun m => Hosts m.disk path directory) ?_ h.hosts
    refine fun c hc hhosts => (hhosts.leaves (hwithin c hc) ?_ .arguments).1
    intro program arguments hlaunch
    have htaken := htakes c hc
    rw [hlaunch] at htaken
    cases htaken
  refine ⟨hhosts, ?_, fun number hthere => ?_⟩
  · rw [← h.contents _ .arguments]
    obtain hsame | ⟨file, hfile, hl, -⟩ :=
      get?_of_deletions hext htakes hcalls (directory ++ [Backend.argumentsName])
    · exact Disk.contentsAt_of_get?_eq hsame
    · obtain ⟨number, rfl⟩ := hcopies file hfile
      have hname := h.hosts.eq_of_locateWith (.copy number) hl
      exact absurd (List.singleton_inj.1 (List.append_cancel_left hname)).symm
        (Claim.memberName_ne_argumentsName number)
  · have hearlier : s.world.world.disk.tree.get? (copyAt directory number) ≠ none := by
      obtain hsame | hnone := (hext.loses htakes).tree (copyAt directory number)
      · rwa [← hsame]
      · exact absurd hnone hthere
    refine (h.copies number hearlier).resolve_left fun hknown => ?_
    -- a copy that is known has been deleted
    have hspot := hhosts.isSpot_of_short (.copy number) hknown.short.1 hknown.short.2
    have hgone := isGone_of_deletions hext htakes (List.filter_subset_self _) hcalls _ hknown.mem
    exact hthere (hgone _ hspot.locateEntry)

/-- **A cleanup of a verbose session** keeps the directory, or abandons it. -/
theorem yields_cleanup_verbose (hverbose : s.session.options.verbose = true)
    (hdirectory : s.session.temporaryDirectory = some path)
    (hroot : ∀ d : Disk, d.locateEntry path ≠ .ok []) :
    cleanup.Yields s fun r cs s' =>
      (r.isOk = true → Follows (s.session.deletionScript ++ [.call .releaseSymbols])
        (visible cs) true ∧ ∀ c ∈ cs, c.effect.onlyTakes = true) ∧
      (r.isOk = false → Abandons path s cs s'.world.world.disk) := by
  obtain ⟨cs, hext, hteardown⟩ := yields_cleanup_teardown hdirectory
  refine ⟨cs, hext, ?_⟩
  have htakes := hteardown.onlyTakes
  cases hteardown with
  | stopped before tree hr hcalls hbefore htree hsession =>
      refine ⟨fun hok => (nomatch hr.symm.trans hok), fun _ => ⟨?_, tree, ?_, htree, ?_⟩⟩
      · obtain ⟨file, hfile, c, hc, heffect, hfailed⟩ := exists_failed_deletion hbefore
        refine ⟨file, hfile, c, List.filter_subset_self _ (?_ : c ∈ visible cs), heffect, hfailed⟩
        rw [hcalls]
        exact List.mem_append_left _ hc
      · rw [hcalls, List.getLast?_concat]
      · intro hremoved
        have hmem : tree ∈ visible cs := by
          rw [hcalls]
          exact List.mem_append_right _ (List.mem_singleton_self _)
        refine hext.isGone_of_removed htakes (List.filter_subset_self _ hmem) ?_
        exact Disk.isGone_of_removeTree (Machine.removeTree_of_succeeded htree hremoved) (hroot _)
  | kept _ hr hcalls hsession =>
      rw [hr]
      exact ⟨fun _ => ⟨hcalls, htakes⟩, nofun⟩
  | removed before arguments tree hquiet _ _ _ _ _ _ =>
      rw [hverbose] at hquiet
      cases hquiet

end

/-! ### Everything that is kept -/

/-- **A verbose session keeps its evidence.**  It begins by making a directory where nothing was.
As long as others and the programs that are run leave its files alone: a cleanup that succeeds keeps
the directory, with the arguments file as it was left and without any copy that was claimed; and a
run of the backend leaves its arguments, unless the backend succeeds.  Whatever others do, a cleanup
only fails if a copy cannot be deleted, and then the directory is not kept. -/
theorem verbose_session_keeps_its_evidence {options : Options} {parent : Path} {m : Machine L}
    (hverbose : options.verbose = true) (hwhole : IsWhole m.disk.tree)
    (hbegin : startIn options parent { world := m } = (.ok s₀.session, s₀.world)) :
    ∃ path directory, s₀.session.temporaryDirectory = some path ∧
      Makes m s₀.world.world path directory ∧
      (∀ s, Later (LeavesAlone path directory) s₀ s → s.session.temporaryDirectory = some path →
        ProgramsObey (LeavesAlone path directory) s.world.calls →
        (cleanup.Yields s fun r _ s' => r.isOk = true →
          Evidence path directory s₀ s s'.world.world.disk) ∧
        (ProgramsObey (LeavesAlone path directory) (Operation.allSymbolsRead.after s).world.calls →
          allSymbolsRead.Yields s fun _ cs s' => ∀ c ∈ cs, ∀ program arguments,
            c.effect = .launch program arguments →
              LeavesArguments directory s cs s'.world.world.disk)) ∧
      ∀ s, Later (fun _ _ => True) s₀ s → s.session.temporaryDirectory = some path →
        cleanup.Yields s fun r cs s' =>
          r.isOk = false → Abandons path s cs s'.world.world.disk := by
  obtain ⟨path, directory, hsession, hmakes⟩ := makes_of_startIn hbegin
  have hdirectory : s₀.session.temporaryDirectory = some path := by rw [hsession]
  have hfiles : s₀.session.registry.files = [] := by rw [hsession]
  have hstays : ∀ {others : Machine L → Machine L → Prop} {s : Live (Traced (Machine L))},
      Later others s₀ s → s.session.options.verbose = true := by
    intro others s hlater
    obtain ⟨passThrough, hoptions⟩ := hlater.options
    rw [hoptions, hsession]
    exact hverbose
  have hbegins := inventory_of_startIn hwhole hbegin hmakes
  refine ⟨path, directory, hdirectory, hmakes, fun s hlater halive hprograms => ⟨?_, ?_⟩, ?_⟩
  · have hinventory := hlater.inventory hbegins hprograms halive
    have hcopies := hlater.temporaryPaths_eq hdirectory hfiles
    obtain ⟨cs, hext, hkeeps, -⟩ :=
      yields_cleanup_verbose (hstays hlater) halive hmakes.locateEntry_ne_root
    refine ⟨cs, hext, fun hr => ?_⟩
    obtain ⟨hcalls, htakes⟩ := hkeeps hr
    exact hinventory.evidence hcopies hext htakes hcalls
  · have hinventory := hlater.inventory hbegins hprograms halive
    exact fun hobey => yields_allSymbolsRead_arguments halive hinventory.hosts hobey
  · intro s hlater halive
    exact (yields_cleanup_verbose (hstays hlater) halive hmakes.locateEntry_ne_root).mono
      fun _ _ _ ⟨_, hfails⟩ => hfails

/-- Programs that change no files leave those of a session alone. -/
theorem programsObey_of_still {calls : List (Call (Machine L))}
    (h : (calls.all fun c => !(c.effect matches .launch _ _) ||
      (decide (c.after.disk.tree.nodes = c.before.disk.tree.nodes) &&
        decide (c.after.disk.current = c.before.disk.current))) = true) :
    ProgramsObey (LeavesAlone path directory) calls := by
  intro c hc program arguments hlaunch
  have hstill := List.all_eq_true.1 h c hc
  rw [hlaunch] at hstill
  simp only [Bool.not_true, Bool.false_or, Bool.and_eq_true, decide_eq_true_eq] at hstill
  have hdisk : c.after.disk = c.before.disk := by
    obtain ⟨htree, hcurrent⟩ := hstill
    exact congrArg₂ Disk.mk (congrArg FileTree.mk htree) hcurrent
  exact ⟨fun hl => by rw [hdisk, hl], fun l _ => by rw [hdisk]⟩

/-- The backend is run, and the session is verbose. -/
def verboseOptions : Options := { verbose := true, backendWords := ["b"] }

/-- Where a session's directory is right below the root. -/
def startedLocation : Location := [Disk.numbered directoryStem 0]

theorem verbose_session_keeps_its_evidence_sample :
    let s := offeredStarted verboseOptions
    let s' := Operation.allSymbolsRead.after s
    let d := (cleanup s').2.world.world.disk
    -- the backend cannot be run, and its arguments are kept
    (∃ cs, s.world.Extends cs s'.world ∧ launched cs = none ∧
      LeavesArguments startedLocation s cs s'.world.world.disk) ∧
    Evidence startedPath startedLocation (started verboseOptions) s' d ∧
    d.contentsAt (startedLocation ++ [Backend.argumentsName]) =
      some (ArgumentsFile.render [Claim.memberPath startedPath 0]) ∧
    ∃ cs, Abandons startedPath (robbed verboseOptions) cs
      (cleanup (robbed verboseOptions)).2.world.world.disk := by
  intro s s' d
  obtain ⟨path, directory, hpath, hmakes, hkeeps, hfails⟩ := verbose_session_keeps_its_evidence
    (show verboseOptions.verbose = true from rfl) isWhole_archiveMachine
    (startIn_started verboseOptions)
  obtain rfl : path = startedPath := (Option.some.inj hpath).symm
  obtain rfl : directory = startedLocation := by
    have hlocate : archiveMachine.disk.locateEntry startedPath = .ok startedLocation := by
      decide +kernel
    exact Except.ok.inj (hmakes.locate.symm.trans hlocate)
  have hcleanup := (hkeeps s' (.operate _ (.operate _ .refl)) (by decide +kernel)
    (programsObey_of_still (by decide +kernel))).1
  obtain ⟨cs, hext, hrun⟩ := (hkeeps s (.operate _ .refl) (by decide +kernel)
    (programsObey_of_still (by decide +kernel))).2 (programsObey_of_still (by decide +kernel))
  have hcalls : cs = s'.world.calls.drop s.world.calls.length := by
    have happend : s'.world.calls = s.world.calls ++ cs := hext.calls_eq
    rw [happend, List.drop_left]
  obtain ⟨cs', -, hevidence⟩ := hcleanup
  obtain ⟨cs'', -, habandons⟩ := hfails _ (later_robbed verboseOptions) (by decide +kernel)
  refine ⟨⟨cs, hext, ?_, ?_⟩, hevidence (by decide +kernel), ?_, cs'', ?_⟩
  · rw [hcalls]
    decide +kernel
  · have hlaunch : (cs.any fun c => c.effect matches .launch _ _) = true := by
      rw [hcalls]
      decide +kernel
    obtain ⟨c, hc, hlaunch⟩ := List.any_eq_true.1 hlaunch
    cases heffect : c.effect with
    | launch program arguments => exact hrun c hc program arguments heffect
    | _ =>
        rw [heffect] at hlaunch
        cases hlaunch
  · rw [(hevidence (by decide +kernel)).arguments]
    decide +kernel
  · exact habandons (by decide +kernel)

/-- The machine with the archive, where every program succeeds. -/
def obligingMachine : Machine (BoundLinker (Watched RecordedLinker)) :=
  { archiveMachine with
    launcher := fun disk _ _ => (.ok { output := [], status := .exited 0 }, disk) }

/-- **A verbose session may lose its evidence**: when the backend has succeeded, the arguments file
is gone; when a copy cannot be deleted, the directory is gone; and the part of a copy that could not
be made is still there after the cleanup. -/
theorem verbose_session_loses_evidence :
    (let s := (Operation.offer memberInput).after (startedOn obligingMachine verboseOptions)
     let s' := Operation.allSymbolsRead.after s
     let d := (cleanup s').2.world.world.disk
     (s'.world.calls.any fun c => c.effect matches .launch _ _) = true ∧
       (cleanup s').1.isOk = true ∧ (d.findEntry startedPath).isOk = true ∧
       (d.findEntry (startedPath.join Backend.argumentsName)).isOk = false) ∧
    (let s := robbed verboseOptions
     (cleanup s).1.isOk = false ∧ (s.world.world.disk.findEntry startedPath).isOk = true ∧
       ((cleanup s).2.world.world.disk.findEntry startedPath).isOk = false) ∧
    (let s := (Operation.offer shortInput).after (started verboseOptions)
     (cleanup s).1.isOk = true ∧
       ((cleanup s).2.world.world.disk.findEntry (Claim.memberPath startedPath 0)).isOk =
         true) := by
  decide +kernel

end LtoBridge.Session
