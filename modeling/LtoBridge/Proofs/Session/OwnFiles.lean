/-
**A session only touches its own files.**

As long as the name of the temporary directory leads nowhere else, and no links are put in place of
the session's own files, every change that the session makes to files is in that directory, or it is
to the resolution file when all symbols have been read.  Others may do what they like in all other
respects, and so may the backend.

Main definitions:

* `LtoBridge.Disk.ChangesAt`: a change of a disk is about one location;
* `LtoBridge.Session.Confines`: a session's own names lead nowhere else;
* `LtoBridge.Session.OnlyOwn`: a call changes nothing but a session's own files.

Main results:

* `LtoBridge.Session.Later.confines`: the session itself never breaks out;
* `LtoBridge.Session.session_keeps_to_its_own_files`: **all that a session changes**;
* `LtoBridge.Session.input_overwritten_by_resolutions`: the resolution file may be an input file.
-/

import LtoBridge.Proofs.Session.Endings
import LtoBridge.Proofs.Session.Offers
import LtoBridge.Proofs.Session.OwnCalls

set_option autoImplicit false

namespace LtoBridge

/-! ### Changes in one place -/

/-- **The change of a disk is about one location**, and names lead where they did. -/
structure Disk.ChangesAt (d d' : Disk) (l : Location) : Prop where
  ways : d.tree.SameWays d'.tree
  current : d'.current = d.current
  get? : ∀ l', l' ≠ l → d'.tree.get? l' = d.tree.get? l'

namespace Disk.ChangesAt

variable {d d' : Disk} {l : Location}

theorem of_eq (h : d' = d) (l : Location) : d.ChangesAt d' l := by
  subst h
  exact ⟨.refl _, rfl, fun _ _ => rfl⟩

theorem of_changesFile (h : d.ChangesFile d' l) : d.ChangesAt d' l :=
  ⟨h.sameWays, h.current_eq, fun _ hne => h.get?_of_ne hne⟩

theorem erase {n : Node} (hget : d.tree.get? l = some n) (hdirectory : n ≠ .directory)
    (hlink : ∀ target, n ≠ .link target) : d.ChangesAt { d with tree := d.tree.erase l } l where
  ways := sameWays_erase_of_ne (by simpa [hget] using hdirectory) (by simpa [hget] using hlink)
  current := rfl
  get? l' hne :=
    (FileTree.get?_erase _ _ _ (ne_nil_of_get? hget hdirectory)).trans (if_neg hne)

end Disk.ChangesAt

variable {L : Type} [Linker L]

namespace Session

variable {path : Path} {directory : Location}

/-! ### Names that lead nowhere else -/

/-- **The names of a session lead nowhere else**: that of its directory leads to one location, or
nowhere, and there are no links in place of the session's own files. -/
structure Confines (d : Disk) (path : Path) (directory : Location) : Prop where
  ne_nil : path ≠ []
  locate : ∀ toEnd l, d.locateWith toEnd path = .ok l → l = directory
  link : ∀ name, IsOwnName name → ∀ target,
    d.tree.get? (directory ++ [name]) ≠ some (.link target)

namespace Confines

variable {d d' : Disk} {name : Path} {l : Location}

/-- A name of the session's own leads to an entry of the directory. -/
theorem eq_of_locateWith {toEnd : Bool} (h : Confines d path directory) (hname : IsOwnName name)
    (hl : d.locateWith toEnd (path.join name) = .ok l) : l = directory ++ [name] := by
  obtain ⟨parent, hparent, -, hlast⟩ :=
    Disk.lastStep_of_locateWith_join h.ne_nil hname.isEntryName hl
  obtain rfl := h.locate true parent hparent
  exact hlast (.inr (h.link name hname))

/-- The session's names lead nowhere else after a change in one place. -/
theorem of_changesAt (h : Confines d path directory) (hchange : d.ChangesAt d' l) :
    Confines d' path directory where
  ne_nil := h.ne_nil
  locate toEnd l' hl' :=
    h.locate toEnd l' ((Disk.locateWith_congr hchange.ways hchange.current).2 hl')
  link name hname target hlink := h.link name hname target ((hchange.ways.link _ target).2 hlink)

end Confines

/-- **A change of a machine keeps a session confined**: whatever else is done, the session's names
lead nowhere else than before. -/
def KeepsConfined (path : Path) (directory : Location) (m m' : Machine L) : Prop :=
  Confines m.disk path directory → Confines m'.disk path directory

/-! ### What a call changes -/

/-- **A place where a call of a session may change something**: it is in the directory, or the call
writes the resolution file there. -/
def IsOwnPlace (directory : Location) (resolutions : Option Path) (c : Call (Machine L))
    (l : Location) : Prop :=
  directory <+: l ∨ ∃ file, resolutions = some file ∧ c.effect.written? = some file ∧
    c.before.disk.locate file = .ok l

/-- **A call changes nothing but a session's own files.** -/
def OnlyOwn (directory : Location) (resolutions : Option Path) (c : Call (Machine L)) : Prop :=
  ∀ l, c.after.disk.tree.get? l ≠ c.before.disk.tree.get? l → IsOwnPlace directory resolutions c l

section

variable {c : Call (Machine L)} {name? resolutions : Option Path}

theorem onlyOwn_of_eq (h : c.after.disk = c.before.disk) : OnlyOwn directory resolutions c :=
  fun l hl => absurd (by rw [h]) hl

/-- **What a call before the cleanup changes**, unless it runs the backend, is one of the session's
own files. -/
theorem changesAt_of_isWithin (h : IsWithin name? resolutions c.effect)
    (hlaunch : ∀ program arguments, c.effect ≠ .launch program arguments)
    (hconfines : ∀ path, name? = some path → Confines c.before.disk path directory) :
    ∃ l, c.before.disk.ChangesAt c.after.disk l ∧
      (c.after.disk = c.before.disk ∨ IsOwnPlace directory resolutions c l) := by
  have hsame : c.after.disk = c.before.disk → ∃ l, c.before.disk.ChangesAt c.after.disk l ∧
      (c.after.disk = c.before.disk ∨ IsOwnPlace directory resolutions c l) :=
    fun hdisk => ⟨[], .of_eq hdisk [], .inl hdisk⟩
  -- the file that is written, if one is
  have hwritten : ∀ file, c.effect.written? = some file → c.after.disk = c.before.disk ∨
      ∃ l, c.before.disk.locate file = .ok l ∧ c.before.disk.ChangesAt c.after.disk l := by
    intro file hfile
    cases c.changes (Effect.visible_of_written hfile).2.2 with
    | nothing hdisk hopened => exact .inl hdisk
    | written file' l heffect hl hchange hopened =>
        obtain rfl : file = file' := Option.some.inj (hfile.symm.trans heffect)
        exact .inr ⟨l, hl, .of_changesFile hchange⟩
    | removed file' l heffect hl hchange hopened =>
        rw [heffect] at hfile
        cases hfile
  cases h with
  | still h => exact hsame (Machine.disk_after_of_still h)
  | launch program arguments h => exact absurd h (hlaunch program arguments)
  | resolutions file hfile h =>
      obtain hdisk | ⟨l, hl, hchange⟩ := hwritten file h
      · exact hsame hdisk
      · exact ⟨l, hchange, .inr (.inr ⟨file, hfile, h, hl⟩)⟩
  | entry path name hpath hname h =>
      have hconfined := hconfines path hpath
      obtain h | h := h
      · obtain hdisk | ⟨l, hl, hchange⟩ := hwritten _ h
        · exact hsame hdisk
        · obtain rfl := hconfined.eq_of_locateWith hname hl
          exact ⟨_, hchange, .inr (.inl (List.prefix_append _ _))⟩
      · cases c.takes (by rw [h]; rfl) with
        | nothing hdisk => exact hsame hdisk
        | entry file l n heffect hl hget hn hdisk =>
            rw [h] at heffect
            obtain ⟨⟨⟩⟩ | ⟨⟨⟩⟩ := heffect
            obtain rfl := hconfined.eq_of_locateWith hname hl
            refine ⟨directory ++ [name], ?_, .inr (.inl (List.prefix_append _ _))⟩
            rw [hdisk]
            refine .erase hget hn fun target htarget => ?_
            exact hconfined.link name hname target (htarget ▸ hget)
        | tree file l heffect hl hget hdisk =>
            rw [h] at heffect
            cases heffect

/-- Such a call keeps to the session's own files. -/
theorem onlyOwn_of_isWithin (h : IsWithin name? resolutions c.effect)
    (hlaunch : ∀ program arguments, c.effect ≠ .launch program arguments)
    (hconfines : ∀ path, name? = some path → Confines c.before.disk path directory) :
    OnlyOwn directory resolutions c := by
  obtain ⟨l, hchange, hsame | hown⟩ := changesAt_of_isWithin h hlaunch hconfines
  · exact onlyOwn_of_eq hsame
  · intro l' hl'
    obtain rfl : l' = l := Classical.byContradiction fun hne => hl' (hchange.get? l' hne)
    exact hown

/-- Such a call keeps the session confined. -/
theorem Confines.after (hconfines : Confines c.before.disk path directory)
    (h : IsWithin (some path) resolutions c.effect)
    (hlaunch : ∀ program arguments, c.effect = .launch program arguments →
      KeepsConfined path directory c.before c.after) : Confines c.after.disk path directory := by
  by_cases hprogram : ∃ program arguments, c.effect = .launch program arguments
  · obtain ⟨program, arguments, heffect⟩ := hprogram
    exact hlaunch program arguments heffect hconfines
  · obtain ⟨l, hchange, -⟩ := changesAt_of_isWithin h
      (fun program arguments heffect => hprogram ⟨program, arguments, heffect⟩)
      (fun path' hpath' => Option.some.inj hpath' ▸ hconfines)
    exact hconfines.of_changesAt hchange

/-- The directory itself is removed with all that is in it, and nothing else. -/
theorem onlyOwn_of_removeTree (hconfines : Confines c.before.disk path directory)
    (h : c.effect = .removeTree path) : OnlyOwn directory resolutions c := by
  have hlocated : ∀ l, c.before.disk.locateEntry path = .ok l → l = directory :=
    hconfines.locate _
  cases c.takes (by rw [h]; rfl) with
  | nothing hdisk => exact onlyOwn_of_eq hdisk
  | entry file l n heffect hl hget hn hdisk =>
      rw [h] at heffect
      obtain ⟨⟨⟩⟩ | ⟨⟨⟩⟩ := heffect
      obtain rfl := hlocated l hl
      intro l' hl'
      rw [hdisk] at hl'
      have herase := FileTree.get?_erase c.before.disk.tree l l' (Disk.ne_nil_of_get? hget hn)
      by_cases hsame : l' = l
      · exact .inl (hsame ▸ List.prefix_rfl)
      · exact absurd (herase.trans (if_neg hsame)) hl'
  | tree file l heffect hl hget hdisk =>
      rw [h] at heffect
      cases heffect
      obtain rfl := hlocated l hl
      intro l' hl'
      by_cases hroot : l = []
      · exact .inl (hroot ▸ List.nil_prefix)
      · rw [hdisk] at hl'
        have herase := FileTree.get?_eraseBelow c.before.disk.tree l l' hroot
        by_cases hbelow : l <+: l'
        · exact .inl hbelow
        · rw [← List.isPrefixOf_iff_prefix] at hbelow
          exact absurd (herase.trans (if_neg hbelow)) hl'

end

/-! ### Every operation -/

section

variable {s₀ s : Live (Traced (Machine L))}

section

variable {cs : List (Call (Machine L))} {t : Traced (Machine L)} {resolutions : Option Path}

/-- The session is confined before each of its calls, and after the last one. -/
theorem confines_throughout (hext : s.world.Extends cs t)
    (hcs : ∀ c ∈ cs, IsWithin (some path) resolutions c.effect)
    (hprograms : ProgramsObey (KeepsConfined path directory) cs)
    (hconfines : Confines s.world.world.disk path directory) :
    (∀ c ∈ cs, Confines c.before.disk path directory) ∧ Confines t.world.disk path directory := by
  have hkeep : ∀ c ∈ cs, Confines c.before.disk path directory →
      Confines c.after.disk path directory := fun c hc h => h.after (hcs c hc) (hprograms c hc)
  exact ⟨hext.before (P := fun m => Confines m.disk path directory) hkeep hconfines,
    hext.invariant (P := fun m => Confines m.disk path directory) hkeep hconfines⟩

/-- The calls of a session that is confined keep to its own files. -/
theorem onlyOwn_throughout (hext : s.world.Extends cs t)
    (hcs : ∀ c ∈ cs, IsWithin (some path) resolutions c.effect)
    (hprograms : ProgramsObey (KeepsConfined path directory) cs)
    (hconfines : Confines s.world.world.disk path directory) :
    ∀ c ∈ cs, (∀ program arguments, c.effect ≠ .launch program arguments) →
      OnlyOwn directory resolutions c := by
  intro c hc hlaunch
  refine onlyOwn_of_isWithin (hcs c hc) hlaunch fun path' hpath' => ?_
  exact Option.some.inj hpath' ▸ (confines_throughout hext hcs hprograms hconfines).1 c hc

end

/-- An operation other than the cleanup keeps the session confined. -/
theorem confines_after {op : Operation} (hop : op ≠ .cleanup)
    (hdirectory : s.session.temporaryDirectory = some path)
    (hconfines : Confines s.world.world.disk path directory)
    (hprograms : ProgramsObey (KeepsConfined path directory) (op.after s).world.calls) :
    Confines (op.after s).world.world.disk path directory := by
  obtain ⟨cs, hext, hcs⟩ := isWithin_after hop s
  rw [hdirectory] at hcs
  exact (confines_throughout hext hcs (fun c hc => hprograms c (hext.subset hc)) hconfines).2

/-- **The session never breaks out**, as long as others and the programs that are run do not help
it. -/
theorem Later.confines (h : Later (KeepsConfined path directory) s₀ s)
    (hconfines : Confines s₀.world.world.disk path directory)
    (hprograms : ProgramsObey (KeepsConfined path directory) s.world.calls)
    (hdirectory : s.session.temporaryDirectory = some path) :
    Confines s.world.world.disk path directory := by
  induction h with
  | refl => exact hconfines
  | @operate s op h ih =>
      obtain ⟨hop, hbefore⟩ := ne_cleanup_of_temporaryDirectory hdirectory
      refine confines_after hop hbefore (ih (fun c hc => ?_) hbefore) hprograms
      exact hprograms c (calls_subset_after op s hc)
  | meanwhile h hothers ih => exact hothers (ih hprograms hdirectory)

/-- **A cleanup keeps to the session's own files.** -/
theorem onlyOwn_cleanup
    (hcopies : ∀ kept ∈ s.session.temporaryPaths, ∃ number, kept = Claim.memberPath path number)
    (hdirectory : s.session.temporaryDirectory = some path)
    (hconfines : Confines s.world.world.disk path directory)
    (hprograms : ProgramsObey (KeepsConfined path directory)
      (Operation.cleanup.after s).world.calls) :
    ∃ cs, s.world.Extends cs (Operation.cleanup.after s).world ∧ ∀ c ∈ cs,
      (∀ program arguments, c.effect ≠ .launch program arguments) → OnlyOwn directory none c := by
  obtain ⟨cs, hext, hteardown⟩ := yields_cleanup_teardown hdirectory
  refine ⟨cs, hext, ?_⟩
  obtain hcs | ⟨pre, tree, post, rfl, hpre, htree, hpost⟩ := hteardown.split hcopies
  · exact onlyOwn_throughout hext hcs (fun c hc => hprograms c (hext.subset hc)) hconfines
  · -- the directory is removed last, and up to that the session is confined
    obtain ⟨u, hsteps, hstart, -⟩ := hext.split
    have hobey : ProgramsObey (KeepsConfined path directory) pre :=
      fun c hc => hprograms c (hext.subset (List.mem_append_left _ hc))
    have hlast := (confines_throughout hsteps hpre hobey hconfines).2
    intro c hc hlaunch
    obtain hc | rfl | hc : c ∈ pre ∨ c = tree ∨ c ∈ post := by simpa using hc
    · exact onlyOwn_throughout hsteps hpre hobey hconfines c hc hlaunch
    · rw [← hstart] at hlast
      exact onlyOwn_of_removeTree hlast htree
    · refine onlyOwn_of_eq (Machine.disk_after_of_hidden ?_)
      simpa using List.filter_eq_nil_iff.1 hpost c hc

/-- **An operation keeps to the session's own files**, if the session is confined where it
begins. -/
theorem onlyOwn_after (op : Operation)
    (hcopies : ∀ kept ∈ s.session.temporaryPaths, ∃ number, kept = Claim.memberPath path number)
    (halive : s.session.temporaryDirectory = some path ∨ s.session.temporaryDirectory = none)
    (hconfines : s.session.temporaryDirectory = some path →
      Confines s.world.world.disk path directory)
    (hprograms : ProgramsObey (KeepsConfined path directory) (op.after s).world.calls) :
    ∃ cs, s.world.Extends cs (op.after s).world ∧ ∀ c ∈ cs,
      (∀ program arguments, c.effect ≠ .launch program arguments) →
        OnlyOwn directory (op.resolutionFile? s.session) c := by
  obtain hdirectory | hnone := halive
  · by_cases hop : op = .cleanup
    · subst hop
      exact onlyOwn_cleanup hcopies hdirectory (hconfines hdirectory) hprograms
    · obtain ⟨cs, hext, hcs⟩ := isWithin_after hop s
      rw [hdirectory] at hcs
      exact ⟨cs, hext, onlyOwn_throughout hext hcs (fun c hc => hprograms c (hext.subset hc))
        (hconfines hdirectory)⟩
  · by_cases hop : op = .cleanup
    · subst hop
      obtain ⟨cs, hext, hcs⟩ := (inert_cleanup hnone).quiet
      refine ⟨cs, hext, fun c hc hlaunch => onlyOwn_of_eq (Machine.disk_after_of_hidden ?_)⟩
      simpa using List.filter_eq_nil_iff.1 hcs c hc
    · obtain ⟨cs, hext, hcs⟩ := isWithin_after hop s
      rw [hnone] at hcs
      exact ⟨cs, hext, fun c hc hlaunch => onlyOwn_of_isWithin (hcs c hc) hlaunch nofun⟩

/-- **A file of the registry was made by the session**: it is the copy of a member that was claimed
earlier, and when it was made, its name led to an entry of the temporary directory. -/
def IsExtracted (path : Path) (directory : Location) (s₀ s : Live (Traced (Machine L)))
    (file : ClaimedFile) : Prop :=
  ∃ s₁ input, Later (KeepsConfined path directory) s₀ s₁ ∧ Extracts path input s₁ file.path ∧
    file.handle = input.handle ∧
    Later (KeepsConfined path directory) ((Operation.offer input).after s₁) s ∧
    ∃ c ∈ s.world.calls, c.effect = .createFile file.path ∧ c.succeeded = true ∧
      c.before.disk.locate file.path = .ok (directory ++ [Claim.memberName s₁.session.copied])

/-- **Every file that is marked as a copy was made by the session.** -/
theorem Later.isExtracted (h : Later (KeepsConfined path directory) s₀ s)
    (hdirectory : s₀.session.temporaryDirectory = some path)
    (hfiles : s₀.session.registry.files = [])
    (hconfines : Confines s₀.world.world.disk path directory)
    (hprograms : ProgramsObey (KeepsConfined path directory) s.world.calls) :
    ∀ file ∈ s.session.registry.files, file.temporary = true →
      IsExtracted path directory s₀ s file := by
  intro file hfile htemporary
  obtain ⟨s₁, input, hs₁, hextracts, hhandle, hlater⟩ := h.extracted hdirectory hfiles file.identity
    (List.mem_map_of_mem hfile) htemporary
  refine ⟨s₁, input, hs₁, hextracts, hhandle, hlater, ?_⟩
  obtain ⟨cs, hext, c, hc, hcreated, hsucceeded⟩ := hextracts.created
  have hcalls : cs ⊆ s.world.calls := fun d hd => hlater.calls_subset (hext.subset hd)
  refine ⟨c, hcalls hc, hcreated, hsucceeded, ?_⟩
  -- the session was confined when the copy was made
  have hbegin : Confines s₁.world.world.disk path directory := by
    refine hs₁.confines hconfines (fun d hd => hprograms d ?_) hextracts.directory
    exact hlater.calls_subset (calls_subset_after _ s₁ hd)
  obtain ⟨cs', hext', hcs', -⟩ := yields_claimFile_within hextracts.directory input
  obtain rfl := hext'.unique hext
  have hthen : Confines c.before.disk path directory :=
    (confines_throughout hext hcs' (fun d hd => hprograms d (hcalls hd)) hbegin).1 c hc
  obtain ⟨-, l, hl⟩ := Disk.locate_of_create (Machine.create_of_succeeded hcreated hsucceeded)
  have hname : file.path = Claim.memberPath path s₁.session.copied := hextracts.name
  change c.before.disk.locate file.path = .ok l at hl
  rw [hname] at hl ⊢
  rw [hl, hthen.eq_of_locateWith (.copy _) hl]

/-- **A session keeps to its own files.**  It begins by making a directory where nothing was.  From
then on, whatever is done with the session, as long as its names lead nowhere else: all that it
changes is in this directory, or is the resolution file, which is written when all symbols have been
read; and what it takes for copies it has made itself. -/
theorem session_keeps_to_its_own_files {options : Options} {parent : Path} {m : Machine L}
    (hwhole : IsWhole m.disk.tree)
    (hbegin : startIn options parent { world := m } = (.ok s₀.session, s₀.world)) :
    ∃ path directory, s₀.session.temporaryDirectory = some path ∧
      Makes m s₀.world.world path directory ∧
      ∀ s, Later (KeepsConfined path directory) s₀ s → ∀ op : Operation,
        ProgramsObey (KeepsConfined path directory) (op.after s).world.calls →
        (∃ cs, s.world.Extends cs (op.after s).world ∧ ∀ c ∈ cs,
          (∀ program arguments, c.effect ≠ .launch program arguments) →
            OnlyOwn directory (op.resolutionFile? s.session) c) ∧
        ∀ file ∈ s.session.registry.files, file.temporary = true →
          IsExtracted path directory s₀ s file := by
  obtain ⟨path, directory, hsession, hmakes⟩ := makes_of_startIn hbegin
  have hdirectory : s₀.session.temporaryDirectory = some path := by rw [hsession]
  have hfiles : s₀.session.registry.files = [] := by rw [hsession]
  have hconfines : Confines s₀.world.world.disk path directory := by
    refine ⟨?_, fun toEnd l hl => ?_, fun name _ target hlink => ?_⟩
    · obtain ⟨parent, n, hparent, rfl⟩ := hmakes.name
      exact join_ne_nil hparent _
    · exact Except.ok.inj (hl.symm.trans (hmakes.locateWith toEnd))
    · rw [hmakes.empty hwhole (List.prefix_append _ _) (by simp)] at hlink
      cases hlink
  refine ⟨path, directory, hdirectory, hmakes, fun s hlater op hprograms => ?_⟩
  have hearlier : ProgramsObey (KeepsConfined path directory) s.world.calls :=
    fun c hc => hprograms c (calls_subset_after op s hc)
  refine ⟨onlyOwn_after op (hlater.temporaryPaths_eq hdirectory hfiles) ?_ ?_ hprograms,
    hlater.isExtracted hdirectory hfiles hconfines hearlier⟩
  · rw [← hdirectory]
    exact hlater.temporaryDirectory
  · exact hlater.confines hconfines hearlier

end

theorem session_keeps_to_its_own_files_sample :
    let s := offeredStarted bypassOptions
    ∃ directory, Makes archiveMachine (started bypassOptions).world.world startedPath directory ∧
      (∃ cs, s.world.Extends cs (Operation.cleanup.after s).world ∧
        .removeTree startedPath ∈ cs.map (·.effect) ∧ ∀ c ∈ cs, OnlyOwn directory none c) ∧
      ∃ file ∈ s.session.registry.files, file.temporary = true ∧
        IsExtracted startedPath directory (started bypassOptions) s file := by
  intro s
  obtain ⟨path, directory, hpath, hmakes, hkeeps⟩ := session_keeps_to_its_own_files
    isWhole_archiveMachine (startIn_started bypassOptions)
  obtain rfl : path = startedPath := (Option.some.inj hpath).symm
  obtain ⟨⟨cs, hext, hcs⟩, hextracted⟩ := hkeeps s (.operate _ .refl) .cleanup
    (programsObey_of_all (by decide +kernel))
  have hcalls : cs = (Operation.cleanup.after s).world.calls.drop s.world.calls.length := by
    rw [hext.calls_eq, List.drop_left]
  have htree : Effect.removeTree startedPath ∈ cs.map (·.effect) := by
    rw [hcalls]
    decide +kernel
  have hnone : ProgramsObey (fun _ _ => False) cs := programsObey_of_all (by
    rw [hcalls]
    decide +kernel)
  refine ⟨directory, hmakes, ⟨cs, hext, htree, fun c hc => hcs c hc (hnone c hc)⟩, ?_⟩
  have hcopy : (s.session.registry.files.any (·.temporary)) = true := by decide +kernel
  obtain ⟨file, hfile, htemporary⟩ := List.any_eq_true.1 hcopy
  exact ⟨file, hfile, htemporary, hextracted file hfile htemporary⟩

/-- Claimed files go back to the linker, and the resolutions go to the file `/b`. -/
def overwritingOptions : Options := { bypassBackend := true, resolutionFile := some [47, 98] }

/-- **An input file may be written over**: the file `/b` is claimed, and when all symbols have been
read, the resolutions are written to it, without a run of the backend. -/
theorem input_overwritten_by_resolutions :
    let s := (Operation.offer fileInput).after (started overwritingOptions)
    let s' := Operation.allSymbolsRead.after s
    s.session.registry.files.map (fun file => (file.path, file.temporary)) = [([98], false)] ∧
      (s.world.world.disk.read [98]).toOption = some (sampleObject sampleTable.encode) ∧
      (s'.world.world.disk.read [98]).toOption ≠ some (sampleObject sampleTable.encode) ∧
      (s'.world.calls.all fun c => !(c.effect matches .launch _ _)) = true := by
  decide +kernel

end Session

end LtoBridge
