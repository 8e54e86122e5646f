/-
**The backend gets its arguments.**

When the backend is run, its arguments have just been written: the file was made and filled, and
nothing has been done to any file since.  So the backend finds in the file what was written, and its
reader gets back the arguments.

Main definitions:

* `LtoBridge.Disk.LeadsToFile`: a name leads to a file, or to nothing yet, or nowhere;
* `LtoBridge.Session.PreparedFor`: the calls right before the backend is run.

Main results:

* `LtoBridge.Session.preparedFor_of_follows`: the arguments are written before the backend is run;
* `LtoBridge.Session.backend_gets_its_arguments`: **the backend reads its arguments from the file**.
-/

import LtoBridge.Proofs.ArgumentsFile
import LtoBridge.Proofs.Session.KeptCopies

set_option autoImplicit false

namespace LtoBridge

/-! ### Names that lead to files -/

/-- **A name leads to a file, or to nothing yet, or nowhere.** -/
def Disk.LeadsToFile (d : Disk) (p : Path) : Prop :=
  ∀ l, d.locate p = .ok l → Disk.isOpenTo d.tree l

/-- Such a name can be written if it leads anywhere. -/
theorem Disk.LeadsToFile.isWritable {d d' : Disk} {p : Path} (h : d.LeadsToFile p)
    (hcreate : d.create p = .ok d') : d.isWritable p := by
  obtain ⟨-, l, hl⟩ := Disk.locate_of_create hcreate
  exact Disk.isWritable_iff.2 ⟨l, hl, h l hl⟩

theorem Disk.LeadsToFile.of_changesFile {d d' : Disk} {p : Path} {l : Location}
    (h : d.LeadsToFile p) (hchange : d.ChangesFile d' l) : d'.LeadsToFile p := fun l' hl' =>
  hchange.isOpenTo_of_isOpenTo
    (h l' ((Disk.locateWith_congr hchange.sameWays hchange.current_eq).2 hl'))

/-- Does a call neither remove anything nor reach further than a single file? -/
def Effect.isGentle : Effect → Bool
  | makeTemporaryDirectory _ _ | removeTree _ | removeFile _ | launch _ _ => false
  | _ => true

/-- What cannot be noticed is gentle. -/
theorem Effect.isGentle_of_hidden {e : Effect} (h : e.visible = false) : e.isGentle = true := by
  cases e with
  | makeTemporaryDirectory | removeTree | removeFile | launch => cases h
  | _ => rfl

variable {L : Type} [Linker L]

/-- Gentle calls leave names as they are. -/
theorem Disk.LeadsToFile.after {c : Call (Machine L)} {p : Path}
    (h : c.before.disk.LeadsToFile p) (hc : c.effect.isGentle = true) :
    c.after.disk.LeadsToFile p := by
  have hnear : c.effect.reachesFurther = false := by
    cases heffect : c.effect with
    | makeTemporaryDirectory | removeTree | launch =>
        rw [heffect] at hc
        cases hc
    | _ => rfl
  cases c.changes hnear with
  | nothing hdisk hopened => rwa [hdisk]
  | written file l heffect hl hchange hopened => exact h.of_changesFile hchange
  | removed file l heffect hl hchange hopened =>
      rw [heffect] at hc
      cases hc

namespace Session

/-! ### The calls before the backend is run -/

/-- The script up to the point where the arguments are written. -/
def preparation (session : Session) (text : Bytes) : List Step :=
  resolutionScript session text ++
    [.call .releaseSymbols, .require session.temporaryDirectory.isSome,
      .require session.options.backend?.isSome]

/-- The script once the backend has been run. -/
def aftermath (session : Session) (process : Option Process) : List Step :=
  takeIn process ++ [.call (.removeFile session.argumentsPath)] ++
    session.options.passThrough.flatMap passThroughScript

/-- In between, the arguments are written and the backend is run. -/
theorem script_eq {W : Type} [Platform W] {session : Session} (cs : List (Call W))
    (hbypass : session.options.bypassBackend = false) :
    script session cs =
      preparation session (ResolutionFile.render ⟨enterAll session.registry.files (answers cs)⟩) ++
        (argumentsScript session.argumentsPath session.backendArguments ++
          .call (.launch (Bytes.ofString (session.options.backend?.getD ""))
            [64 :: session.argumentsPath]) :: aftermath session (launched cs)) := by
  simp [script, fileScript, hbypass, backendScript, preparation, aftermath]

/-- Before the arguments are written, all is gentle. -/
theorem isGentle_of_mem_preparation {session : Session} {text : Bytes} {e : Effect}
    (h : Step.call e ∈ preparation session text) : e.isGentle = true := by
  unfold preparation resolutionScript at h
  split at h
  · simp only [List.nil_append, List.mem_cons, List.not_mem_nil, or_false, Step.call.injEq,
      reduceCtorEq] at h
    rw [h]
    rfl
  · simp only [List.mem_append, List.mem_cons, List.not_mem_nil, or_false, Step.call.injEq,
      reduceCtorEq, questions, List.mem_filterMap, Option.map_eq_some_iff] at h
    obtain (⟨file, -, table, -, rfl⟩ | rfl | rfl) | rfl := h <;> rfl

/-- Once the backend has been run, the linker is called and the arguments file is removed. -/
theorem eq_of_mem_aftermath {session : Session} {process : Option Process} {e : Effect}
    (h : Step.call e ∈ aftermath session process) :
    e.isLinker = true ∨ e = .removeFile session.argumentsPath := by
  rcases List.mem_append.1 h with h | h
  · rcases List.mem_append.1 h with h | h
    · cases process with
      | none => cases h
      | some process => exact .inl (isLinker_of_mem_processScript h)
    · exact .inr (Step.call.inj (List.mem_singleton.1 h))
  · obtain ⟨item, -, hitem⟩ := List.mem_flatMap.1 h
    obtain ⟨_, h⟩ | ⟨_, h⟩ := eq_of_mem_passThroughScript hitem
    · rw [Step.call.inj h]
      exact .inl rfl
    · rw [Step.call.inj h]
      exact .inl rfl

/-- No program is run afterwards. -/
theorem launch_not_mem_aftermath (session : Session) (process : Option Process) (program : Path)
    (arguments : List Bytes) :
    Step.call (.launch program arguments) ∉ aftermath session process := by
  intro h
  obtain ⟨⟨⟩⟩ | ⟨⟨⟩⟩ := eq_of_mem_aftermath h

/-- The arguments file is not removed unless the backend has succeeded. -/
theorem success_of_removed {W : Type} [Platform W] {session : Session} {process : Process}
    {cs : List (Call W)} {ok : Bool} (h : Follows (aftermath session (some process)) cs ok)
    {c : Call W} (hc : c ∈ cs) (hremoved : c.effect = .removeFile session.argumentsPath) :
    process.status.success = true := by
  have hprocess : Step.call c.effect ∉ processScript process := by
    rw [hremoved]
    exact fun hmem => nomatch isLinker_of_mem_processScript hmem
  rw [aftermath, List.append_assoc] at h
  -- all that must hold before it is removed held
  obtain ⟨before, _, -, hbefore, -⟩ := h.mem_right hc hprocess
  obtain ⟨-, -, hholds⟩ := hbefore.succeeds_iff.1 rfl
  exact hholds (.require process.status.success) (List.mem_append_right _ (by simp))

/-- No program is run that is not the backend. -/
theorem launch_not_mem_script_of_bypass {W : Type} [Platform W] {session : Session}
    (cs : List (Call W)) (hbypass : session.options.bypassBackend = true) (program : Path)
    (arguments : List Bytes) : Step.call (.launch program arguments) ∉ script session cs := by
  intro h
  rcases List.mem_append.1 h with h | h
  · exact launch_not_mem_resolutionScript _ _ _ _ h
  · rw [fileScript, if_pos hbypass] at h
    obtain ⟨file, -, h⟩ := List.mem_flatMap.1 h
    cases List.mem_singleton.1 h

/-- **All is prepared for a run of the backend**: right before it, the arguments file was made and
filled, and what was done before that was gentle.  If it can be run, the script is gone on with. -/
structure PreparedFor {W : Type} [Platform W] (session : Session) (cs : List (Call W)) (c : Call W)
    (before after : List (Call W)) (created written : Call W) : Prop where
  calls : visible cs = before ++ created :: written :: c :: after
  gentle : ∀ d ∈ before, d.effect.isGentle = true
  created : created.effect = .createFile session.argumentsPath ∧ created.succeeded = true
  written : written.effect = .appendFile session.argumentsPath
      (ArgumentsFile.render session.backendArguments) ∧ written.succeeded = true
  rest : after = [] ∨ c.succeeded = true ∧
    ∃ ok, Follows (aftermath session (launched cs)) after ok

/-- **In a script in which arguments are written before a program is run**, and no other program is
run, the program is run right after both calls for the arguments have succeeded. -/
theorem launch_of_follows {W : Type} [Platform W] {preparation rest : List Step} {path : Path}
    {words : List Bytes} {launch : Effect} {cs : List (Call W)} {ok : Bool}
    (h : Follows (preparation ++ (argumentsScript path words ++ .call launch :: rest)) cs ok)
    {c : Call W} (hc : c ∈ cs) {program : Path} {arguments : List Bytes}
    (hlaunch : c.effect = .launch program arguments)
    (hpreparation : Step.call (.launch program arguments) ∉ preparation)
    (hrest : Step.call (.launch program arguments) ∉ rest) :
    c.effect = launch ∧ ∃ before after created written,
      cs = before ++ created :: written :: c :: after ∧ Follows preparation before true ∧
      (created.effect = .createFile path ∧ created.succeeded = true) ∧
      (written.effect = .appendFile path (ArgumentsFile.render words) ∧
        written.succeeded = true) ∧
      (c.succeeded = true ∧ Follows rest after ok ∨
        c.succeeded = false ∧ after = [] ∧ ok = false) := by
  rw [← hlaunch] at hpreparation hrest
  obtain ⟨before, later, rfl, hbefore, hlater, hmem⟩ := h.mem_right hc hpreparation
  have harguments : Step.call c.effect ∉ argumentsScript path words := by
    rw [hlaunch]
    simp [argumentsScript]
  obtain ⟨own, later', rfl, hown, hlater', hmem'⟩ := hlater.mem_right hmem harguments
  -- both calls for the arguments were made, and succeeded
  obtain ⟨created, own', rfl, hcreated, ⟨hcreate, hown'⟩ | ⟨-, -, ⟨⟩⟩⟩ := hown.of_call
  obtain ⟨written, own'', rfl, hwritten, ⟨hwrite, hown''⟩ | ⟨-, -, ⟨⟩⟩⟩ := hown'.of_call
  cases hown''
  -- the call comes next, since no program is run later
  obtain ⟨c', after, rfl, hc', hafter⟩ := hlater'.of_call
  have hnext : c = c' := by
    refine (List.mem_cons.1 hmem').resolve_right fun hlast => ?_
    obtain ⟨-, hafter⟩ | ⟨-, rfl, -⟩ := hafter
    · exact hrest (hafter.effect_mem hlast)
    · cases hlast
  subst hnext
  exact ⟨hc', before, after, created, written, rfl, hbefore, ⟨hcreated, hcreate⟩,
    ⟨hwritten, hwrite⟩, hafter⟩

/-- **The arguments are written before the backend is run.** -/
theorem preparedFor_of_follows {W : Type} [Platform W] {session : Session} {cs : List (Call W)}
    {ok : Bool} (h : Follows (script session cs) (visible cs) ok) {c : Call W}
    (hc : c ∈ visible cs) {program : Path} {arguments : List Bytes}
    (hlaunch : c.effect = .launch program arguments) :
    arguments = [64 :: session.argumentsPath] ∧
      ∃ before after created written, PreparedFor session cs c before after created written := by
  cases hbypass : session.options.bypassBackend with
  | true =>
      have hmem := h.effect_mem hc
      rw [hlaunch] at hmem
      exact absurd hmem (launch_not_mem_script_of_bypass cs hbypass program arguments)
  | false =>
      rw [script_eq cs hbypass] at h
      obtain ⟨heffect, before, after, created, written, hcalls, hbefore, hcreated, hwritten,
        hafter⟩ := launch_of_follows h hc hlaunch (nomatch isGentle_of_mem_preparation ·)
          (launch_not_mem_aftermath session _ program arguments)
      rw [hlaunch] at heffect
      refine ⟨(Effect.launch.inj heffect).2, before, after, created, written, hcalls,
        fun d hd => ?_, hcreated, hwritten, ?_⟩
      · exact isGentle_of_mem_preparation (hbefore.effect_mem hd)
      · obtain ⟨hrun, hafter⟩ | ⟨-, hstopped, -⟩ := hafter
        · exact .inr ⟨hrun, ok, hafter⟩
        · exact .inl hstopped

/-- **What was written right before a call is read at the call**, if nothing had been done before
that could lead the name elsewhere. -/
theorem read_of_written_before {t t' : Traced (Machine L)}
    {cs before after : List (Call (Machine L))} {c created written : Call (Machine L)} {path : Path}
    {data : Bytes} (hext : t.Extends cs t')
    (hcalls : visible cs = before ++ created :: written :: c :: after)
    (hgentle : ∀ d ∈ before, d.effect.isGentle = true)
    (hcreated : created.effect = .createFile path ∧ created.succeeded = true)
    (hwritten : written.effect = .appendFile path data ∧ written.succeeded = true)
    (hpath : t.world.disk.LeadsToFile path) : c.before.disk.read path = .ok data := by
  have hcreate := Machine.create_of_succeeded hcreated.1 hcreated.2
  have hleads : created.before.disk.LeadsToFile path := by
    obtain ⟨pre, post, rfl, hpre, -⟩ := visible_split hcalls
    obtain ⟨u, hsteps, hbefore, -⟩ := hext.split
    rw [hbefore]
    refine hsteps.invariant (P := fun m => m.disk.LeadsToFile path) ?_ hpath
    intro d hd hleads
    refine hleads.after ?_
    cases hvisible : d.effect.visible with
    | false => exact Effect.isGentle_of_hidden hvisible
    | true => exact hgentle d (hpre ▸ List.mem_filter.2 ⟨hd, hvisible⟩)
  have hread := Machine.read_of_written hext hcalls hcreated.1 hwritten.1 hcreated.2 hwritten.2
    (hleads.isWritable hcreate)
  have hcalls' : visible cs = (before ++ [created]) ++ written :: c :: after := by
    rw [hcalls]
    simp
  rw [Machine.disk_before_of_next hext hcalls']
  exact hread

/-- **What was prepared is read**: the backend finds its arguments in the file. -/
theorem PreparedFor.read {session : Session} {t t' : Traced (Machine L)}
    {cs before after : List (Call (Machine L))} {c created written : Call (Machine L)}
    (h : PreparedFor session cs c before after created written) (hext : t.Extends cs t')
    (hpath : t.world.disk.LeadsToFile session.argumentsPath) :
    c.before.disk.read session.argumentsPath =
      .ok (ArgumentsFile.render session.backendArguments) :=
  read_of_written_before hext h.calls h.gentle h.created h.written hpath

/-- In a directory that hosts a session, a name of the session's own leads to a file, or to nothing
yet, or nowhere. -/
theorem Hosts.leadsToFile {d : Disk} {path name : Path} {directory : Location}
    (h : Hosts d path directory) (hname : IsOwnName name) : d.LeadsToFile (path.join name) := by
  intro l hl
  obtain rfl := h.eq_of_locateWith hname hl
  exact h.isOpen _ hname

/-- **The backend gets its arguments.**  When all symbols have been read and the backend is run, it
gets the name of the arguments file, and the reader of that file gets back the options for the
backend and the names of all claimed files, whatever was in the file before.  In every state of a
session the name of the arguments file leads to a file, or to nothing yet, or nowhere. -/
theorem backend_gets_its_arguments :
    (∀ (L : Type) [Linker L] (s : Live (Traced (Machine L))),
      s.world.world.disk.LeadsToFile s.session.argumentsPath →
      allSymbolsRead.Yields s fun _ cs _ => ∀ c ∈ cs, ∀ program arguments,
        c.effect = .launch program arguments →
          arguments = [64 :: s.session.argumentsPath] ∧
          ∃ contents, c.before.disk.read s.session.argumentsPath = .ok contents ∧
            ArgumentsFile.split contents =
              s.session.options.backendFlags.map Bytes.ofString ++ s.session.registry.paths) ∧
    (∀ (L : Type) [Linker L] (path : Path) (directory : Location) (s : Live (Traced (Machine L)))
      (origins : List (Machine L × InputFile)), Reached path directory s origins →
      ProgramsKeepOut path directory s.world.calls →
      s.world.world.disk.LeadsToFile s.session.argumentsPath) := by
  refine ⟨?_, ?_⟩
  · intro L _ s hpath
    by_cases hfiles : s.session.registry.files = []
    · refine yields_view_bind_iff.2 ?_
      rw [if_pos hfiles]
      refine ⟨_, .single _ _, fun c hc program arguments hlaunch => ?_⟩
      rw [List.mem_singleton.1 hc] at hlaunch
      cases hlaunch
    · obtain ⟨cs, hext, hfollows, -⟩ := yields_allSymbolsRead hfiles
      refine ⟨cs, hext, fun c hc program arguments hlaunch => ?_⟩
      have hmem : c ∈ visible cs := List.mem_filter.2 ⟨hc, by rw [hlaunch]; rfl⟩
      obtain ⟨harguments, before, after, created, written, hprepared⟩ :=
        preparedFor_of_follows hfollows hmem hlaunch
      exact ⟨harguments, _, hprepared.read hext hpath, ArgumentsFile.split_render _⟩
  · intro L _ path directory s origins h hprograms l hl
    obtain ⟨hdirectory, hhosts⟩ := h.hosts hprograms
    rw [argumentsPath_eq hdirectory] at hl
    obtain rfl := hhosts.eq_of_locateWith .arguments hl
    exact hhosts.isOpen _ .arguments

/-- The backend and two arguments for it, one of them with a blank and one without bytes. -/
def backendOptions : Options := { backendWords := ["b", "x y", ""] }

theorem backend_gets_its_arguments_sample :
    ∃ c ∈ (allSymbolsRead (offeredMember backendOptions)).2.world.calls, ∃ contents,
      c.effect = .launch [98] [64 :: (offeredMember backendOptions).session.argumentsPath] ∧
        c.before.disk.read (offeredMember backendOptions).session.argumentsPath = .ok contents ∧
        ArgumentsFile.split contents = [[120, 32, 121], [], Claim.memberPath [47, 116] 0] := by
  have hpath := backend_gets_its_arguments.2 _ [47, 116] [[116]] _ _
    (reached_offeredMember backendOptions (by decide +kernel))
    (programsKeepOut_of_all (by decide +kernel))
  obtain ⟨cs, hext, hall⟩ := backend_gets_its_arguments.1 _ (offeredMember backendOptions) hpath
  have hcalls : (allSymbolsRead (offeredMember backendOptions)).2.world.calls =
      (offeredMember backendOptions).world.calls ++ cs := hext.calls_eq
  have hlaunched : .launch [98] [64 :: (offeredMember backendOptions).session.argumentsPath] ∈
      ((allSymbolsRead (offeredMember backendOptions)).2.world.calls.drop
        (offeredMember backendOptions).world.calls.length).map (·.effect) := by
    decide +kernel
  obtain ⟨c, hc, hlaunch⟩ := List.mem_map.1 hlaunched
  have hmem : c ∈ cs := by
    rwa [hcalls, List.drop_left] at hc
  obtain ⟨-, contents, hread, hsplit⟩ := hall c hmem _ _ hlaunch
  have hmem' : c ∈ (allSymbolsRead (offeredMember backendOptions)).2.world.calls := by
    rw [hcalls]
    exact List.mem_append_right _ hmem
  refine ⟨c, hmem', contents, hlaunch, hread, hsplit.trans ?_⟩
  decide +kernel

end Session

end LtoBridge
