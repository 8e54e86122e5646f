/-
**The output of the backend is taken in exactly.**

The backend prints the names of the objects that it produced, and each line goes to the linker as
soon as it has been read, long before it is known whether the output makes sense and the backend
succeeds.  What the linker gets are the lines up to the first one that is empty or that it rejects,
and what the session remembers are those that the linker accepted.

Main definitions:

* `LtoBridge.Session.inputScript`: the script for names that go to the linker;
* `LtoBridge.acceptedFiles`: the files that the linker accepted.

Main results:

* `LtoBridge.Session.inputs_of_follows`: which lines go to the linker;
* `LtoBridge.Session.remembers_runBackend`: the accepted files are remembered;
* `LtoBridge.Session.output_is_taken_in_exactly`: **all that comes of a run of the backend**.
-/

import LtoBridge.Proofs.Files.Losses
import LtoBridge.Proofs.Session.Arguments
import LtoBridge.Proofs.Session.Forwarding

set_option autoImplicit false

namespace LtoBridge

/-! ### Accepted files -/

section

variable {W : Type} [Platform W]

/-- The file that the linker accepted by a call. -/
def Call.acceptedFile? (c : Call W) : Option Path :=
  match c.effect with
  | .addInputFile path => if c.succeeded then some path else none
  | _ => none

/-- **The files that the linker accepted**, in order. -/
def acceptedFiles (cs : List (Call W)) : List Path := cs.filterMap Call.acceptedFile?

theorem acceptedFiles_append (cs cs' : List (Call W)) :
    acceptedFiles (cs ++ cs') = acceptedFiles cs ++ acceptedFiles cs' := List.filterMap_append

theorem acceptedFiles_single {c : Call W} {path : Path} (hc : c.effect = .addInputFile path) :
    acceptedFiles [c] = if c.succeeded then [path] else [] := by
  cases hsucceeded : c.succeeded <;> simp [acceptedFiles, Call.acceptedFile?, hc, hsucceeded]

/-- The linker accepts nothing if nothing in the script goes to it. -/
theorem acceptedFiles_eq_nil {steps : List Step} {cs : List (Call W)} {ok : Bool}
    (h : Follows steps (visible cs) ok) (hsteps : ∀ path, Step.call (.addInputFile path) ∉ steps) :
    acceptedFiles cs = [] := by
  refine h.filterMap_eq_nil ?_
  rintro ⟨effect, w⟩ haccepted
  cases effect with
  | addInputFile path => exact ⟨rfl, hsteps path⟩
  | _ => exact absurd rfl haccepted

end

namespace Session

variable {W : Type} [Platform W] {s s' s'' : Live (Traced W)} {cs cs' : List (Call W)}

/-- **The session remembers the files that the linker accepted**, after those that it knew. -/
def Remembers (s : Live (Traced W)) (cs : List (Call W)) (s' : Live (Traced W)) : Prop :=
  s'.session.outputs = s.session.outputs ++ acceptedFiles cs

theorem Remembers.trans (h : Remembers s cs s') (h' : Remembers s' cs' s'') :
    Remembers s (cs ++ cs') s'' := by
  unfold Remembers at h h' ⊢
  rw [h', h, acceptedFiles_append, List.append_assoc]

theorem Remembers.of_nothing (hsession : s'.session = s.session) (hcs : acceptedFiles cs = []) :
    Remembers s cs s' := by
  rw [Remembers, hsession, hcs, List.append_nil]

/-- A part of a script by which nothing goes to the linker. -/
theorem remembers_of_performs {α : Type} {act : Act (Live (Traced W)) α} {steps : List Step}
    (h : act.Performs s steps fun _ _ s' => s'.session = s.session)
    (hsteps : ∀ path, Step.call (.addInputFile path) ∉ steps) :
    act.Yields s fun _ cs s' => Remembers s cs s' := by
  refine Act.Yields.mono h ?_
  rintro _ _ _ ⟨hfollows, hsession⟩
  exact .of_nothing hsession (acceptedFiles_eq_nil hfollows hsteps)

theorem remembers_takeOutput (line : Path) :
    (takeOutput line).Yields s fun _ cs s' => Remembers s cs s' := by
  have hadd : (outside (Act.ofFunction (Platform.addInputFile line))).Yields s fun r cs s' =>
      s'.session = s.session ∧ acceptedFiles cs = if r.isOk then [line] else [] :=
    yields_outside_iff.2 (.ofFunction rfl ⟨rfl, acceptedFiles_single rfl⟩)
  refine hadd.bind ?_ ?_
  · rintro _ cs s' ⟨hs', haccepted⟩
    refine (yields_update _).mono ?_
    rintro _ _ _ ⟨-, rfl, rfl⟩
    rw [Remembers, List.append_nil, haccepted, ← hs']
    rfl
  · rintro failure cs s' ⟨hs', haccepted⟩
    exact .of_nothing hs' haccepted

theorem remembers_passOn (ls : List Bytes) :
    (Backend.passOn takeOutput ls).Yields s fun _ cs s' => Remembers s cs s' := by
  induction ls generalizing s with
  | nil => exact .pure (.of_nothing rfl rfl)
  | cons l ls ih =>
      unfold Backend.passOn
      split
      · exact .fail (.of_nothing rfl rfl)
      · refine (remembers_takeOutput l).bind ?_ fun _ _ _ h => h
        exact fun _ _ s' h => ih.mono fun _ _ _ h' => h.trans h'

theorem remembers_collect (backend : Path) (process : Process) :
    (Backend.collect backend process takeOutput).Yields s fun _ cs s' => Remembers s cs s' := by
  unfold Backend.collect
  refine (remembers_passOn _).bind ?_ fun _ _ _ h => h
  intro _ cs s' h
  rw [← List.append_nil cs] at h
  cases process.readError with
  | some error => exact Act.yields_within_iff.2 (.fail h)
  | none =>
      dsimp only
      split
      · exact .fail h
      · split
        · exact .pure h
        · exact .fail h

/-- **The accepted files are remembered**, whatever comes of the run of the backend. -/
theorem remembers_runBackend (span : Span) :
    (runBackend span).Yields s fun _ cs s' => Remembers s cs s' := by
  cases hdirectory : s.session.temporaryDirectory with
  | none => exact yields_directory_bind_of_none hdirectory (.of_nothing rfl rfl)
  | some directory =>
      refine (yields_directory_bind_iff hdirectory).2 (yields_view_bind_iff.2 ?_)
      cases s.session.options.backend? with
      | none => exact .fail (.of_nothing rfl rfl)
      | some name =>
          have hprepare := remembers_of_performs ((performs_prepareBackend (s := s) span
            (Bytes.ofString name) (directory.join Backend.argumentsName)
            s.session.backendArguments).mono fun _ _ _ h => h.2) (by simp [argumentsScript])
          refine yields_view_bind_iff.2 (hprepare.bind ?_ fun _ _ _ h => h)
          intro _ cs s₁ h₁
          have hlaunch := remembers_of_performs ((performs_launch (s := s₁)
            (Bytes.ofString name) (directory.join Backend.argumentsName)).mono
              fun _ _ _ h => h.2) (by simp)
          refine hlaunch.bind ?_ fun _ _ _ h => h₁.trans h
          intro process cs' s₂ h₂
          refine (remembers_collect (Bytes.ofString name) process).bind ?_ ?_
          · intro _ cs'' s₃ h₃
            refine (remembers_of_performs (performs_delete (s := s₃) _) (by simp)).mono ?_
            exact fun _ _ _ h₄ => h₁.trans (h₂.trans (h₃.trans h₄))
          · exact fun _ _ _ h₃ => h₁.trans (h₂.trans h₃)

/-! ### The lines that go to the linker -/

/-- The script for names: one after the other goes to the linker. -/
def inputScript (names : List Path) : List Step :=
  names.map fun name => .call (.addInputFile name)

theorem of_follows_conditions {conditions : List Bool} {handed : List (Call W)} {ok : Bool}
    (h : Follows (conditions.map .require) handed ok) :
    handed = [] ∧ (ok = true ↔ ∀ holds ∈ conditions, holds = true) := by
  have hnone : (conditions.map Step.require).filterMap Step.effect? = [] := by
    simp [List.filterMap_map, Step.effect?]
  have hcalls := h.isPrefix
  rw [hnone, List.prefix_nil, List.map_eq_nil_iff] at hcalls
  subst hcalls
  rw [h.succeeds_iff, hnone, List.forall_mem_map]
  simp [Step.holds]

/-- **Which lines go to the linker**: those before the first one that is empty, up to the first one
that it rejects.  Nothing else can fail but an empty line and the conditions at the end. -/
theorem inputs_of_follows {ls : List Bytes} {conditions : List Bool} {handed : List (Call W)}
    {ok : Bool} (h : Follows (ls.flatMap lineScript ++ conditions.map .require) handed ok) :
    ∃ accepted, Follows (inputScript (ls.takeWhile (· ≠ []))) handed accepted ∧
      (ok = true ↔ accepted = true ∧ (∀ l ∈ ls, l ≠ []) ∧
        ∀ holds ∈ conditions, holds = true) := by
  induction ls generalizing handed with
  | nil =>
      obtain ⟨rfl, hok⟩ := of_follows_conditions h
      exact ⟨true, .done, by simpa using hok⟩
  | cons l ls ih =>
      rw [List.flatMap_cons, lineScript, List.append_assoc, List.cons_append] at h
      by_cases hl : l = []
      · subst hl
        cases h with
        | violated => exact ⟨true, .done, by simp⟩
      · rw [decide_eq_true hl] at h
        have hnext : inputScript ((l :: ls).takeWhile (· ≠ [])) =
            .call (.addInputFile l) :: inputScript (ls.takeWhile (· ≠ [])) := by
          simp [inputScript, hl]
        rw [hnext]
        cases h with
        | holds h =>
            obtain ⟨c, rest, rfl, hc, ⟨hsucceeded, hrest⟩ | ⟨hfailed, rfl, rfl⟩⟩ := h.of_call
            · obtain ⟨accepted, hfollows, hok⟩ := ih hrest
              refine ⟨accepted, ?_, by simpa [hl] using hok⟩
              rw [← hc]
              exact hfollows.call hsucceeded
            · refine ⟨false, ?_, by simp⟩
              rw [← hc]
              exact .failed hfailed

/-- What goes to the linker are files. -/
theorem isInput_of_inputs {names : List Path} {handed : List (Call W)} {accepted : Bool}
    (h : Follows (inputScript names) handed accepted) :
    ∀ c ∈ handed, c.effect.isInput = true ∧ c.effect.isLinker = true := by
  intro c hc
  obtain ⟨name, -, hname⟩ := List.mem_map.1 (h.effect_mem hc)
  rw [← Step.call.inj hname]
  exact ⟨rfl, rfl⟩

/-! ### The calls around the run -/

/-- The script once the backend has been run, up to the removal of the arguments file. -/
def closingScript (session : Session) (process : Option Process) : List Step :=
  takeIn process ++ [.call (.removeFile session.argumentsPath)]

theorem launch_not_mem_closingScript (session : Session) (process : Option Process)
    (program : Path) (arguments : List Bytes) :
    Step.call (.launch program arguments) ∉ closingScript session process := by
  intro h
  rcases List.mem_append.1 h with h | h
  · cases process with
    | none => cases h
    | some process => cases isLinker_of_mem_processScript h
  · cases List.mem_singleton.1 h

omit [Platform W] in
theorem backendScript_eq_launch (session : Session) (process : Option Process) :
    backendScript session (takeIn process) =
      [.require session.temporaryDirectory.isSome, .require session.options.backend?.isSome] ++
        (argumentsScript session.argumentsPath session.backendArguments ++
          .call (.launch (Bytes.ofString (session.options.backend?.getD ""))
            [64 :: session.argumentsPath]) :: closingScript session process) := by
  simp [backendScript, closingScript]

/-- A program that did something was run. -/
theorem launch_of_process {c : Call W} {process : Process} (h : c.process? = some process) :
    ∃ program arguments, c.effect = .launch program arguments ∧ c.succeeded = true := by
  obtain ⟨effect, w⟩ := c
  cases effect with
  | launch program arguments =>
      refine ⟨program, arguments, rfl, ?_⟩
      change (Platform.launch program arguments w).1.toOption = some process at h
      change (Platform.launch program arguments w).1.isOk = true
      cases hresult : (Platform.launch program arguments w).1 with
      | ok => rfl
      | error error =>
          rw [hresult] at h
          cases h
  | _ => cases h

/-- The only program that was run is the one that did something. -/
theorem launched_of_split {before after : List (Call W)} {c : Call W} {process : Process}
    (hcalls : visible cs = before ++ c :: after) (hc : c.process? = some process)
    (hbefore : ∀ d ∈ before, d.process? = none) : launched cs = some process := by
  obtain ⟨pre, post, rfl, hpre, -⟩ := visible_split hcalls
  have hnone : pre.filterMap Call.process? = [] := by
    refine List.filterMap_eq_nil_iff.2 fun d hd => ?_
    cases hvisible : d.effect.visible with
    | true => exact hbefore d (hpre ▸ List.mem_filter.2 ⟨hd, hvisible⟩)
    | false =>
        obtain ⟨effect, w⟩ := d
        cases effect with
        | launch => cases hvisible
        | _ => rfl
  simp [launched, hnone, hc]

omit [Platform W] in
/-- The calls by which something goes to the linker are among those that can be noticed. -/
theorem filter_isInput_visible (cs : List (Call W)) :
    (visible cs).filter (·.effect.isInput) = cs.filter (·.effect.isInput) := by
  rw [visible, List.filter_filter]
  refine List.filter_congr fun c _ => ?_
  cases c.effect <;> rfl

/-- **A script that ends with a removal**, which does not fail if it is tried. -/
theorem removal_of_follows {steps : List Step} {path : Path} {after : List (Call W)} {ok : Bool}
    (h : Follows (steps ++ [.call (.removeFile path)]) after ok)
    (hremoval : ∀ d ∈ after, d.effect = .removeFile path → d.succeeded = true) :
    ∃ handed, Follows steps handed ok ∧ (ok = false ∧ after = handed ∨
      ok = true ∧ ∃ d, after = handed ++ [d] ∧ d.effect = .removeFile path ∧
        d.succeeded = true) := by
  obtain ⟨hfailed, rfl⟩ | ⟨handed, last, rfl, hhanded, hlast⟩ := h.split
  · exact ⟨after, hfailed, .inl ⟨rfl, rfl⟩⟩
  · obtain ⟨d, rest, rfl, hd, ⟨hsucceeded, hrest⟩ | ⟨hfailed, -⟩⟩ := hlast.of_call
    · cases hrest
      exact ⟨handed, hhanded, .inr ⟨rfl, d, rfl, hd, hsucceeded⟩⟩
    · rw [hremoval d (by simp) hd] at hfailed
      cases hfailed

/-- **The calls of a run of the backend** in which it did something: its arguments are written right
before, and what it did is taken in right afterwards; the arguments file is removed at the end, but
only if nothing has failed. -/
structure RanBackend (session : Session) (cs : List (Call W)) (c created written : Call W)
    (process : Process) (handed : List (Call W)) (ok : Bool) : Prop where
  creates : created.effect = .createFile session.argumentsPath ∧ created.succeeded = true
  writes : written.effect = .appendFile session.argumentsPath
    (ArgumentsFile.render session.backendArguments) ∧ written.succeeded = true
  follows : Follows (processScript process) handed ok
  calls : ok = false ∧ visible cs = created :: written :: c :: handed ∨
    ok = true ∧ ∃ d, visible cs = created :: written :: c :: (handed ++ [d]) ∧
      d.effect = .removeFile session.argumentsPath ∧ d.succeeded = true

theorem ranBackend_of_follows {session : Session} {ok : Bool}
    (h : Follows (backendScript session (takeIn (launched cs))) (visible cs) ok) {c : Call W}
    (hc : c ∈ cs) {process : Process} (hprocess : c.process? = some process)
    (hremoval : ∀ d ∈ cs, d.effect = .removeFile session.argumentsPath → d.succeeded = true) :
    ∃ created written handed, RanBackend session cs c created written process handed ok := by
  obtain ⟨program, arguments, hlaunch, hsucceeded⟩ := launch_of_process hprocess
  have hmem : c ∈ visible cs := List.mem_filter.2 ⟨hc, by rw [hlaunch]; rfl⟩
  rw [backendScript_eq_launch] at h
  obtain ⟨-, before, after, created, written, hcalls, hbefore, hcreated, hwritten, hafter⟩ :=
    launch_of_follows h hmem hlaunch (by simp)
      (launch_not_mem_closingScript session _ _ _)
  obtain rfl : before = [] := by
    have hnone := hbefore.isPrefix
    simpa using hnone
  obtain ⟨-, hafter⟩ | ⟨hfailed, -⟩ := hafter
  · have hsplit : visible cs = [created, written] ++ c :: after := hcalls
    have hlaunched : launched cs = some process := by
      refine launched_of_split hsplit hprocess ?_
      simp [Call.process?, hcreated.1, hwritten.1]
    rw [hlaunched] at hafter
    obtain ⟨handed, hhanded, hend⟩ := removal_of_follows hafter fun d hd => by
      have hvisible : d ∈ visible cs := by simp [hcalls, hd]
      exact hremoval d (List.mem_filter.1 hvisible).1
    refine ⟨created, written, handed, hcreated, hwritten, hhanded, ?_⟩
    obtain ⟨hok, rfl⟩ | ⟨hok, d, rfl, hd⟩ := hend
    · exact .inl ⟨hok, hcalls⟩
    · exact .inr ⟨hok, d, hcalls, hd⟩
  · rw [hsucceeded] at hfailed
    cases hfailed

namespace RanBackend

variable {session : Session} {c created written : Call W} {process : Process}
  {handed : List (Call W)} {ok : Bool}

/-- What is handed over are the lines of the output. -/
theorem inputs (h : RanBackend session cs c created written process handed ok)
    (hread : process.readError = none) :
    ∃ accepted,
      Follows (inputScript ((Backend.lines process.output).1.takeWhile (· ≠ []))) handed accepted ∧
      (ok = true ↔ Backend.IsListing process.output ∧ accepted = true ∧
        process.status.success = true) := by
  let conditions := [process.readError.isNone, decide ((Backend.lines process.output).2 = []),
    process.status.success]
  have hhanded : Follows ((Backend.lines process.output).1.flatMap lineScript ++
      conditions.map .require) handed ok := h.follows
  obtain ⟨accepted, hinputs, hok⟩ := inputs_of_follows hhanded
  refine ⟨accepted, hinputs, ?_⟩
  rw [(Backend.isSplit_lines process.output).isListing_iff, hok]
  simp only [conditions, hread, List.forall_mem_cons, Option.isNone_none, decide_eq_true_eq,
    List.not_mem_nil, false_imp_iff, implies_true, true_and, and_true]
  tauto

/-- Nothing else goes to the linker. -/
theorem handed_eq (h : RanBackend session cs c created written process handed ok)
    (hc : c.process? = some process) (hhanded : ∀ d ∈ handed, d.effect.isInput = true) :
    cs.filter (·.effect.isInput) = handed := by
  obtain ⟨program, arguments, hlaunch, -⟩ := launch_of_process hc
  have hcreated : created.effect.isInput = false := congrArg Effect.isInput h.creates.1
  have hwritten : written.effect.isInput = false := congrArg Effect.isInput h.writes.1
  have hrun : c.effect.isInput = false := congrArg Effect.isInput hlaunch
  rw [← filter_isInput_visible]
  obtain ⟨-, hcalls⟩ | ⟨-, d, hcalls, hd, -⟩ := h.calls
  · rw [hcalls]
    simpa [hcreated, hwritten, hrun] using hhanded
  · have hremoved : d.effect.isInput = false := congrArg Effect.isInput hd
    rw [hcalls]
    simpa [hcreated, hwritten, hrun, hremoved] using hhanded

end RanBackend

/-! ### The arguments file -/

section

variable {L : Type} [Linker L]

/-- Right before the backend is run there is a file with its arguments. -/
theorem exists_arguments {t t' : Traced (Machine L)} {cs after : List (Call (Machine L))}
    {c created written : Call (Machine L)} {path : Path} {data : Bytes} (hext : t.Extends cs t')
    (hcalls : visible cs = created :: written :: c :: after)
    (hcreated : created.effect = .createFile path ∧ created.succeeded = true)
    (hwritten : written.effect = .appendFile path data ∧ written.succeeded = true) :
    ∃ contents, c.before.disk.read path = .ok contents ∧
      (t.world.disk.LeadsToFile path → contents = data) := by
  have hfirst : visible cs = [] ++ created :: written :: c :: after := hcalls
  have hsecond : visible cs = [created] ++ written :: c :: after := hcalls
  have hcreate := Machine.create_of_succeeded hcreated.1 hcreated.2
  have happend := Machine.append_of_succeeded hwritten.1 hwritten.2
  rw [Machine.disk_before_of_next hext hfirst] at happend
  obtain ⟨contents, hread⟩ := Disk.exists_read_of_create_of_append hcreate happend
  rw [← Machine.disk_before_of_next hext hsecond] at hread
  refine ⟨contents, hread, fun hpath => ?_⟩
  have hwhole := read_of_written_before hext hfirst (by simp) hcreated hwritten hpath
  exact Except.ok.inj (hread.symm.trans hwhole)

variable {session : Session} {t t' : Traced (Machine L)} {cs handed : List (Call (Machine L))}
  {c created written : Call (Machine L)} {process : Process}

/-- **The arguments file is gone after a run that succeeded.** -/
theorem RanBackend.isGone (h : RanBackend session cs c created written process handed true)
    (hext : t.Extends cs t') : t'.world.disk.IsGone session.argumentsPath := by
  obtain ⟨⟨⟩, -⟩ | ⟨-, d, hcalls, hd, hremoved⟩ := h.calls
  have hlast : visible cs = (created :: written :: c :: handed) ++ d :: [] := hcalls
  rw [Machine.disk_of_last hext hlast (by simp)]
  exact Disk.isGone_of_remove (Machine.remove_of_succeeded hd hremoved)

/-- **It is still there after a run that failed**, if the backend left it alone. -/
theorem RanBackend.exists_read (h : RanBackend session cs c created written process handed false)
    (hext : t.Extends cs t') (hhanded : ∀ d ∈ handed, d.effect.isLinker = true)
    (hleft : c.after.disk.read session.argumentsPath =
      c.before.disk.read session.argumentsPath) :
    ∃ contents, t'.world.disk.read session.argumentsPath = .ok contents ∧
      (t.world.disk.LeadsToFile session.argumentsPath →
        contents = ArgumentsFile.render session.backendArguments) := by
  obtain ⟨-, hcalls⟩ | ⟨⟨⟩, -⟩ := h.calls
  have hrun : visible cs = [created, written] ++ c :: handed := hcalls
  rw [Machine.disk_of_last hext hrun hhanded, hleft]
  exact exists_arguments hext hcalls h.creates h.writes

/-! ### The run -/

/-- **The output of the backend is taken in exactly.**  Whatever comes of a run of the backend, the
session remembers the files that the linker accepted.  Let the backend have been run to its end, so
that all of its output could be read, without any change to the arguments file, and let that file be
removed if that is tried.  Then what goes to the linker are the lines of the output, in order, up to
the first one that is empty or that it rejects.  The run succeeds if and only if the output consists
of names, the linker accepts all of them, and the backend succeeds; the arguments file is gone then,
and otherwise it is still there. -/
theorem output_is_taken_in_exactly (span : Span) (s : Live (Traced (Machine L))) :
    (runBackend span).Yields s fun r cs s' =>
      s'.session.outputs = s.session.outputs ++ acceptedFiles cs ∧
      ∀ c ∈ cs, ∀ process, c.process? = some process → process.readError = none →
        c.after.disk.read s.session.argumentsPath = c.before.disk.read s.session.argumentsPath →
        (∀ d ∈ cs, d.effect = .removeFile s.session.argumentsPath → d.succeeded = true) →
        ∃ ls rest accepted, Backend.IsSplit process.output ls rest ∧
          Follows (inputScript (ls.takeWhile (· ≠ []))) (cs.filter (·.effect.isInput)) accepted ∧
          (r.isOk = true ↔ Backend.IsListing process.output ∧ accepted = true ∧
            process.status.success = true) ∧
          (r.isOk = true → s'.world.world.disk.IsGone s.session.argumentsPath) ∧
          (r.isOk = false → ∃ contents,
            s'.world.world.disk.read s.session.argumentsPath = .ok contents ∧
            (s.world.world.disk.LeadsToFile s.session.argumentsPath →
              contents = ArgumentsFile.render s.session.backendArguments)) := by
  obtain ⟨cs, hext, _, hfollows, rfl, -⟩ := performs_runBackend (s := s) span
  obtain ⟨cs', hext', hremembers⟩ := remembers_runBackend (s := s) span
  obtain rfl := hext'.unique hext
  refine ⟨cs', hext, hremembers, fun c hc process hprocess hread hleft hremoval => ?_⟩
  obtain ⟨created, written, handed, hran⟩ := ranBackend_of_follows hfollows hc hprocess hremoval
  obtain ⟨accepted, hinputs, hok⟩ := hran.inputs hread
  have hhanded := isInput_of_inputs hinputs
  refine ⟨_, _, accepted, Backend.isSplit_lines _, ?_, hok, ?_, ?_⟩
  · rwa [hran.handed_eq hprocess fun d hd => (hhanded d hd).1]
  · intro hsucceeded
    rw [hsucceeded] at hran
    exact hran.isGone hext
  · intro hfailed
    rw [hfailed] at hran
    exact hran.exists_read hext (fun d hd => (hhanded d hd).2) hleft

end

/-- A session whose backend prints an empty line between two names. -/
def interrupted : Live (Traced (Machine (BoundLinker (Watched RecordedLinker)))) :=
  begun passingOptions [47]
    { passingMachine with
      launcher disk _ _ := (.ok { output := [111, 10, 10, 112, 10], status := .exited 0 }, disk) }

theorem output_is_taken_in_exactly_sample :
    let (r, s') := runBackend .allSymbolsRead interrupted
    r.isOk = false ∧ s'.session.outputs = [[111]] ∧
      s'.world.world.disk.read interrupted.session.argumentsPath =
        .ok (ArgumentsFile.render interrupted.session.backendArguments) := by
  obtain ⟨cs, hext, houtputs, hrun⟩ := output_is_taken_in_exactly .allSymbolsRead interrupted
  obtain rfl : (runBackend .allSymbolsRead interrupted).2.world.calls = cs := hext.calls_eq
  have hpath : interrupted.world.world.disk.LeadsToFile interrupted.session.argumentsPath := by
    have hlocate : interrupted.world.world.disk.locate interrupted.session.argumentsPath =
        .ok [Backend.argumentsName] := by
      decide +kernel
    intro l hl
    obtain rfl := Except.ok.inj (hlocate.symm.trans hl)
    decide +kernel
  let process : Process := { output := [111, 10, 10, 112, 10], status := .exited 0 }
  obtain ⟨c, hc, hprocess, hleft⟩ : ∃ c ∈ (runBackend .allSymbolsRead interrupted).2.world.calls,
      c.process? = some process ∧
        c.after.disk.read interrupted.session.argumentsPath =
          c.before.disk.read interrupted.session.argumentsPath := by
    decide +kernel
  obtain ⟨ls, rest, accepted, -, -, -, -, hfailed⟩ := hrun c hc process hprocess rfl hleft
    (by decide +kernel)
  have hnot : (runBackend .allSymbolsRead interrupted).1.isOk = false := by decide +kernel
  obtain ⟨contents, hread, hcontents⟩ := hfailed hnot
  obtain rfl := hcontents hpath
  refine ⟨hnot, houtputs.trans ?_, hread⟩
  decide +kernel

end Session

end LtoBridge
