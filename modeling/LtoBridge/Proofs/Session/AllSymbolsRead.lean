/-
**What happens when all symbols have been read.**

With no claimed file, nothing happens.  Otherwise the session follows a script: the questions for
resolutions and the file with them, then the hand-over of the claimed files, or the run of the
backend and everything that comes after it.

Main definitions:

* `LtoBridge.launched`: what the backend did;
* `LtoBridge.Session.script`: the script of a session whose surroundings gave certain answers.

Main results:

* `LtoBridge.Session.performs_runBackend`: the part of the script that is about the backend;
* `LtoBridge.Session.allSymbolsRead_effects`: **the calls are those of the script up to the first
  step that fails, and success means that there is no such step**.
-/

import LtoBridge.Linker.Scripted
import LtoBridge.Machine
import LtoBridge.Proofs.Backend
import LtoBridge.Proofs.Session.Resolution

set_option autoImplicit false

namespace LtoBridge

variable {W : Type}

/-! ### Releases -/

/-- Were the symbols released with the linker? -/
def released (cs : List (Call W)) : Bool := cs.any (·.effect = .releaseSymbols)

@[simp] theorem released_nil : released ([] : List (Call W)) = false := rfl

@[simp] theorem released_append (cs cs' : List (Call W)) :
    released (cs ++ cs') = (released cs || released cs') := List.any_append

theorem released_eq_false_iff {cs : List (Call W)} :
    released cs = false ↔ ∀ c ∈ cs, c.effect ≠ .releaseSymbols := by
  simp [released]

variable [Platform W]

/-! ### What the backend did -/

/-- What a program did that was run by a call. -/
def Call.process? (c : Call W) : Option Process :=
  match c.effect with
  | .launch program arguments => (Platform.launch program arguments c.before).1.toOption
  | _ => none

/-- **What the backend did**, if a program was run. -/
def launched (cs : List (Call W)) : Option Process := (cs.filterMap Call.process?).head?

theorem launched_append_of_none {cs : List (Call W)} (cs' : List (Call W))
    (h : cs.filterMap Call.process? = []) : launched (cs ++ cs') = launched cs' := by
  simp [launched, h]

theorem launched_append_right {cs' : List (Call W)} (cs : List (Call W))
    (h : cs'.filterMap Call.process? = []) : launched (cs ++ cs') = launched cs := by
  simp [launched, h]

theorem launched_append_of_some {cs : List (Call W)} {process : Process} (cs' : List (Call W))
    (h : launched cs = some process) : launched (cs ++ cs') = some process := by
  rw [launched, List.head?_eq_some_iff] at h
  obtain ⟨rest, h⟩ := h
  simp [launched, h]

/-- A program that could be run did something. -/
theorem exists_launched {cs : List (Call W)} {c : Call W} (hc : c ∈ cs) {program : Path}
    {arguments : List Bytes} (hlaunch : c.effect = .launch program arguments)
    (hsucceeded : c.succeeded = true) : ∃ process, launched cs = some process := by
  rw [Call.succeeded, hlaunch] at hsucceeded
  change (Platform.launch program arguments c.before).1.isOk = true at hsucceeded
  cases hprocess : (Platform.launch program arguments c.before).1 with
  | error error =>
      rw [hprocess] at hsucceeded
      cases hsucceeded
  | ok process =>
      have hmem : process ∈ cs.filterMap Call.process? := by
        refine List.mem_filterMap.2 ⟨c, hc, ?_⟩
        rw [Call.process?, hlaunch]
        dsimp only
        rw [hprocess]
        rfl
      exact ⟨_, List.head?_eq_some_head (List.ne_nil_of_mem hmem)⟩

namespace Session

/-! ### The script -/

/-- The script for the resolutions: the questions, and the file with the given text. -/
def resolutionScript (session : Session) (text : Bytes) : List Step :=
  match session.options.resolutionFile with
  | none => []
  | some path =>
      questions session.registry.files ++ [.call (.createFile path), .call (.appendFile path text)]

/-- The script for the arguments file. -/
def argumentsScript (arguments : Path) (words : List Bytes) : List Step :=
  [.call (.createFile arguments), .call (.appendFile arguments (ArgumentsFile.render words))]

/-- The script for a line of the backend's output. -/
def lineScript (line : Bytes) : List Step :=
  [.require (line ≠ []), .call (.addInputFile line)]

/-- The script for what the backend did, of whose output these are the lines and what follows the
last one: every line must name a file, which goes to the linker; nothing may follow the last line;
and the backend must have succeeded. -/
def outputScript (process : Process) (ls : List Bytes) (rest : Bytes) : List Step :=
  ls.flatMap lineScript ++
    [.require process.readError.isNone, .require (rest = []), .require process.status.success]

/-- **The script for what the backend did**, if it was run. -/
inductive TakesIn : Option Process → List Step → Prop
  | nothing : TakesIn none []
  | output {process : Process} {ls : List Bytes} {rest : Bytes} :
      Backend.IsSplit process.output ls rest → TakesIn (some process) (outputScript process ls rest)

/-- The same with the lines as they are found. -/
def processScript (process : Process) : List Step :=
  outputScript process (Backend.lines process.output).1 (Backend.lines process.output).2

/-- The same if the backend was run. -/
def takeIn (process : Option Process) : List Step := process.elim [] processScript

theorem takesIn_takeIn : ∀ process : Option Process, TakesIn process (takeIn process)
  | none => .nothing
  | some process => .output (Backend.isSplit_lines process.output)

/-- The arguments file of a session. -/
def argumentsPath (session : Session) : Path :=
  (session.temporaryDirectory.getD []).join Backend.argumentsName

/-- What the backend is told. -/
def backendArguments (session : Session) : List Bytes :=
  session.options.backendFlags.map Bytes.ofString ++ session.registry.files.map (·.path)

/-- The script for the backend, with what is to be done with its output.  The session must not be
over, and there must be a backend. -/
def backendScript (session : Session) (taken : List Step) : List Step :=
  let arguments := session.argumentsPath
  [.require session.temporaryDirectory.isSome, .require session.options.backend?.isSome] ++
    (argumentsScript arguments session.backendArguments ++
      ([.call (.launch (Bytes.ofString (session.options.backend?.getD "")) [64 :: arguments])] ++
        (taken ++ [.call (.removeFile arguments)])))

/-- The script for an item that the options name. -/
def passThroughScript : PassThrough → List Step
  | .library name => [.call (.addInputLibrary name)]
  | .file path => [.call (.addInputFile path)]

theorem eq_of_mem_passThroughScript {item : PassThrough} {step : Step}
    (h : step ∈ passThroughScript item) :
    (∃ name, step = .call (.addInputLibrary name)) ∨ ∃ path, step = .call (.addInputFile path) := by
  cases item with
  | library name => exact .inl ⟨name, List.mem_singleton.1 h⟩
  | file path => exact .inr ⟨path, List.mem_singleton.1 h⟩

/-- The script for the claimed files: they go back to the linker, and nothing else is done; or their
symbols are released, the backend runs, and what is to be passed through is passed through. -/
def fileScript (session : Session) (taken : List Step) : List Step :=
  if session.options.bypassBackend then
    (session.registry.files.map (·.path)).flatMap fun path => [.call (.addInputFile path)]
  else
    [.call .releaseSymbols] ++ (backendScript session taken ++
      session.options.passThrough.flatMap passThroughScript)

/-- **The script of a session with claimed files**, whose surroundings answer as they do in the
given calls. -/
def script (session : Session) (cs : List (Call W)) : List Step :=
  resolutionScript session
      (ResolutionFile.render ⟨enterAll session.registry.files (answers cs)⟩) ++
    fileScript session (takeIn (launched cs))

/-- The script for the backend goes by the names of the claimed files, the options and the temporary
directory. -/
theorem backendScript_congr {session session' : Session} {taken : List Step}
    (hpaths : session'.registry.paths = session.registry.paths)
    (hoptions : session'.options = session.options)
    (hdirectory : session'.temporaryDirectory = session.temporaryDirectory) :
    backendScript session' taken = backendScript session taken := by
  have hfiles : session'.registry.files.map (·.path) = session.registry.files.map (·.path) := hpaths
  simp only [backendScript, argumentsPath, backendArguments, hfiles, hoptions, hdirectory]

/-- So does the script for the claimed files. -/
theorem fileScript_congr {session session' : Session} {taken : List Step}
    (hpaths : session'.registry.paths = session.registry.paths)
    (hoptions : session'.options = session.options)
    (hdirectory : session'.temporaryDirectory = session.temporaryDirectory) :
    fileScript session' taken = fileScript session taken := by
  have hfiles : session'.registry.files.map (·.path) = session.registry.files.map (·.path) := hpaths
  simp only [fileScript, backendScript_congr hpaths hoptions hdirectory, hfiles, hoptions]

/-! ### What is not in the script -/

section

variable {steps : List Step} {cs : List (Call W)} {ok : Bool}

/-- There are no answers if there are no questions in the script. -/
theorem answers_eq_nil (h : Follows steps (visible cs) ok)
    (hsteps : ∀ handle symbols, Step.call (.getSymbols handle symbols) ∉ steps) :
    answers cs = [] := by
  refine h.filterMap_eq_nil ?_
  rintro ⟨effect, w⟩ hentered
  cases effect with
  | getSymbols handle symbols => exact ⟨rfl, hsteps handle symbols⟩
  | _ => exact absurd rfl hentered

/-- No program is run if there is none in the script. -/
theorem processes_eq_nil (h : Follows steps (visible cs) ok)
    (hsteps : ∀ program arguments, Step.call (.launch program arguments) ∉ steps) :
    cs.filterMap Call.process? = [] := by
  refine h.filterMap_eq_nil ?_
  rintro ⟨effect, w⟩ hprocess
  cases effect with
  | launch program arguments => exact ⟨rfl, hsteps program arguments⟩
  | _ => exact absurd rfl hprocess

/-- Nothing is released if there is no release in the script. -/
theorem not_released_of_follows (h : Follows steps (visible cs) ok)
    (hsteps : Step.call .releaseSymbols ∉ steps) : released cs = false := by
  refine released_eq_false_iff.2 fun c hc hrelease => hsteps ?_
  have hmem : c ∈ visible cs := List.mem_filter.2 ⟨hc, by rw [hrelease]; rfl⟩
  rw [← hrelease]
  exact h.effect_mem hmem

end

/-! ### The parts -/

variable {s : Live (Traced W)}

theorem performs_create (path : Path) (context : Context) (t : Traced W) :
    ((Act.ofOs (Platform.createFile path)).within context).Performs t [.call (.createFile path)]
      fun _ _ _ => True :=
  (Act.Performs.ofOs (Q := fun _ _ _ => True) rfl rfl rfl trivial).within fun _ _ _ h => h

theorem performs_append (path : Path) (data : Bytes) (context : Context) (t : Traced W) :
    ((Act.ofOs (Platform.appendFile path data)).within context).Performs t
      [.call (.appendFile path data)] fun _ _ _ => True :=
  (Act.Performs.ofOs (Q := fun _ _ _ => True) rfl rfl rfl trivial).within fun _ _ _ h => h

theorem performs_addInputFile (path : Path) :
    (outside (Act.ofFunction (Platform.addInputFile path))).Performs s [.call (.addInputFile path)]
      fun _ _ s' => s'.session = s.session :=
  performs_outside_iff.2 (.ofFunction rfl rfl rfl rfl)

theorem performs_delete (path : Path) :
    (delete path).Performs s [.call (.removeFile path)] fun _ _ s' => s'.session = s.session :=
  performs_outside_iff.2 ((Act.Performs.ofOs (Q := fun _ _ _ => True) rfl rfl rfl trivial).within
    fun _ _ _ _ => rfl)

/-- The resolutions are written as the registry has them. -/
theorem performs_writeResolutions (span : Span) (path : Path) :
    (writeResolutions span path).Performs s
      [.call (.createFile path),
        .call (.appendFile path (ResolutionFile.render s.session.registry))]
      fun _ _ s' => s'.session = s.session := by
  unfold writeResolutions
  rw [← List.append_nil [Step.call _, Step.call _], performs_view_bind_iff]
  refine Act.Performs.bind (Q := fun _ _ s' => s'.session = s.session) ?_ ?_ fun _ _ _ h => h
  · refine performs_outside_iff.2 ((performs_create path _ s.world).bind ?_ fun _ _ _ _ => rfl)
    exact fun _ _ t _ => (performs_append path _ _ t).mono fun _ _ _ _ => rfl
  · intro _ _ s' hs'
    exact (performs_tell span _).mono fun _ _ s'' hs'' => hs''.trans hs'

theorem performs_releaseSymbols :
    releaseSymbols.Performs s [.call .releaseSymbols] fun _ cs s' =>
      cs = [⟨.releaseSymbols, s.world.world⟩] ∧
        s'.session = { s.session with registry := s.session.registry.release } := by
  refine yields_releaseSymbols.mono ?_
  rintro _ _ _ ⟨rfl, rfl, hs'⟩
  exact ⟨Follows.single ⟨.releaseSymbols, _⟩, rfl, hs'⟩

theorem performs_writeArguments (path : Path) (words : List Bytes) (t : Traced W) :
    (Backend.writeArguments path words).Performs t (argumentsScript path words)
      fun _ _ _ => True :=
  (performs_create path (.creating path) t).bind (fun _ _ t _ => performs_append path _ _ t)
    fun _ _ _ h => h

/-- What is reported about the call of the backend cannot be noticed. -/
theorem performs_reportCommand (span : Option Span) (backend arguments : Path) (t : Traced W) :
    (Backend.reportCommand span backend arguments).Performs t [] fun _ _ _ => True := by
  refine Act.Yields.answer_bind rfl ?_
  split
  · exact Act.Performs.say (Q := fun _ _ _ => True) trivial
  · exact Act.Performs.say (Q := fun _ _ _ => True) trivial

/-- An object of the backend is remembered if the linker takes it. -/
theorem performs_takeOutput (line : Path) :
    (takeOutput line).Performs s [.call (.addInputFile line)] fun _ _ s' =>
      ∃ outputs, s'.session = { s.session with outputs } := by
  rw [← List.append_nil [Step.call _]]
  refine (performs_addInputFile line).bind ?_ ?_
  · intro _ _ s' hs'
    refine (performs_update _).mono ?_
    rintro _ _ _ rfl
    exact ⟨s'.session.outputs ++ [line], by rw [hs']⟩
  · intro _ _ s' hs'
    exact ⟨s.session.outputs, hs'⟩

/-- The lines of the backend's output go to the linker, up to the first one that is empty. -/
theorem performs_passOn (lines : List Bytes) :
    (Backend.passOn takeOutput lines).Performs s (lines.flatMap lineScript) fun _ _ s' =>
      ∃ outputs, s'.session = { s.session with outputs } := by
  induction lines generalizing s with
  | nil => exact .pure ⟨s.session.outputs, rfl⟩
  | cons line lines ih =>
      rw [List.flatMap_cons, lineScript]
      unfold Backend.passOn
      split
      · rename_i hline
        rw [hline]
        exact .fail ⟨s.session.outputs, rfl⟩
      · rename_i hline
        rw [decide_eq_true hline]
        refine .holds ((performs_takeOutput line).bind ?_ fun _ _ _ h => h)
        rintro _ _ s' ⟨outputs, hs'⟩
        refine ih.mono ?_
        rintro _ _ s'' ⟨outputs', hs''⟩
        exact ⟨outputs', by rw [hs'', hs']⟩

/-- What the backend did is taken in line by line, and then it is seen how it ended. -/
theorem performs_collect (backend : Path) (process : Process) :
    (Backend.collect backend process takeOutput).Performs s (processScript process) fun _ _ s' =>
      ∃ outputs, s'.session = { s.session with outputs } := by
  unfold Backend.collect
  refine (performs_passOn _).bind ?_ fun _ _ _ h => h
  intro _ _ s' hs'
  cases hread : process.readError with
  | some error => exact Act.Performs.within (.fail hs') fun _ _ _ h => h
  | none =>
      refine .holds ?_
      by_cases hrest : (Backend.lines process.output).2 = []
      · rw [decide_eq_true hrest]
        simp only [hrest, ne_eq, not_true_eq_false, if_false]
        refine .holds ?_
        cases hstatus : process.status.success with
        | false => exact .fail hs'
        | true => exact .holds (.pure hs')
      · rw [decide_eq_false hrest]
        simp only [hrest, ne_eq, not_false_eq_true, if_true]
        exact .fail hs'

/-! ### The run of the backend -/

theorem performs_launch (backend arguments : Path) :
    (outside (Backend.launch backend arguments)).Performs s
      [.call (.launch backend [64 :: arguments])] fun r cs s' =>
        launched cs = r.toOption ∧ s'.session = s.session := by
  let answer := (Platform.launch backend [64 :: arguments] s.world.world).1
  refine performs_outside_iff.2 (Act.Performs.within (Q := fun r cs _ =>
    r = answer.mapError Act.osFailure ∧ launched cs = answer.toOption) ?_ ?_)
  · refine .ofOs rfl rfl rfl ⟨rfl, ?_⟩
    simp [launched, Call.process?, answer]
  · rintro r cs t ⟨rfl, hcs⟩
    rw [hcs]
    cases answer <;> exact ⟨rfl, rfl⟩

/-- The backend is run, what it did is taken in, and the arguments file goes. -/
theorem performs_launch_collect_delete (backend arguments : Path) :
    Act.PerformsSome (do
      let process ← outside (Backend.launch backend arguments)
      Backend.collect backend process takeOutput
      delete arguments) s fun steps _ cs s' =>
        steps = [.call (.launch backend [64 :: arguments])] ++
          (takeIn (launched cs) ++ [.call (.removeFile arguments)]) ∧
        ∃ outputs, s'.session = { s.session with outputs } := by
  refine (performs_launch backend arguments).toSome.bind ?_ ?_
  · rintro _ process cs s' ⟨rfl, hcs, hs'⟩
    have htakenIn : Act.Performs (do
        Backend.collect backend process takeOutput
        delete arguments) s' (processScript process ++ [.call (.removeFile arguments)])
        fun _ _ s'' => ∃ outputs, s''.session = { s'.session with outputs } := by
      refine (performs_collect backend process).bind ?_ fun _ _ _ h => h
      rintro _ _ s'' ⟨outputs, hs''⟩
      exact (performs_delete arguments).mono fun _ _ _ h => ⟨outputs, h.trans hs''⟩
    refine htakenIn.toSome.mono ?_
    rintro _ _ cs' s'' ⟨rfl, outputs, hs''⟩
    rw [launched_append_of_some cs' hcs]
    exact ⟨rfl, outputs, by rw [hs'', hs']⟩
  · rintro _ failure cs s' ⟨rfl, hcs, hs'⟩
    rw [hcs]
    exact ⟨_, rfl, s.session.outputs, hs'⟩

/-- Before the backend runs, its arguments are written; that they are reported cannot be noticed. -/
theorem performs_prepareBackend (span : Span) (backend arguments : Path) (words : List Bytes) :
    (prepareBackend span backend arguments words).Performs s (argumentsScript arguments words)
      fun _ cs s' => cs.filterMap Call.process? = [] ∧ s'.session = s.session := by
  have hprepare : (prepareBackend span backend arguments words).Performs s
      (argumentsScript arguments words ++ []) fun _ _ s' => s'.session = s.session := by
    refine Act.Performs.bind (Q := fun _ _ s' => s'.session = s.session) ?_ ?_ fun _ _ _ h => h
    · exact performs_outside_iff.2
        ((performs_writeArguments arguments words s.world).mono fun _ _ _ _ => rfl)
    · intro _ _ s' hs'
      refine performs_view_bind_iff.2 ?_
      split
      · exact performs_outside_iff.2
          ((performs_reportCommand (some span) backend arguments s'.world).mono fun _ _ _ _ => hs')
      · exact .pure hs'
  rw [List.append_nil] at hprepare
  refine Act.Yields.mono hprepare fun r cs s' ⟨hfollows, hs'⟩ => ⟨hfollows, ?_, hs'⟩
  exact processes_eq_nil hfollows (by simp [argumentsScript])

/-- **The backend gets its arguments, runs and is taken in**, if the session is not over and there
is a backend. -/
theorem performs_runBackend (span : Span) :
    (runBackend span).PerformsSome s fun steps _ cs s' =>
      steps = backendScript s.session (takeIn (launched cs)) ∧
        ∃ outputs, s'.session = { s.session with outputs } := by
  cases hdirectory : s.session.temporaryDirectory with
  | none =>
      refine yields_directory_bind_of_none hdirectory
        ⟨backendScript s.session [], ?_, rfl, s.session.outputs, rfl⟩
      rw [backendScript, hdirectory]
      exact .violated
  | some directory =>
      refine (yields_directory_bind_iff hdirectory).2 (yields_view_bind_iff.2 ?_)
      cases hbackend : s.session.options.backend? with
      | none =>
          refine ⟨[], .refl _, backendScript s.session [], ?_, rfl, s.session.outputs, rfl⟩
          rw [backendScript, hdirectory, hbackend]
          exact .holds .violated
      | some name =>
          let backend := Bytes.ofString name
          have hscript : ∀ taken, backendScript s.session taken =
              [.require true, .require true] ++
                (argumentsScript s.session.argumentsPath s.session.backendArguments ++
                  ([.call (.launch backend [64 :: s.session.argumentsPath])] ++
                    (taken ++ [.call (.removeFile s.session.argumentsPath)]))) := by
            intro taken
            rw [backendScript, hdirectory, hbackend]
            rfl
          have harguments : directory.join Backend.argumentsName = s.session.argumentsPath := by
            rw [argumentsPath, hdirectory]
            rfl
          rw [harguments]
          have hprepare := performs_prepareBackend (s := s) span backend s.session.argumentsPath
            s.session.backendArguments
          refine yields_view_bind_iff.2 (hprepare.holds.holds.toSome.bind ?_ ?_)
          · rintro _ _ cs s' ⟨rfl, hcs, hs'⟩
            refine (performs_launch_collect_delete backend s.session.argumentsPath).mono ?_
            rintro _ _ cs' s'' ⟨rfl, outputs, hs''⟩
            rw [launched_append_of_none _ hcs, hscript]
            exact ⟨rfl, outputs, by rw [hs'', hs']⟩
          · rintro _ failure cs s' ⟨rfl, hcs, hs'⟩
            rw [launched, hcs]
            exact ⟨_, (hscript []).symm, s.session.outputs, hs'⟩

/-! ### The whole -/

/-- The items go to the linker, and they are forgotten before that. -/
theorem performs_forwardPassThrough :
    forwardPassThrough.Performs s (s.session.options.passThrough.flatMap passThroughScript)
      fun _ _ s' => s'.session =
        { s.session with options := { s.session.options with passThrough := [] } } := by
  have hitem : ∀ item (t : Traced W), (passThrough item).Performs t (passThroughScript item)
      fun _ _ _ => True := by
    intro item t
    cases item with
    | library name => exact .ofFunction rfl rfl rfl trivial
    | file path => exact .ofFunction rfl rfl rfl trivial
  refine performs_view_bind_iff.2 (performs_update_bind_iff.2 (performs_outside_iff.2 ?_))
  have hitems := Act.Performs.forEach (I := fun _ _ => True) (fun item _ t _ => hitem item t)
    s.session.options.passThrough [] (s := s.world) trivial
  exact hitems.mono fun _ _ _ _ => rfl

/-- The resolutions are asked for and written. -/
theorem performs_settleResolutions (span : Span) :
    (settleResolutions span).PerformsSome s fun steps _ cs s' =>
      steps = resolutionScript s.session
        (ResolutionFile.render ⟨enterAll s.session.registry.files (answers cs)⟩) ∧
      s'.session =
        { s.session with registry := ⟨enterAll s.session.registry.files (answers cs)⟩ } := by
  refine yields_view_bind_iff.2 ?_
  simp only [id]
  cases hfile : s.session.options.resolutionFile with
  | none =>
      refine ⟨[], .refl _, [], .done, ?_, ?_⟩
      · rw [resolutionScript, hfile]
      · rw [answers_nil, enterAll_nil]
        rfl
  | some path =>
      have hresolve := @performs_resolve W _ span s.session.registry.files [] s rfl
      refine hresolve.toSome.bind ?_ ?_
      · rintro _ _ cs s' ⟨rfl, hs'⟩
        refine Act.Yields.mono (performs_writeResolutions (s := s') span path) ?_
        rintro r cs' s'' ⟨hfollows, hs''⟩
        have hcs' := answers_eq_nil hfollows (by simp)
        refine ⟨_, hfollows, ?_, ?_⟩
        · rw [answers_append, hcs', List.append_nil, hs', resolutionScript, hfile]
          rfl
        · rw [answers_append, hcs', List.append_nil, hs'', hs']
          rfl
      · rintro _ failure cs s' ⟨rfl, hs'⟩
        let text := ResolutionFile.render ⟨enterAll s.session.registry.files (answers cs)⟩
        refine ⟨[.call (.createFile path), .call (.appendFile path text)], ?_, hs'⟩
        rw [resolutionScript, hfile]

/-- No questions are asked for the claimed files. -/
theorem question_not_mem_fileScript (session : Session) (process : Option Process)
    (handle : Handle) (symbols : List Symbol) :
    Step.call (.getSymbols handle symbols) ∉ fileScript session (takeIn process) := by
  have hitem : ∀ item, Step.call (.getSymbols handle symbols) ∉ passThroughScript item := by
    intro item h
    obtain ⟨_, h⟩ | ⟨_, h⟩ := eq_of_mem_passThroughScript h <;> cases h
  unfold fileScript
  split
  · simp
  · cases process <;>
      simp [hitem, backendScript, argumentsScript, takeIn, processScript, outputScript, lineScript]

/-- The claimed files go back to the linker. -/
theorem performs_handBack :
    (Act.forEach (fun path => outside (Act.ofFunction (Platform.addInputFile path)))
      s.session.registry.paths).Performs s
      (s.session.registry.paths.flatMap fun path => [.call (.addInputFile path)])
      fun _ cs s' => s'.session = s.session ∧ released cs = false := by
  have hfiles := Act.Performs.forEach (I := fun _ s' => s'.session = s.session)
    (fun path _ s' hs' => (performs_addInputFile path).mono fun _ _ _ h => h.trans hs')
    s.session.registry.paths [] (s := s) rfl
  refine Act.Yields.mono hfiles fun r cs s' ⟨hfollows, hs'⟩ => ⟨hfollows, hs', ?_⟩
  exact not_released_of_follows hfollows (by simp)

/-- The symbols are released, the backend runs, and what is to be passed through is passed
through. -/
theorem performs_releaseAndRun (span : Span) :
    (do releaseSymbols; runBackend span; forwardPassThrough).PerformsSome s fun steps _ cs s' =>
      steps = [Step.call .releaseSymbols] ++ (backendScript s.session (takeIn (launched cs)) ++
        s.session.options.passThrough.flatMap passThroughScript) ∧
      released cs = true ∧ ∃ outputs passThrough, s'.session =
        { s.session with
          registry := s.session.registry.release
          outputs
          options := { s.session.options with passThrough } } := by
  refine performs_releaseSymbols.toSome.bind ?_ ?_
  · rintro _ _ _ s' ⟨rfl, rfl, hs'⟩
    have hpaths : s'.session.registry.paths = s.session.registry.paths := by
      rw [hs']
      exact Registry.paths_release s.session.registry
    have hbackend : ∀ taken, backendScript s'.session taken = backendScript s.session taken :=
      fun taken => backendScript_congr hpaths (by rw [hs']) (by rw [hs'])
    refine (performs_runBackend span).bind ?_ ?_
    · rintro _ _ cs s'' ⟨rfl, outputs, hs''⟩
      refine Act.Yields.mono performs_forwardPassThrough ?_
      rintro r cs' s₃ ⟨hfollows, hs₃⟩
      have hcs' : cs'.filterMap Call.process? = [] := by
        refine processes_eq_nil hfollows fun _ _ h => ?_
        obtain ⟨item, -, h⟩ := List.mem_flatMap.1 h
        obtain ⟨_, h⟩ | ⟨_, h⟩ := eq_of_mem_passThroughScript h <;> cases h
      refine ⟨_, hfollows, ?_, rfl, outputs, [], ?_⟩
      · rw [launched_append_of_none _ rfl, launched_append_right _ hcs', hbackend, hs'', hs']
      · rw [hs₃, hs'', hs']
    · rintro _ failure cs s'' ⟨rfl, outputs, hs''⟩
      refine ⟨s.session.options.passThrough.flatMap passThroughScript, ?_, rfl, outputs,
        s.session.options.passThrough, ?_⟩
      · rw [launched_append_of_none _ rfl, hbackend]
      · rw [hs'', hs']
  · rintro _ failure _ s' ⟨rfl, rfl, hs'⟩
    exact ⟨backendScript s.session [] ++ s.session.options.passThrough.flatMap passThroughScript,
      rfl, rfl, s.session.outputs, s.session.options.passThrough, hs'⟩

/-- The claimed files go back to the linker, or the backend runs on them. -/
theorem performs_settleFiles (span : Span) :
    (settleFiles span).PerformsSome s fun steps _ cs s' =>
      steps = fileScript s.session (takeIn (launched cs)) ∧
      ∃ outputs passThrough, s'.session =
        { s.session with
          registry := if released cs then s.session.registry.release else s.session.registry
          outputs
          options := { s.session.options with passThrough } } := by
  refine yields_view_bind_iff.2 ?_
  simp only [id]
  split
  · rename_i hbypass
    refine Act.Yields.mono performs_handBack ?_
    rintro r cs s' ⟨hfollows, hs', hcs⟩
    refine ⟨_, hfollows, ?_, s.session.outputs, s.session.options.passThrough, ?_⟩
    · rw [fileScript, if_pos hbypass]
      rfl
    · rw [hs', hcs]
      rfl
  · rename_i hbypass
    refine (performs_releaseAndRun span).mono ?_
    rintro steps r cs s' ⟨rfl, hcs, outputs, passThrough, hs'⟩
    refine ⟨?_, outputs, passThrough, ?_⟩
    · rw [fileScript, if_neg hbypass]
    · rw [hs', hcs]
      rfl

/-- Questions are about files that still have their symbols. -/
theorem exists_of_question_mem_resolutionScript {session : Session} {text : Bytes}
    {handle : Handle} {symbols : List Symbol}
    (h : Step.call (.getSymbols handle symbols) ∈ resolutionScript session text) :
    ∃ file ∈ session.registry.files, ∃ table, file.handle = handle ∧
      file.symbols = some table ∧ table.symbols = symbols := by
  unfold resolutionScript at h
  split at h
  · cases h
  · simp only [List.mem_append, List.mem_cons, List.not_mem_nil, or_false, Step.call.injEq,
      reduceCtorEq, questions, List.mem_filterMap, Option.map_eq_some_iff] at h
    obtain ⟨file, hfile, table, htable, hquestion⟩ := h
    cases hquestion
    exact ⟨file, hfile, table, rfl, htable, rfl⟩

theorem launch_not_mem_resolutionScript (session : Session) (text : Bytes) (program : Path)
    (arguments : List Bytes) :
    Step.call (.launch program arguments) ∉ resolutionScript session text := by
  unfold resolutionScript
  split <;> simp [questions]

theorem release_not_mem_resolutionScript (session : Session) (text : Bytes) :
    Step.call .releaseSymbols ∉ resolutionScript session text := by
  unfold resolutionScript
  split <;> simp [questions]

/-- With no claimed file, nothing happens. -/
theorem yields_allSymbolsRead_of_empty (hfiles : s.session.registry.files = []) :
    allSymbolsRead.Yields s fun r cs s' =>
      r = .ok () ∧ visible cs = [] ∧ s'.session = s.session := by
  refine yields_view_bind_iff.2 ?_
  rw [if_pos hfiles]
  exact ⟨_, .single _ _, rfl, rfl, rfl⟩

/-- With claimed files, the session follows its script. -/
theorem yields_allSymbolsRead (hfiles : s.session.registry.files ≠ []) :
    allSymbolsRead.Yields s fun r cs s' =>
      Follows (script s.session cs) (visible cs) r.isOk ∧
      ∃ registry outputs passThrough,
        registry = (⟨enterAll s.session.registry.files (answers cs)⟩ : Registry) ∧
        s'.session =
          { s.session with
            registry := if released cs then registry.release else registry
            outputs
            options := { s.session.options with passThrough } } := by
  refine yields_view_bind_iff.2 ?_
  rw [if_neg hfiles]
  refine Act.Yields.bind (performs_settleResolutions Span.allSymbolsRead) ?_ ?_
  · rintro _ cs s' ⟨_, hfollows, rfl, hs'⟩
    have hprograms := processes_eq_nil hfollows (launch_not_mem_resolutionScript _ _)
    have hreleased := not_released_of_follows hfollows (release_not_mem_resolutionScript _ _)
    have hpaths : s'.session.registry.paths = s.session.registry.paths := by
      rw [hs', Registry.paths_eq_map_identities, Registry.identities, identities_enterAll,
        Registry.paths_eq_map_identities, Registry.identities]
    have hscript : ∀ taken, fileScript s'.session taken = fileScript s.session taken := by
      intro taken
      rw [fileScript_congr hpaths (by rw [hs']) (by rw [hs'])]
    refine Act.Yields.mono (performs_settleFiles Span.allSymbolsRead) ?_
    rintro r cs' s'' ⟨_, hfollows', rfl, outputs, passThrough, hs''⟩
    have hquestions := answers_eq_nil hfollows' (question_not_mem_fileScript _ _)
    refine ⟨?_, _, outputs, passThrough, rfl, ?_⟩
    · rw [visible_append, script, answers_append, hquestions, List.append_nil,
        launched_append_of_none _ hprograms, ← hscript]
      exact hfollows.append hfollows'
    · rw [hs'', hs', answers_append, hquestions, List.append_nil, released_append, hreleased,
        Bool.false_or]
  · rintro failure cs s' ⟨_, hfollows, rfl, hs'⟩
    have hreleased := not_released_of_follows hfollows (release_not_mem_resolutionScript _ _)
    refine ⟨hfollows.append_of_failed, _, s.session.outputs, s.session.options.passThrough, rfl, ?_⟩
    rw [hs', hreleased]
    rfl

/-- **With no claimed file, nothing happens.  Otherwise the calls are those of the script up to
the first step that fails, and success means that there is no such step**, so that all calls of
the script were made.  The script goes by what the surroundings answer: the resolutions that they
gave, and the lines that the backend printed.  The session gives up its symbols together with the
linker, and nothing else of what it knows of the files. -/
theorem allSymbolsRead_effects (s : Live (Traced W)) :
    allSymbolsRead.Yields s fun r cs s' =>
      (s.session.registry.files = [] → r = .ok () ∧ visible cs = [] ∧ s'.session = s.session) ∧
      (s.session.registry.files ≠ [] → ∃ taken, TakesIn (launched cs) taken ∧
        let files := enterAll s.session.registry.files (answers cs)
        let steps := resolutionScript s.session (ResolutionFile.render ⟨files⟩) ++
          fileScript s.session taken
        Follows steps (visible cs) r.isOk ∧
        (visible cs).map (·.effect) <+: steps.filterMap Step.effect? ∧
        (r.isOk = true ↔
          (visible cs).map (·.effect) = steps.filterMap Step.effect? ∧
            (∀ c ∈ visible cs, c.succeeded = true) ∧ ∀ step ∈ steps, step.holds = true) ∧
        s'.session.registry.files =
          if released cs then files.map fun file => { file with symbols := none } else files) := by
  by_cases hfiles : s.session.registry.files = []
  · exact (yields_allSymbolsRead_of_empty hfiles).mono fun r cs s' h =>
      ⟨fun _ => h, fun hne => absurd hfiles hne⟩
  · refine (yields_allSymbolsRead hfiles).mono ?_
    rintro r cs s' ⟨hfollows, _, outputs, passThrough, rfl, hs'⟩
    refine ⟨fun h => absurd h hfiles, fun _ => ⟨_, takesIn_takeIn (launched cs), ?_⟩⟩
    refine ⟨hfollows, hfollows.isPrefix, hfollows.succeeds_iff, ?_⟩
    rw [hs']
    cases released cs <;> rfl

/-- A session with one claimed file, and a backend that prints something. -/
def printing (output : Bytes) : Live (Traced (Machine ScriptedLinker)) where
  session :=
    { options :=
        { resolutionFile := some [47, 114], passThrough := [.library "c"], backendWords := ["b"] }
      temporaryDirectory := some [47]
      registry := ⟨[⟨[97], 5, false, some ⟨[]⟩⟩]⟩ }
  world :=
    { world :=
        { disk := ⟨⟨[]⟩, []⟩
          launcher := fun disk _ _ => (.ok { output, status := .exited 0 }, disk)
          linker := { resolutions := [(5, [])] }
          journal := { subscriber := .nobody } } }

/-- What the session does with such output, up to the first name. -/
def printingBegins : List Effect :=
  [.getSymbols 5 [], .createFile [47, 114],
    .appendFile [47, 114] (ResolutionFile.render ⟨[⟨[97], 5, false, some ⟨[]⟩⟩]⟩), .releaseSymbols,
    .createFile ([47] ++ Backend.argumentsName),
    .appendFile ([47] ++ Backend.argumentsName) (ArgumentsFile.render [[97]]),
    .launch [98] [64 :: 47 :: Backend.argumentsName], .addInputFile [111]]

/-- Two lines are taken in, and then the library is passed through.  Of the same output without the
newline at its end, there is only one line, and nothing comes after that. -/
theorem allSymbolsRead_effects_sample :
    ((allSymbolsRead (printing [111, 10, 112, 10])).1.isOk = true ∧
      (visible (allSymbolsRead (printing [111, 10, 112, 10])).2.world.calls).map (·.effect) =
        printingBegins ++ [.addInputFile [112], .removeFile ([47] ++ Backend.argumentsName),
          .addInputLibrary "c"] ∧
      (allSymbolsRead (printing [111, 10, 112, 10])).2.session.registry.files =
        [⟨[97], 5, false, none⟩]) ∧
    (allSymbolsRead (printing [111, 10, 112])).1.isOk = false ∧
      (visible (allSymbolsRead (printing [111, 10, 112])).2.world.calls).map (·.effect) =
        printingBegins := by
  refine ⟨?_, ?_⟩
  · obtain ⟨cs, hext, -, hfull⟩ := allSymbolsRead_effects (printing [111, 10, 112, 10])
    obtain ⟨taken, htaken, -, -, hsucceeds, hregistry⟩ := hfull (by decide)
    obtain rfl : (allSymbolsRead (printing [111, 10, 112, 10])).2.world.calls = cs :=
      hext.calls_eq
    have hok : (allSymbolsRead (printing [111, 10, 112, 10])).1.isOk = true := by decide +kernel
    have hlaunched : launched (allSymbolsRead (printing [111, 10, 112, 10])).2.world.calls =
        some { output := [111, 10, 112, 10], status := .exited 0 } := by decide +kernel
    have hanswers : answers (allSymbolsRead (printing [111, 10, 112, 10])).2.world.calls =
        [[]] := by decide +kernel
    have hreleased : released (allSymbolsRead (printing [111, 10, 112, 10])).2.world.calls =
        true := by decide +kernel
    have heffects := (hsucceeds.1 hok).1
    rw [hanswers] at heffects hregistry
    rw [hlaunched] at htaken
    cases htaken with
    | output hsplit =>
        have hlines : Backend.lines [111, 10, 112, 10] = ([[111], [112]], []) := by decide
        obtain ⟨rfl, rfl⟩ := Prod.mk.inj (hlines.symm.trans (Backend.isSplit_iff.1 hsplit))
        refine ⟨hok, heffects.trans ?_, hregistry.trans ?_⟩
        · decide +kernel
        · rw [hreleased]
          decide +kernel
  · obtain ⟨cs, hext, -, hfull⟩ := allSymbolsRead_effects (printing [111, 10, 112])
    obtain ⟨taken, htaken, -, -, hsucceeds, -⟩ := hfull (by decide)
    obtain rfl : (allSymbolsRead (printing [111, 10, 112])).2.world.calls = cs := hext.calls_eq
    have hlaunched : launched (allSymbolsRead (printing [111, 10, 112])).2.world.calls =
        some { output := [111, 10, 112], status := .exited 0 } := by decide +kernel
    rw [hlaunched] at htaken
    refine ⟨Bool.eq_false_iff.2 fun hok => ?_, by decide +kernel⟩
    -- something follows the last line, which the script does not allow
    cases htaken with
    | output hsplit =>
        have hlines : Backend.lines [111, 10, 112] = ([[111]], [112]) := by decide
        obtain ⟨rfl, rfl⟩ := Prod.mk.inj (hlines.symm.trans (Backend.isSplit_iff.1 hsplit))
        have hrest := (hsucceeds.1 hok).2.2 (.require false)
          (by simp [fileScript, backendScript, outputScript, printing])
        cases hrest

end Session

end LtoBridge
