/-
**What is passed through.**

The items that the options name go to the linker when all symbols have been read, once the backend
has done its work and its arguments file has been removed.  The session forgets them before it hands
over the first one.  So no item is handed over twice, however often the linker says that all symbols
have been read, and whatever fails on the way.

Main definitions:

* `LtoBridge.afterRemoval`: the calls that come after a file has been removed;
* `LtoBridge.Session.Operation.forwards`, `LtoBridge.Session.forwarded`: the calls by which items
  are passed through, of an operation and of a run;
* `LtoBridge.Session.Completed`: all that has happened before an item is passed through;
* `LtoBridge.Session.IsOther`: the other calls by which the linker gets files.

Main results:

* `LtoBridge.Session.yields_allSymbolsRead_forgets`: items are forgotten before they are passed
  through;
* `LtoBridge.Session.forwarded_run`: **over a whole run, every item is passed through at most
  once**;
* `LtoBridge.Session.items_are_passed_through_once`: the same for the options that name the items,
  with all that has happened before.
-/

import LtoBridge.Proofs.Options
import LtoBridge.Proofs.Session.Endings
import LtoBridge.Proofs.Session.OwnCalls
import Mathlib.Data.List.TakeWhile

set_option autoImplicit false

namespace LtoBridge

/-- Does a call hand a file or a library to the linker? -/
def Effect.isInput : Effect → Bool
  | addInputFile _ | addInputLibrary _ => true
  | _ => false

/-- Does a call remove a file? -/
def Effect.isRemoval : Effect → Bool
  | removeFile _ => true
  | _ => false

/-- The linker gets what is handed to it. -/
theorem Effect.not_input_of_own {e : Effect} (h : e.IsOwn) : ¬ e.isInput = true := by
  intro hinput
  cases e with
  | addInputFile | addInputLibrary => cases h
  | _ => cases hinput

/-! ### After a removal -/

section

variable {W : Type}

/-- **The calls after the first one that removes a file**, as far as they can be noticed. -/
def afterRemoval (cs : List (Call W)) : List (Call W) :=
  ((visible cs).dropWhile fun c => !c.effect.isRemoval).tail

theorem afterRemoval_eq_nil {cs : List (Call W)}
    (h : ∀ c ∈ visible cs, c.effect.isRemoval = false) : afterRemoval cs = [] := by
  have hall : (visible cs).dropWhile (fun c => !c.effect.isRemoval) = [] := by
    rw [List.dropWhile_eq_nil_iff]
    intro c hc
    rw [h c hc]
    rfl
  rw [afterRemoval, hall, List.tail_nil]

theorem afterRemoval_of_split {cs before after : List (Call W)} {c : Call W}
    (h : visible cs = before ++ c :: after) (hbefore : ∀ d ∈ before, d.effect.isRemoval = false)
    (hc : c.effect.isRemoval = true) : afterRemoval cs = after := by
  have hpass : ∀ d ∈ before, (!d.effect.isRemoval) = true := by
    intro d hd
    rw [hbefore d hd]
    rfl
  rw [afterRemoval, h, List.dropWhile_append_of_pos hpass,
    List.dropWhile_cons_of_neg (by simp [hc]), List.tail_cons]

theorem afterRemoval_append {cs cs' : List (Call W)}
    (h : ∀ c ∈ visible cs, c.effect.isRemoval = false) :
    afterRemoval (cs ++ cs') = afterRemoval cs' := by
  have hpass : ∀ c ∈ visible cs, (!c.effect.isRemoval) = true := by
    intro c hc
    rw [h c hc]
    rfl
  rw [afterRemoval, visible_append, List.dropWhile_append_of_pos hpass]
  rfl

variable [Platform W]

/-- **A script with a removal in it** is followed up to the removal at most, or beyond it. -/
inductive Removes (steps : List Step) (removed : Path) (rest : List Step) (cs : List (Call W))
    (ok : Bool) : Prop
  | unfinished (hcalls : Follows (steps ++ [.call (.removeFile removed)]) (visible cs) false)
      (hafter : afterRemoval cs = []) (hok : ok = false)
  | beyond (before : List (Call W)) (c : Call W)
      (hcalls : visible cs = before ++ c :: afterRemoval cs) (hbefore : Follows steps before true)
      (hc : c.effect = .removeFile removed) (hsucceeded : c.succeeded = true)
      (hafter : Follows rest (afterRemoval cs) ok)

theorem removes_of_follows {steps rest : List Step} {removed : Path} {cs : List (Call W)}
    {ok : Bool} (h : Follows (steps ++ .call (.removeFile removed) :: rest) (visible cs) ok)
    (hsteps : ∀ e, Step.call e ∈ steps → e.isRemoval = false) :
    Removes steps removed rest cs ok := by
  obtain ⟨hfirst, hok⟩ | ⟨before, after, hcalls, hbefore, hafter⟩ := h.split
  · refine .unfinished hfirst.append_of_failed (afterRemoval_eq_nil fun c hc => ?_) hok
    exact hsteps _ (hfirst.effect_mem hc)
  · have hnone : ∀ d ∈ before, d.effect.isRemoval = false :=
      fun d hd => hsteps _ (hbefore.effect_mem hd)
    obtain ⟨c, rest', rfl, hc, hgoes | ⟨hfailed, rfl, hok⟩⟩ := hafter.of_call
    · have hrest : afterRemoval cs = rest' :=
        afterRemoval_of_split hcalls hnone (by rw [hc]; rfl)
      subst hrest
      exact .beyond before c hcalls hbefore hc hgoes.1 hgoes.2
    · refine .unfinished ?_ (afterRemoval_of_split hcalls hnone (by rw [hc]; rfl)) hok
      rw [hcalls, ← hc]
      exact hbefore.append (.failed hfailed)

end

namespace Session

variable {W : Type} [Platform W] {s : Live (Traced W)}

/-! ### The script up to the removal of the arguments file -/

/-- The script for the backend, up to the point where the arguments file is removed. -/
def runScript (session : Session) (process : Option Process) : List Step :=
  [.require session.temporaryDirectory.isSome, .require session.options.backend?.isSome] ++
    (argumentsScript session.argumentsPath session.backendArguments ++
      .call (.launch (Bytes.ofString (session.options.backend?.getD ""))
        [64 :: session.argumentsPath]) :: takeIn process)

/-- The whole script up to that point. -/
def beforeRemoval (session : Session) (text : Bytes) (process : Option Process) : List Step :=
  resolutionScript session text ++ .call .releaseSymbols :: runScript session process

theorem backendScript_eq (session : Session) (process : Option Process) :
    backendScript session (takeIn process) =
      runScript session process ++ [.call (.removeFile session.argumentsPath)] := by
  simp [backendScript, runScript]

/-- After the removal, items are passed through, and nothing else is done. -/
theorem script_eq_beforeRemoval {session : Session} (cs : List (Call W))
    (hbypass : session.options.bypassBackend = false) :
    script session cs = beforeRemoval session
        (ResolutionFile.render ⟨enterAll session.registry.files (answers cs)⟩) (launched cs) ++
      .call (.removeFile session.argumentsPath) ::
        session.options.passThrough.flatMap passThroughScript := by
  simp [script, fileScript, hbypass, backendScript_eq, beforeRemoval]

/-- The linker gets the output of the backend. -/
theorem eq_of_mem_processScript {process : Process} {e : Effect}
    (h : Step.call e ∈ processScript process) :
    ∃ line ∈ (Backend.lines process.output).1, e = .addInputFile line := by
  rcases List.mem_append.1 h with h | h
  · obtain ⟨line, hline, h⟩ := List.mem_flatMap.1 h
    exact ⟨line, hline, by simpa [lineScript] using h⟩
  · simp at h

/-- A call that removes nothing, and by which the linker gets no files but the output of the
backend. -/
def IsWork (process : Option Process) (e : Effect) : Prop :=
  e.isRemoval = false ∧ (e.isInput = true → ∃ p, process = some p ∧
    ∃ line ∈ (Backend.lines p.output).1, e = .addInputFile line)

theorem IsWork.of_not_input {process : Option Process} {e : Effect} (hremoval : e.isRemoval = false)
    (hinput : e.isInput = false) : IsWork process e :=
  ⟨hremoval, fun h => Bool.noConfusion (hinput.symm.trans h)⟩

theorem isWork_of_mem_runScript {session : Session} {process : Option Process} {e : Effect}
    (h : Step.call e ∈ runScript session process) : IsWork process e := by
  simp only [runScript, argumentsScript, List.mem_append, List.mem_cons, reduceCtorEq,
    Step.call.injEq, List.not_mem_nil, false_or, or_false] at h
  rcases h with (rfl | rfl) | rfl | h
  · exact .of_not_input rfl rfl
  · exact .of_not_input rfl rfl
  · exact .of_not_input rfl rfl
  · cases process with
    | none => cases h
    | some p =>
        obtain ⟨line, hline, rfl⟩ := eq_of_mem_processScript h
        exact ⟨rfl, fun _ => ⟨p, rfl, line, hline, rfl⟩⟩

theorem isWork_of_mem_resolutionScript {session : Session} {text : Bytes} {e : Effect}
    (process : Option Process) (h : Step.call e ∈ resolutionScript session text) :
    IsWork process e := by
  unfold resolutionScript at h
  split at h
  · cases h
  · simp only [questions, List.mem_append, List.mem_filterMap, Option.map_eq_some_iff,
      List.mem_cons, Step.call.injEq, List.not_mem_nil, or_false] at h
    obtain ⟨_, -, _, -, rfl⟩ | rfl | rfl := h <;> exact .of_not_input rfl rfl

theorem isWork_of_mem_beforeRemoval {session : Session} {text : Bytes} {process : Option Process}
    {e : Effect} (h : Step.call e ∈ beforeRemoval session text process) : IsWork process e := by
  rcases List.mem_append.1 h with h | h
  · exact isWork_of_mem_resolutionScript process h
  · rcases List.mem_cons.1 h with h | h
    · cases h
      exact .of_not_input rfl rfl
    · exact isWork_of_mem_runScript h

theorem removes_of_follows_script {session : Session} {cs : List (Call W)} {ok : Bool}
    (h : Follows (script session cs) (visible cs) ok)
    (hbypass : session.options.bypassBackend = false) :
    Removes (beforeRemoval session
        (ResolutionFile.render ⟨enterAll session.registry.files (answers cs)⟩) (launched cs))
      session.argumentsPath (session.options.passThrough.flatMap passThroughScript) cs ok := by
  rw [script_eq_beforeRemoval cs hbypass] at h
  exact removes_of_follows h fun e he => (isWork_of_mem_beforeRemoval he).1

/-! ### Items are forgotten -/

/-- If the run of the backend fails, nothing is done after the removal of the arguments file. -/
theorem yields_runBackend_unfinished (span : Span) :
    (runBackend span).Yields s fun r cs s' =>
      s'.session.options = s.session.options ∧ (r.isOk = false → afterRemoval cs = []) := by
  refine Act.Yields.mono (performs_runBackend span) ?_
  rintro r cs s' ⟨_, hfollows, rfl, outputs, hs'⟩
  refine ⟨by rw [hs'], fun hr => ?_⟩
  rw [hr, backendScript_eq] at hfollows
  have hempty : ∀ cs : List (Call W), ¬ Follows [] cs false := by
    intro cs h
    cases h
  cases removes_of_follows hfollows fun e he => (isWork_of_mem_runScript he).1 with
  | unfinished _ hafter _ => exact hafter
  | beyond _ _ _ _ _ _ hafter => exact absurd hafter (hempty _)

/-- What may become of the items, and of the calls after the removal of the arguments file. -/
def Forgets (session : Session) (cs : List (Call W)) (session' : Session) : Prop :=
  session'.options.passThrough = [] ∨
    session'.options.passThrough = session.options.passThrough ∧ afterRemoval cs = []

theorem yields_settleFiles_forgets (span : Span) :
    (settleFiles span).Yields s fun _ cs s' => Forgets s.session cs s'.session := by
  refine yields_view_bind_iff.2 ?_
  simp only [id]
  split
  · -- files go back to the linker
    have hfiles := Act.Performs.forEach (I := fun _ s' => s'.session = s.session)
      (fun path _ s' hs' => (performs_addInputFile path).mono fun _ _ _ h => h.trans hs')
      s.session.registry.paths [] (s := s) rfl
    refine Act.Yields.mono hfiles ?_
    rintro r cs s' ⟨hfollows, hs'⟩
    refine .inr ⟨by rw [hs'], afterRemoval_eq_nil fun c hc => ?_⟩
    obtain ⟨path, -, h⟩ := List.mem_flatMap.1 (hfollows.effect_mem hc)
    rw [Step.call.inj (List.mem_singleton.1 h)]
    rfl
  · refine yields_releaseSymbols.bind ?_ ?_
    · rintro _ _ s' ⟨-, rfl, hs'⟩
      refine (yields_runBackend_unfinished span).bind ?_ ?_
      · rintro _ cs s'' -
        refine Act.Yields.mono performs_forwardPassThrough ?_
        rintro r cs' s₃ ⟨-, hs₃⟩
        exact .inl (by rw [hs₃])
      · rintro failure cs s'' ⟨hoptions, hunfinished⟩
        have hnone : ∀ c ∈ visible [(⟨.releaseSymbols, s.world.world⟩ : Call W)],
            c.effect.isRemoval = false := by
          intro c hc
          rw [List.mem_singleton.1 hc]
          rfl
        refine .inr ⟨by rw [hoptions, hs'], ?_⟩
        rw [afterRemoval_append hnone]
        exact hunfinished rfl
    · rintro _ _ _ ⟨⟨⟩, -⟩

/-- **Items are forgotten before they are passed through.** -/
theorem yields_allSymbolsRead_forgets (s : Live (Traced W)) :
    allSymbolsRead.Yields s fun _ cs s' => Forgets s.session cs s'.session := by
  refine yields_view_bind_iff.2 ?_
  split
  · refine (yields_tell_hidden _ _).mono ?_
    rintro _ cs s' ⟨-, hcs, hs'⟩
    refine .inr ⟨by rw [hs'], ?_⟩
    rw [afterRemoval, hcs]
    rfl
  · have hnone : ∀ {text : Bytes} {cs : List (Call W)} {ok : Bool},
        Follows (resolutionScript s.session text) (visible cs) ok →
        ∀ c ∈ visible cs, c.effect.isRemoval = false :=
      fun hfollows c hc => (isWork_of_mem_resolutionScript none (hfollows.effect_mem hc)).1
    refine Act.Yields.bind (performs_settleResolutions Span.allSymbolsRead) ?_ ?_
    · rintro _ cs s' ⟨_, hfollows, rfl, hs'⟩
      refine (yields_settleFiles_forgets Span.allSymbolsRead).mono ?_
      rintro r cs' s'' hforgets
      rwa [Forgets, afterRemoval_append (hnone hfollows), ← show s'.session.options =
        s.session.options by rw [hs']]
    · rintro failure cs s' ⟨_, hfollows, rfl, hs'⟩
      exact .inr ⟨by rw [hs'], afterRemoval_eq_nil (hnone hfollows)⟩

/-! ### What has happened before -/

/-- **All that has happened before items are passed through**: the backend was run and has
succeeded, its whole output was read and ended with a complete line, the linker accepted each line,
and the arguments file was removed. -/
structure Completed (session : Session) (cs : List (Call W)) (process : Process)
    (preparing accepted : List (Call W)) (launch removal : Call W) : Prop where
  calls : visible cs = preparing ++ launch :: (accepted ++ removal :: afterRemoval cs)
  launched : launched cs = some process
  launch : launch.effect = .launch (Bytes.ofString (session.options.backend?.getD ""))
    [64 :: session.argumentsPath] ∧ launch.succeeded = true
  success : process.status.success = true
  read : process.readError = none
  lines : ∃ ls, Backend.IsSplit process.output ls [] ∧
    accepted.map (·.effect) = ls.map .addInputFile
  accepted : ∀ c ∈ accepted, c.succeeded = true
  removal : removal.effect = .removeFile session.argumentsPath ∧ removal.succeeded = true

/-- What is done after all lines of the output have been taken in. -/
theorem taken_of_follows {process : Process} {ls : List Bytes} {rest : Bytes} {cs : List (Call W)}
    (h : Follows (outputScript process ls rest) cs true) :
    process.status.success = true ∧ process.readError = none ∧ rest = [] ∧
      cs.map (·.effect) = ls.map .addInputFile ∧ ∀ c ∈ cs, c.succeeded = true := by
  obtain ⟨heffects, hsucceeded, hholds⟩ := h.succeeds_iff.1 rfl
  have hrequired : ∀ holds ∈ [process.readError.isNone, decide (rest = []),
      process.status.success], holds = true := by
    intro holds hmem
    refine hholds (.require holds) (List.mem_append_right _ ?_)
    simpa using hmem
  refine ⟨hrequired _ (by simp), ?_, ?_, ?_, hsucceeded⟩
  · exact Option.isNone_iff_eq_none.1 (hrequired _ (by simp))
  · exact of_decide_eq_true (hrequired _ (by simp))
  · rw [heffects, outputScript, List.filterMap_append]
    clear h heffects hholds
    induction ls with
    | nil => rfl
    | cons line lines ih => simpa [lineScript] using ih

/-- What is passed through is passed through after a complete run of the backend. -/
theorem completed_of_beyond {session : Session} {cs before : List (Call W)} {removal : Call W}
    {text : Bytes} (hcalls : visible cs = before ++ removal :: afterRemoval cs)
    (hbefore : Follows (beforeRemoval session text (launched cs)) before true)
    (hremoval : removal.effect = .removeFile session.argumentsPath ∧ removal.succeeded = true) :
    ∃ process preparing accepted launch,
      Completed session cs process preparing accepted launch removal := by
  have hscript : beforeRemoval session text (launched cs) =
      (resolutionScript session text ++ [.call .releaseSymbols,
          .require session.temporaryDirectory.isSome, .require session.options.backend?.isSome] ++
        argumentsScript session.argumentsPath session.backendArguments) ++
      .call (.launch (Bytes.ofString (session.options.backend?.getD ""))
        [64 :: session.argumentsPath]) :: takeIn (launched cs) := by
    simp [beforeRemoval, runScript]
  rw [hscript] at hbefore
  obtain ⟨-, ⟨⟩⟩ | ⟨preparing, rest, rfl, -, hrest⟩ := hbefore.split
  obtain ⟨launch, accepted, rfl, hlaunch, ⟨hrun, haccepted⟩ | ⟨-, -, ⟨⟩⟩⟩ := hrest.of_call
  have hmem : launch ∈ cs := by
    refine List.filter_subset_self _ (?_ : launch ∈ visible cs)
    rw [hcalls]
    simp
  obtain ⟨process, hprocess⟩ := exists_launched hmem hlaunch hrun
  rw [hprocess] at haccepted
  obtain ⟨hsuccess, hread, hrest, hlines, hall⟩ := taken_of_follows haccepted
  have hsplit := Backend.isSplit_lines process.output
  rw [hrest] at hsplit
  refine ⟨process, preparing, accepted, launch, ?_, hprocess, ⟨hlaunch, hrun⟩, hsuccess, hread,
    ⟨_, hsplit, hlines⟩, hall, hremoval⟩
  rw [hcalls, List.append_assoc, List.cons_append]

/-- **The other calls by which the linker gets files**: a claimed file goes back to it, or it gets
an object of the backend. -/
inductive IsOther (session : Session) (cs : List (Call W)) (e : Effect) : Prop
  | handedBack (path : Path) (hbypass : session.options.bypassBackend = true)
      (hpath : path ∈ session.registry.paths) (h : e = .addInputFile path)
  | produced (process : Process) (ls : List Bytes) (rest line : Bytes)
      (hprocess : launched cs = some process) (hsplit : Backend.IsSplit process.output ls rest)
      (hline : line ∈ ls) (h : e = .addInputFile line)

theorem IsWork.isOther {session : Session} {cs : List (Call W)} {e : Effect}
    (h : IsWork (launched cs) e) (hinput : e.isInput = true) : IsOther session cs e := by
  obtain ⟨process, hprocess, line, hline, he⟩ := h.2 hinput
  exact .produced process _ _ line hprocess (Backend.isSplit_lines process.output) hline he

/-! ### One operation -/

/-- The calls by which an operation passes items through. -/
def Operation.forwards (op : Operation) (s : Live (Traced W)) : List (Call W) :=
  match op with
  | .allSymbolsRead => afterRemoval (op.calls s)
  | _ => []

/-- **What an operation does with the items** that are still to be passed through: the first ones of
them are passed through, in order; if there is one, then all of them are forgotten, and the backend
was run before.  No other call is made for an item. -/
structure Forwards (op : Operation) (s : Live (Traced W)) : Prop where
  inOrder : (op.forwards s).map (·.effect) <+: s.session.options.passThrough.map PassThrough.effect
  forgets : (op.after s).session.options.passThrough = [] ∨
    (op.after s).session.options.passThrough = s.session.options.passThrough ∧ op.forwards s = []
  before : op.forwards s ≠ [] → op = .allSymbolsRead ∧
    s.session.options.bypassBackend = false ∧ s.session.registry.files ≠ [] ∧
    ∃ process preparing accepted launch removal,
      Completed s.session (op.calls s) process preparing accepted launch removal
  others : ∃ own, visible (op.calls s) = own ++ op.forwards s ∧
    ∀ c ∈ own, c.effect.isInput = true → IsOther s.session (op.calls s) c.effect

/-- Most operations pass nothing through. -/
theorem Forwards.of_none {op : Operation} (hforwards : op.forwards s = [])
    (hcalls : ∀ c ∈ visible (op.calls s), c.effect.isInput = true →
      IsOther s.session (op.calls s) c.effect)
    (hforgets : (op.after s).session.options.passThrough = [] ∨
      (op.after s).session.options.passThrough = s.session.options.passThrough) :
    Forwards op s := by
  refine ⟨?_, hforgets.imp_right fun h => ⟨h, hforwards⟩, fun h => absurd hforwards h,
    visible (op.calls s), ?_, hcalls⟩
  · rw [hforwards]
    exact List.nil_prefix
  · rw [hforwards, List.append_nil]

theorem filterMap_passThroughScript (items : List PassThrough) :
    (items.flatMap passThroughScript).filterMap Step.effect? = items.map PassThrough.effect := by
  induction items with
  | nil => rfl
  | cons item items ih =>
      rw [List.flatMap_cons, List.filterMap_append, ih, List.map_cons]
      cases item <;> rfl

theorem forwards_allSymbolsRead (s : Live (Traced W)) : Forwards .allSymbolsRead s := by
  obtain ⟨cs, hext, hforgets⟩ := yields_allSymbolsRead_forgets s
  obtain rfl := Operation.calls_eq .allSymbolsRead hext
  by_cases hfiles : s.session.registry.files = []
  · have hinert := inert_allSymbolsRead hfiles
    obtain ⟨cs, hext', hquiet⟩ := hinert.quiet
    obtain rfl := hext.unique hext'
    refine .of_none ?_ (by simp [hquiet]) (.inr (by rw [hinert.session]))
    rw [Operation.forwards, afterRemoval, hquiet]
    rfl
  obtain ⟨cs, hext', hfollows, -⟩ := yields_allSymbolsRead hfiles
  obtain rfl := hext.unique hext'
  cases hbypass : s.session.options.bypassBackend with
  | true =>
      have hmem : ∀ c ∈ visible (Operation.allSymbolsRead.calls s), c.effect.isRemoval = false ∧
          (c.effect.isInput = true →
            IsOther s.session (Operation.allSymbolsRead.calls s) c.effect) := by
        intro c hc
        have hstep := hfollows.effect_mem hc
        rw [script, fileScript, if_pos hbypass] at hstep
        rcases List.mem_append.1 hstep with h | h
        · have hwork := isWork_of_mem_resolutionScript
            (launched (Operation.allSymbolsRead.calls s)) h
          exact ⟨hwork.1, hwork.isOther⟩
        · obtain ⟨path, hpath, h⟩ := List.mem_flatMap.1 h
          have heffect := Step.call.inj (List.mem_singleton.1 h)
          refine ⟨by rw [heffect]; rfl, fun _ => .handedBack path hbypass hpath heffect⟩
      have hnone := afterRemoval_eq_nil fun c hc => (hmem c hc).1
      exact .of_none hnone (fun c hc => (hmem c hc).2) (hforgets.imp_right And.left)
  | false =>
      cases removes_of_follows_script hfollows hbypass with
      | unfinished hcalls hafter _ =>
          refine .of_none hafter (fun c hc hinput => ?_) (hforgets.imp_right And.left)
          rcases List.mem_append.1 (hcalls.effect_mem hc) with h | h
          · exact (isWork_of_mem_beforeRemoval h).isOther hinput
          · rw [Step.call.inj (List.mem_singleton.1 h)] at hinput
            cases hinput
      | beyond before removal hcalls hbefore hremoval hsucceeded hafter =>
          obtain ⟨process, preparing, accepted, launch, hcompleted⟩ :=
            completed_of_beyond hcalls hbefore ⟨hremoval, hsucceeded⟩
          have hrun : ∃ process preparing accepted launch removal, Completed s.session
              (Operation.allSymbolsRead.calls s) process preparing accepted launch removal :=
            ⟨process, preparing, accepted, launch, removal, hcompleted⟩
          refine ⟨?_, hforgets, fun _ => ⟨rfl, hbypass, hfiles, hrun⟩, before ++ [removal], ?_, ?_⟩
          · rw [← filterMap_passThroughScript]
            exact hafter.isPrefix
          · rw [List.append_assoc]
            exact hcalls
          · intro c hc hinput
            rcases List.mem_append.1 hc with hc | hc
            · exact (isWork_of_mem_beforeRemoval (hbefore.effect_mem hc)).isOther hinput
            · rw [List.mem_singleton.1 hc, hremoval] at hinput
              cases hinput

/-- An offer passes nothing through. -/
theorem forwards_offer (input : InputFile) (s : Live (Traced W)) : Forwards (.offer input) s := by
  obtain ⟨cs, hext, hclaim⟩ := yields_claimFile (s := s) input
  obtain rfl := Operation.calls_eq (.offer input) hext
  have hoffers : ∀ c ∈ (Operation.offer input).calls s, c.effect.IsOffer := by
    obtain ⟨-, table, haccepts⟩ | ⟨-, hdeclines⟩ := hclaim
    · exact haccepts.announces.offers
    · exact hdeclines.offers
  have hsame : (claimFile input s).2.session.options = s.session.options := by
    obtain ⟨-, table, haccepts⟩ | ⟨-, hdeclines⟩ := hclaim
    · rw [haccepts.session_eq]
    · rw [hdeclines.session_eq]
  refine .of_none rfl (fun c hc hinput => ?_) (.inr (congrArg Options.passThrough hsame))
  obtain hown | ⟨handle, symbols, hadd⟩ := hoffers c (List.mem_filter.1 hc).1
  · exact absurd hinput (Effect.not_input_of_own hown)
  · rw [hadd] at hinput
    cases hinput

/-- A cleanup passes nothing through, and forgets the items if it resets the session. -/
theorem forwards_cleanup (s : Live (Traced W)) : Forwards .cleanup s := by
  obtain ⟨cs, hext, hreleases, -⟩ := yields_cleanup (s := s)
  obtain rfl := Operation.calls_eq .cleanup hext
  refine .of_none rfl (fun c hc hinput => ?_) ?_
  · obtain hown | hrelease := hreleases c (List.mem_filter.1 hc).1
    · exact absurd hinput (Effect.not_input_of_own hown)
    · rw [hrelease] at hinput
      cases hinput
  · cases hdirectory : s.session.temporaryDirectory with
    | none => exact .inr (by rw [(inert_cleanup hdirectory).session])
    | some path =>
        obtain ⟨cs, -, hteardown⟩ := yields_cleanup_teardown hdirectory
        obtain hfinished | ⟨-, hs', -⟩ := hteardown.finished
        · exact .inl (congrArg (·.options.passThrough) hfinished.session)
        · exact .inr (congrArg (·.options.passThrough) hs')

/-- **What every operation does with the items.** -/
theorem forwards_after (op : Operation) (s : Live (Traced W)) : Forwards op s := by
  cases op with
  | offer input => exact forwards_offer input s
  | allSymbolsRead => exact forwards_allSymbolsRead s
  | release =>
      have hcalls : Operation.release.calls s = [⟨.releaseSymbols, s.world.world⟩] :=
        Operation.calls_eq .release (.single _ _)
      refine .of_none rfl (fun c hc hinput => ?_) (.inr rfl)
      rw [hcalls] at hc
      rw [List.mem_singleton.1 (List.mem_filter.1 hc).1] at hinput
      cases hinput
  | cleanup => exact forwards_cleanup s

/-! ### Runs -/

/-- **The calls by which a run passes items through.** -/
def forwarded : Live (Traced W) → List Operation → List (Call W)
  | _, [] => []
  | s, op :: ops => op.forwards s ++ forwarded (op.after s) ops

theorem forwarded_concat (s : Live (Traced W)) (ops : List Operation) (op : Operation) :
    forwarded s (ops ++ [op]) = forwarded s ops ++ op.forwards (run s ops) := by
  induction ops generalizing s with
  | nil => simp [forwarded, run]
  | cons op' ops ih =>
      rw [List.cons_append, forwarded, ih, forwarded, List.append_assoc]
      rfl

/-- **Over a whole run, every item is passed through at most once**, and in order. -/
theorem forwarded_run (s₀ : Live (Traced W)) (ops : List Operation) :
    (forwarded s₀ ops).map (·.effect) <+: s₀.session.options.passThrough.map PassThrough.effect ∧
      ((run s₀ ops).session.options.passThrough = [] ∨
        (run s₀ ops).session.options.passThrough = s₀.session.options.passThrough ∧
          forwarded s₀ ops = []) := by
  induction ops using List.reverseRecOn with
  | nil => exact ⟨List.nil_prefix, .inr ⟨rfl, rfl⟩⟩
  | append_singleton ops op ih =>
      have hop := forwards_after op (run s₀ ops)
      rw [forwarded_concat, run_concat]
      obtain ⟨hfirst, hempty | ⟨hsame, hnone⟩⟩ := ih
      · -- there is nothing left to be passed through
        have hnothing : op.forwards (run s₀ ops) = [] := by
          have hfirst' := hop.inOrder
          rw [hempty, List.map_nil, List.prefix_nil] at hfirst'
          exact List.map_eq_nil_iff.1 hfirst'
        rw [hnothing, List.append_nil]
        refine ⟨hfirst, .inl ?_⟩
        obtain hforgets | ⟨hkeeps, -⟩ := hop.forgets
        · exact hforgets
        · rw [hkeeps, hempty]
      · -- nothing has been passed through before
        rw [hnone, List.nil_append, ← hsame]
        exact ⟨hop.inOrder, hop.forgets⟩

/-- Runs keep the options, but for the items. -/
theorem bypassBackend_run (s₀ : Live (Traced W)) (ops : List Operation) :
    (run s₀ ops).session.options.bypassBackend = s₀.session.options.bypassBackend := by
  induction ops using List.reverseRecOn with
  | nil => rfl
  | append_singleton ops op ih =>
      obtain ⟨passThrough, hoptions⟩ := options_after op (run s₀ ops)
      rw [run_concat, hoptions, ← ih]

/-- **Items are passed through at most once, and only when all went well.**  Over a whole run, the
calls by which items are passed through are, in order, the first ones of those that the options ask
for.  They are made when all symbols have been read and there are claimed files that go to the
backend; and before any of them, the backend was run and has succeeded, the linker accepted all
lines of its output, and the arguments file was removed.  All other calls by which the linker gets
files are about claimed files that go back to it, or about the output of the backend. -/
theorem items_are_passed_through_once (args : List String) (options : Options)
    (hparse : Options.parse args = .ok options) (directory : Path) (w : W)
    (ops : List Operation) :
    let s₀ := begun options directory w
    (forwarded s₀ ops).map (·.effect) <+: args.filterMap Options.directive? ∧
    ∀ before op after, ops = before ++ op :: after →
      let s := run s₀ before
      let cs := op.calls s
      (op.forwards s ≠ [] → op = .allSymbolsRead ∧ options.bypassBackend = false ∧
        s.session.registry.files ≠ [] ∧ ∃ process preparing accepted launch removal,
          Completed s.session cs process preparing accepted launch removal) ∧
      ∃ own, visible cs = own ++ op.forwards s ∧
        ∀ c ∈ own, c.effect.isInput = true → IsOther s.session cs c.effect := by
  intro s₀
  refine ⟨?_, ?_⟩
  · rw [← Options.passThrough_of_parse hparse]
    exact (forwarded_run s₀ ops).1
  · rintro before op after -
    have hop := forwards_after op (run s₀ before)
    refine ⟨fun hsome => ?_, hop.others⟩
    obtain ⟨hread, hbypass, hfiles, hcompleted⟩ := hop.before hsome
    rw [bypassBackend_run] at hbypass
    exact ⟨hread, hbypass, hfiles, hcompleted⟩

/-- A backend, a library and a file to be passed through. -/
def passingArguments : List String := ["-pass-through=-lc", "b", "-pass-through=/x"]

/-- What these options say. -/
def passingOptions : Options :=
  { passThrough := [.library "c", .file [47, 120]], backendWords := ["b"] }

/-- A machine with one object, and a backend that produces another one. -/
def passingMachine : Machine (BoundLinker (Watched RecordedLinker)) :=
  { sampleMachine with
    launcher := fun disk _ _ => (.ok { output := [111, 10], status := .exited 0 }, disk) }

/-- It is said twice that all symbols have been read. -/
def passingOperations : List Operation :=
  [.offer sampleInput] ++ .allSymbolsRead :: [.allSymbolsRead]

theorem items_are_passed_through_once_sample :
    Options.parse passingArguments = .ok passingOptions ∧
      (forwarded (begun passingOptions [47] passingMachine) passingOperations).map (·.effect) <+:
        [.addInputLibrary "c", .addInputFile [47, 120]] ∧
      (forwarded (begun passingOptions [47] passingMachine) passingOperations).length = 2 ∧
      ∃ process preparing accepted launch removal,
        Completed (run (begun passingOptions [47] passingMachine) [.offer sampleInput]).session
          (Operation.allSymbolsRead.calls
            (run (begun passingOptions [47] passingMachine) [.offer sampleInput]))
          process preparing accepted launch removal := by
  have hparse : Options.parse passingArguments = .ok passingOptions := by rfl
  have hdirectives : passingArguments.filterMap Options.directive? =
      [.addInputLibrary "c", .addInputFile [47, 120]] := by
    rfl
  obtain ⟨hfirst, hall⟩ := items_are_passed_through_once passingArguments passingOptions hparse [47]
    passingMachine passingOperations
  obtain ⟨hbefore, -⟩ := hall [.offer sampleInput] .allSymbolsRead [.allSymbolsRead] rfl
  have hsome : Operation.allSymbolsRead.forwards
      (run (begun passingOptions [47] passingMachine) [.offer sampleInput]) ≠ [] := by
    rw [← List.length_pos_iff]
    decide +kernel
  obtain ⟨-, -, -, hcompleted⟩ := hbefore hsome
  refine ⟨hparse, ?_, ?_, hcompleted⟩
  · rw [← hdirectives]
    exact hfirst
  · decide +kernel

end Session

end LtoBridge
