/-
**The end of a session.**

A cleanup deletes the copies, one after the other.  If one of them cannot be deleted, it gives up:
the temporary directory goes with all that is left in it, and the session keeps what it knows about
its files.  Otherwise the session is closed, and it is only a matter of the temporary directory
whether the cleanup fails.  A closed session does nothing any more.

Main definitions:

* `LtoBridge.Session.closed`: a session that has been cleaned up;
* `LtoBridge.Session.Teardown`: all that a cleanup can do;
* `LtoBridge.Session.Later`: the states of a session that come after a given one;
* `LtoBridge.Session.Inert`: an operation that does nothing.

Main results:

* `LtoBridge.Session.yields_cleanup_teardown`: **a cleanup does nothing else**;
* `LtoBridge.Session.Later.temporaryDirectory`: a session never gets another directory;
* `LtoBridge.Session.inert_of_later_closed`: **a closed session does nothing any more**.
-/

import LtoBridge.Proofs.Session.KeptCopies

set_option autoImplicit false

namespace LtoBridge.Session

/-! ### What a cleanup does -/

/-- The copies that a cleanup deletes. -/
def temporaryPaths (session : Session) : List Path :=
  (session.registry.files.filter (·.temporary)).map (·.path)

theorem mem_temporaryPaths {session : Session} {path : Path} :
    path ∈ session.temporaryPaths ↔
      ∃ file ∈ session.registry.files, file.temporary = true ∧ file.path = path := by
  simp [temporaryPaths, and_assoc]

/-- The script for the copies: each of them is deleted. -/
def deletionScript (session : Session) : List Step :=
  session.temporaryPaths.flatMap fun path => [.call (.removeFile path)]

/-- **A session that has been cleaned up** has no temporary directory and no files, remembers no
output of the backend, has nothing left to be passed through, and would count copies from 0 on. -/
def closed (session : Session) : Session where
  options := { session.options with passThrough := [] }
  temporaryDirectory := none
  registry := ⟨[]⟩
  copied := 0
  outputs := []

variable {W : Type} [Platform W]

/-- **All that a cleanup can do** with a session whose temporary directory has a name. -/
inductive Teardown (session : Session) (path : Path) (r : Except Failure Unit)
    (cs : List (Call W)) (session' : Session) : Prop
  /-- A copy cannot be deleted. -/
  | stopped (before : List (Call W)) (tree : Call W) (hr : r.isOk = false)
      (hcalls : visible cs = before ++ [tree])
      (hbefore : Follows session.deletionScript before false)
      (htree : tree.effect = .removeTree path)
      (hsession : session' = { session with temporaryDirectory := none })
  /-- The temporary directory is kept. -/
  | kept (hverbose : session.options.verbose = true) (hr : r = .ok ())
      (hcalls : Follows (session.deletionScript ++ [.call .releaseSymbols]) (visible cs) true)
      (hsession : session' = session.closed)
  /-- The temporary directory is removed, or is to be removed. -/
  | removed (before : List (Call W)) (arguments tree : Call W)
      (hverbose : session.options.verbose = false)
      (hcalls : visible cs = before ++ [arguments, tree])
      (hbefore : Follows (session.deletionScript ++ [.call .releaseSymbols]) before true)
      (harguments : arguments.effect = .removeFile (path.join Backend.argumentsName))
      (htree : tree.effect = .removeTree path) (hr : r.isOk = true → tree.succeeded = true)
      (hsession : session' = session.closed)

variable {s : Live (Traced W)}

/-- A report changes nothing, and cannot be noticed. -/
theorem yields_tell_hidden (span : Span) (notice : Notice) :
    (tell span notice).Yields s fun r cs s' =>
      r = .ok () ∧ visible cs = [] ∧ s'.session = s.session :=
  ⟨[⟨.report ⟨notice, some span⟩, s.world.world⟩], .single _ _, rfl, hidden_single rfl, rfl⟩

/-- A call to the operating system whose answer decides what comes next. -/
theorem yields_answer {f : Traced W → Except OsError Unit × Traced W} {e : Effect}
    (hf : ∀ t, f t = ((f t).1, t.record e)) :
    (outside (Act.answer f)).Yields s fun r cs s' =>
      r = .ok (f s.world).1 ∧ cs = [⟨e, s.world.world⟩] ∧ s'.session = s.session := by
  have hact : Act.answer f s.world = (.ok (f s.world).1, s.world.record e) := by
    unfold Act.answer
    rw [hf s.world]
  refine yields_outside_iff.2 ⟨[⟨e, s.world.world⟩], ?_, ?_⟩
  · rw [hact]
    exact .single _ _
  · rw [hact]
    exact ⟨rfl, rfl, rfl⟩

theorem yields_deleteArguments (directory : Path) :
    (deleteArguments directory).Yields s fun _ cs s' =>
      (∃ c, cs = [c] ∧ c.effect = .removeFile (directory.join Backend.argumentsName)) ∧
        s'.session = s.session := by
  refine (yields_answer fun _ => rfl).bind ?_ ?_
  · rintro answer _ s' ⟨-, rfl, hs'⟩
    split
    · exact .pure ⟨⟨_, rfl, rfl⟩, hs'⟩
    · exact .pure ⟨⟨_, rfl, rfl⟩, hs'⟩
    · exact Act.yields_within_iff.2 (.fail ⟨⟨_, rfl, rfl⟩, hs'⟩)
  · rintro _ _ _ ⟨⟨⟩, -⟩

theorem yields_abandon (directory : Path) :
    (abandon directory).Yields s fun r cs s' => r = .ok () ∧
      (∃ c, cs = [c] ∧ c.effect = .removeTree directory) ∧ s'.session = s.session := by
  refine (yields_answer fun _ => rfl).bind ?_ ?_
  · rintro answer _ s' ⟨-, rfl, hs'⟩
    exact .pure ⟨rfl, ⟨_, rfl, rfl⟩, hs'⟩
  · rintro _ _ _ ⟨⟨⟩, -⟩

/-- The copies are deleted, up to the first one that cannot be deleted. -/
theorem performs_deletions (paths : List Path) :
    (Act.forEach delete paths).Performs s (paths.flatMap fun path => [.call (.removeFile path)])
      fun _ _ s' => s'.session = s.session :=
  Act.Performs.forEach (I := fun _ s' => s'.session = s.session)
    (fun path _ _ hs => (performs_delete path).mono fun _ _ _ hs' => hs'.trans hs) paths [] rfl

/-- What the session made is deleted, and then the session is reset; or the session stays as it
is. -/
theorem yields_clear_deletions (directory : Path) :
    (clear directory).Yields s fun r cs s' =>
      r.isOk = false ∧ Follows s.session.deletionScript (visible cs) false ∧
        s'.session = s.session ∨
      ∃ before after, visible cs = before ++ after ∧
        Follows (s.session.deletionScript ++ [.call .releaseSymbols]) before true ∧
        s'.session = s.session.reset ∧
        (s.session.options.verbose = true ∧ r = .ok () ∧ after = [] ∨
          s.session.options.verbose = false ∧ ∃ c, after = [c] ∧
            c.effect = .removeFile (directory.join Backend.argumentsName)) := by
  refine yields_view_bind_iff.2
    (Act.Yields.bind (performs_deletions s.session.temporaryPaths) ?_ ?_)
  · rintro _ cs s' ⟨hfollows, hs'⟩
    refine yields_releaseSymbols.bind ?_ ?_
    · rintro _ _ s'' ⟨-, rfl, hs''⟩
      let release : Call W := ⟨.releaseSymbols, s'.world.world⟩
      have hbefore : Follows (s.session.deletionScript ++ [.call .releaseSymbols])
          (visible cs ++ [release]) true := hfollows.append (Follows.single release)
      have hvisible : ∀ cs', visible (cs ++ ([release] ++ cs')) =
          (visible cs ++ [release]) ++ visible cs' := by
        intro cs'
        rw [visible_append, visible_append, visible_single rfl, List.append_assoc]
      have hreset : s''.session.reset = s.session.reset := by
        rw [hs'', hs']
        rfl
      have hverbose : s''.session.reset.options.verbose = s.session.options.verbose := by
        rw [hreset]
        rfl
      refine yields_update_bind_iff.2 (yields_view_bind_iff.2 ?_)
      dsimp only
      rw [hverbose]
      cases s.session.options.verbose with
      | true => exact .pure (.inr ⟨_, [], hvisible [], hbefore, hreset, .inl ⟨rfl, rfl, rfl⟩⟩)
      | false =>
          refine (yields_deleteArguments directory).mono ?_
          rintro r _ s₃ ⟨⟨c, rfl, hc⟩, hs₃⟩
          refine .inr ⟨_, [c], ?_, hbefore, hs₃.trans hreset, .inr ⟨rfl, c, rfl, hc⟩⟩
          rw [hvisible, visible_single (by rw [hc]; rfl)]
    · rintro _ _ _ ⟨⟨⟩, -⟩
  · rintro failure cs s' ⟨hfollows, hs'⟩
    exact .inl ⟨rfl, hfollows, hs'⟩

/-- **A cleanup does nothing else.** -/
theorem yields_cleanup_teardown {path : Path}
    (hdirectory : s.session.temporaryDirectory = some path) :
    cleanup.Yields s fun r cs s' => Teardown s.session path r cs s'.session := by
  refine yields_view_bind_iff.2 ?_
  rw [hdirectory]
  refine yields_update_bind_iff.2 ((yields_clear_deletions path).attempt_bind ?_)
  rintro result cs s' (⟨hr, hfollows, hs'⟩ | ⟨before, after, hcalls, hfollows, hs', hafter⟩)
  · cases result with
    | ok _ => cases hr
    | error failure =>
        refine (yields_abandon path).bind ?_ ?_
        · rintro _ _ s'' ⟨-, ⟨tree, rfl, htree⟩, hs''⟩
          refine .ofResult (.stopped (visible cs) tree rfl ?_ hfollows htree (hs''.trans hs'))
          rw [List.append_nil, visible_append, visible_single (by rw [htree]; rfl)]
        · rintro _ _ _ ⟨⟨⟩, -⟩
  · have hclosed : ∀ {s'' : Live (Traced W)}, s''.session = s'.session →
        s''.session = s.session.closed := by
      intro s'' hs''
      rw [hs'', hs']
      rfl
    have hverbose : s'.session.options.verbose = s.session.options.verbose := by
      rw [hs']
      rfl
    obtain ⟨hkeep, rfl, rfl⟩ | ⟨hremove, arguments, rfl, harguments⟩ := hafter
    · -- the directory is kept, and that is reported
      refine yields_view_bind_iff.2 ?_
      rw [hverbose, hkeep]
      refine (yields_tell_hidden _ _).mono ?_
      rintro _ cs' s'' ⟨rfl, hcs', hs''⟩
      refine .kept hkeep rfl ?_ (hclosed hs'')
      rw [visible_append, hcs', hcalls, List.append_nil, List.append_nil]
      exact hfollows
    · cases result with
      | error failure =>
          refine (yields_abandon path).bind ?_ ?_
          · rintro _ _ s'' ⟨-, ⟨tree, rfl, htree⟩, hs''⟩
            refine .ofResult (.removed before arguments tree hremove ?_ hfollows harguments htree
              nofun (hclosed hs''))
            rw [List.append_nil, visible_append, visible_single (by rw [htree]; rfl), hcalls,
              List.append_assoc]
            rfl
          · rintro _ _ _ ⟨⟨⟩, -⟩
      | ok _ =>
          refine yields_view_bind_iff.2 ?_
          rw [hverbose, hremove]
          refine (yields_answer fun _ => rfl).bind ?_ ?_
          · rintro answer _ s'' ⟨hanswer, rfl, hs''⟩
            let tree : Call W := ⟨.removeTree path, s'.world.world⟩
            have htree : tree.succeeded = answer.isOk := by
              rw [Except.ok.inj hanswer]
              rfl
            have hend : ∀ r : Except Failure Unit, r.isOk = answer.isOk →
                Teardown s.session path r (cs ++ ([tree] ++ [])) s''.session := by
              intro r hr
              refine .removed before arguments tree hremove ?_ hfollows harguments rfl
                (fun hok => by rw [htree, ← hr, hok]) (hclosed hs'')
              rw [List.append_nil, visible_append, visible_single rfl, hcalls, List.append_assoc]
              rfl
            cases answer with
            | ok _ => exact .pure (hend _ rfl)
            | error error => exact Act.yields_within_iff.2 (.fail (hend _ rfl))
          · rintro _ _ _ ⟨⟨⟩, -⟩

/-! ### The calls of a cleanup -/

section

variable {session session' : Session} {path : Path} {r : Except Failure Unit}
  {before cs : List (Call W)}

/-- **The calls of a cleanup** that can be noticed. -/
inductive IsClearing (session : Session) (path : Path) (e : Effect) : Prop
  | copy (file : Path) (hfile : file ∈ session.temporaryPaths) (h : e = .removeFile file)
  | release (h : e = .releaseSymbols)
  | arguments (h : e = .removeFile (path.join Backend.argumentsName))
  | tree (h : e = .removeTree path)

omit [Platform W] in
theorem eq_of_mem_deletionScript {e : Effect}
    (h : Step.call e ∈ session.deletionScript ++ [.call .releaseSymbols]) :
    (∃ file ∈ session.temporaryPaths, e = .removeFile file) ∨ e = .releaseSymbols := by
  obtain h | h := List.mem_append.1 h
  · obtain ⟨file, hfile, h⟩ := List.mem_flatMap.1 h
    exact .inl ⟨file, hfile, Step.call.inj (List.mem_singleton.1 h)⟩
  · exact .inr (Step.call.inj (List.mem_singleton.1 h))

omit [Platform W] in
theorem isClearing_of_mem_script {e : Effect}
    (h : Step.call e ∈ session.deletionScript ++ [.call .releaseSymbols]) :
    IsClearing session path e := by
  obtain ⟨file, hfile, he⟩ | he := eq_of_mem_deletionScript h
  · exact .copy file hfile he
  · exact .release he

/-- A cleanup makes no other calls. -/
theorem Teardown.isClearing (h : Teardown session path r cs session') :
    ∀ c ∈ visible cs, IsClearing session path c.effect := by
  intro c hc
  cases h with
  | stopped before tree hr hcalls hbefore htree hsession =>
      rw [hcalls, List.mem_append, List.mem_singleton] at hc
      obtain hc | rfl := hc
      · exact isClearing_of_mem_script (List.mem_append_left _ (hbefore.effect_mem hc))
      · exact .tree htree
  | kept hverbose hr hcalls hsession => exact isClearing_of_mem_script (hcalls.effect_mem hc)
  | removed before arguments tree hverbose hcalls hbefore harguments htree hr hsession =>
      simp only [hcalls, List.mem_append, List.mem_cons, List.not_mem_nil, or_false] at hc
      obtain hc | rfl | rfl := hc
      · exact isClearing_of_mem_script (hbefore.effect_mem hc)
      · exact .arguments harguments
      · exact .tree htree

/-- If the copies are deleted, each of them is deleted, and then the symbols are released. -/
theorem effects_of_deletions
    (h : Follows (session.deletionScript ++ [.call .releaseSymbols]) before true) :
    before.map (·.effect) = session.temporaryPaths.map .removeFile ++ [.releaseSymbols] ∧
      ∀ c ∈ before, c.succeeded = true := by
  obtain ⟨heffects, hsucceeded, -⟩ := h.succeeds_iff.1 rfl
  refine ⟨heffects.trans ?_, hsucceeded⟩
  rw [List.filterMap_append, deletionScript, List.filterMap_flatMap, List.map_eq_flatMap]
  rfl

/-- If the deletion of the copies fails, one of them cannot be deleted. -/
theorem exists_failed_deletion {paths : List Path}
    (h : Follows (paths.flatMap fun path => [.call (.removeFile path)]) before false) :
    ∃ path ∈ paths, ∃ c ∈ before, c.effect = .removeFile path ∧ c.succeeded = false := by
  induction paths generalizing before with
  | nil => cases h
  | cons path paths ih =>
      rw [List.flatMap_cons] at h
      obtain ⟨c, rest, rfl, hc, ⟨-, hrest⟩ | ⟨hfailed, -, -⟩⟩ := h.of_call
      · obtain ⟨path', hpath', c', hc', hfailed⟩ := ih hrest
        exact ⟨path', List.mem_cons_of_mem _ hpath', c', List.mem_cons_of_mem _ hc', hfailed⟩
      · exact ⟨path, List.mem_cons_self, c, List.mem_cons_self, hc, hfailed⟩

end

/-! ### Later states -/

/-- **The states of a session that come after a given one**: anything is done with the session, and
in between others do what they may. -/
inductive Later (others : W → W → Prop) (s₀ : Live (Traced W)) : Live (Traced W) → Prop
  | refl : Later others s₀ s₀
  | operate {s : Live (Traced W)} (op : Operation) (h : Later others s₀ s) :
      Later others s₀ (op.after s)
  | meanwhile {s : Live (Traced W)} {w : W} (h : Later others s₀ s)
      (hothers : others s.world.world w) :
      Later others s₀ { s with world := { s.world with world := w } }

theorem Later.trans {others : W → W → Prop} {s₀ s' : Live (Traced W)} (h : Later others s₀ s)
    (h' : Later others s s') : Later others s₀ s' := by
  induction h' with
  | refl => exact h
  | operate op _ ih => exact .operate op ih
  | meanwhile _ hothers ih => exact .meanwhile ih hothers

/-- Does an operation succeed? -/
def Operation.isOk (op : Operation) (s : Live W) : Bool :=
  match op with
  | offer input => (claimFile input s).1.isOk
  | allSymbolsRead => (Session.allSymbolsRead s).1.isOk
  | release => (releaseSymbols s).1.isOk
  | cleanup => (Session.cleanup s).1.isOk

/-- Is a file offered? -/
def Operation.isOffer : Operation → Bool
  | offer _ => true
  | _ => false

/-- **An operation does nothing**: no call can be noticed, and the session stays as it is.  A file
that is offered is refused, and anything else succeeds. -/
structure Inert (op : Operation) (s : Live (Traced W)) : Prop where
  quiet : ∃ cs, s.world.Extends cs (op.after s).world ∧ visible cs = []
  session : (op.after s).session = s.session
  result : op.isOk s = !op.isOffer

/-- Without a temporary directory, no file is accepted. -/
theorem inert_offer (hdirectory : s.session.temporaryDirectory = none) (input : InputFile) :
    Inert (.offer input) s := by
  have hoffer : (claimFile input).Yields s fun r cs s' =>
      r.isOk = false ∧ visible cs = [] ∧ s'.session = s.session :=
    yields_directory_bind_of_none hdirectory ⟨rfl, rfl, rfl⟩
  obtain ⟨cs, hext, hr, hcs, hs'⟩ := hoffer
  exact ⟨⟨cs, hext, hcs⟩, hs', hr⟩

/-- Without a temporary directory, there is nothing to clean up. -/
theorem inert_cleanup (hdirectory : s.session.temporaryDirectory = none) : Inert .cleanup s := by
  have hcleanup : cleanup.Yields s fun r cs s' =>
      r.isOk = true ∧ visible cs = [] ∧ s'.session = s.session := by
    refine yields_view_bind_iff.2 ?_
    rw [hdirectory]
    exact .pure ⟨rfl, rfl, rfl⟩
  obtain ⟨cs, hext, hr, hcs, hs'⟩ := hcleanup
  exact ⟨⟨cs, hext, hcs⟩, hs', hr⟩

/-- Without claimed files, there is nothing to do when all symbols have been read. -/
theorem inert_allSymbolsRead (hfiles : s.session.registry.files = []) :
    Inert .allSymbolsRead s := by
  have hread : allSymbolsRead.Yields s fun r cs s' =>
      r.isOk = true ∧ visible cs = [] ∧ s'.session = s.session := by
    refine yields_view_bind_iff.2 ?_
    rw [if_pos hfiles]
    exact (yields_tell_hidden _ _).mono fun _ _ _ ⟨hr, hcs, hs'⟩ => ⟨by rw [hr]; rfl, hcs, hs'⟩
  obtain ⟨cs, hext, hr, hcs, hs'⟩ := hread
  exact ⟨⟨cs, hext, hcs⟩, hs', hr⟩

/-- There is no temporary directory any more after a cleanup. -/
theorem temporaryDirectory_cleanup (s : Live (Traced W)) :
    (Operation.cleanup.after s).session.temporaryDirectory = none := by
  cases hdirectory : s.session.temporaryDirectory with
  | none => rw [(inert_cleanup hdirectory).session, hdirectory]
  | some path =>
      obtain ⟨cs, -, hteardown⟩ := yields_cleanup_teardown hdirectory
      cases hteardown with
      | stopped _ _ _ _ _ _ hsession => exact congrArg (·.temporaryDirectory) hsession
      | kept _ _ _ hsession => exact congrArg (·.temporaryDirectory) hsession
      | removed _ _ _ _ _ _ _ _ _ hsession => exact congrArg (·.temporaryDirectory) hsession

/-- No other operation changes which one it is. -/
theorem temporaryDirectory_after {op : Operation} (hop : op ≠ .cleanup) (s : Live (Traced W)) :
    (op.after s).session.temporaryDirectory = s.session.temporaryDirectory := by
  cases op with
  | offer input =>
      obtain ⟨cs, -, ⟨-, table, haccepts⟩ | ⟨-, hdeclines⟩⟩ := yields_claimFile (s := s) input
      · exact congrArg (·.temporaryDirectory) haccepts.session_eq
      · exact congrArg (·.temporaryDirectory) hdeclines.session_eq
  | allSymbolsRead =>
      obtain ⟨cs, -, -, registry, outputs, passThrough, -, hs'⟩ := yields_allSymbolsRead_settling s
      exact congrArg (·.temporaryDirectory) hs'
  | release => rfl
  | cleanup => exact absurd rfl hop

/-- If there is a temporary directory after an operation, that was no cleanup. -/
theorem ne_cleanup_of_temporaryDirectory {op : Operation} {path : Path}
    (h : (op.after s).session.temporaryDirectory = some path) :
    op ≠ .cleanup ∧ s.session.temporaryDirectory = some path := by
  have hop : op ≠ .cleanup := by
    rintro rfl
    rw [temporaryDirectory_cleanup] at h
    cases h
  exact ⟨hop, (temporaryDirectory_after hop s).symm.trans h⟩

/-- A session never gets another temporary directory. -/
theorem Later.temporaryDirectory {others : W → W → Prop} {s₀ : Live (Traced W)}
    (h : Later others s₀ s) :
    s.session.temporaryDirectory = s₀.session.temporaryDirectory ∨
      s.session.temporaryDirectory = none := by
  induction h with
  | refl => exact .inl rfl
  | @operate s op _ ih =>
      by_cases hop : op = .cleanup
      · subst hop
        exact .inr (temporaryDirectory_cleanup s)
      · rwa [temporaryDirectory_after hop]
  | meanwhile _ _ ih => exact ih

/-! ### Closed sessions -/

/-- A session is closed: it has neither a temporary directory nor files. -/
structure IsClosed (session : Session) : Prop where
  directory : session.temporaryDirectory = none
  registry : session.registry = {}

omit [Platform W] in
theorem isClosed_closed (session : Session) : IsClosed session.closed := ⟨rfl, rfl⟩

/-- Nothing is done with a closed session but to release symbols, of which it has none. -/
theorem IsClosed.inert (h : IsClosed s.session) {op : Operation} (hop : op ≠ .release) :
    Inert op s := by
  cases op with
  | offer input => exact inert_offer h.directory input
  | allSymbolsRead => exact inert_allSymbolsRead (by rw [h.registry])
  | release => exact absurd rfl hop
  | cleanup => exact inert_cleanup h.directory

theorem IsClosed.after (h : IsClosed s.session) (op : Operation) :
    IsClosed (op.after s).session := by
  by_cases hop : op = .release
  · subst hop
    exact ⟨h.directory, congrArg Registry.release h.registry⟩
  · rw [(h.inert hop).session]
    exact h

/-- **A closed session does nothing any more.** -/
theorem inert_of_later_closed {others : W → W → Prop} {s₀ : Live (Traced W)}
    (h : Later others s₀ s) (hclosed : IsClosed s₀.session) {op : Operation} (hop : op ≠ .release) :
    Inert op s := by
  have hstays : IsClosed s.session := by
    induction h with
    | refl => exact hclosed
    | operate op _ ih => exact ih.after op
    | meanwhile _ _ ih => exact ih
  exact hstays.inert hop

end LtoBridge.Session
