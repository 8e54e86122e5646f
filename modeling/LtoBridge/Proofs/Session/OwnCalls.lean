/-
**Which files the calls of a session are about.**

Whatever is done with a session, its calls write and remove files with names of the session's own in
the temporary directory, or write the resolution file; and only a cleanup removes the directory.  So
whatever a cleanup deletes was made by the session when it copied a member.

Main definitions:

* `LtoBridge.Session.IsWithin`: the calls that a session makes before its cleanup;
* `LtoBridge.Session.Extracts`: an offer that makes a copy.

Main results:

* `LtoBridge.Session.isWithin_after`: **the calls of each operation but the cleanup**;
* `LtoBridge.Session.Later.extracted`: **what is marked as a copy was made by the session**;
* `LtoBridge.Session.Teardown.split`: the calls of a cleanup.
-/

import LtoBridge.Proofs.Session.Teardown

set_option autoImplicit false

namespace LtoBridge.Session

/-! ### Calls about a session's own files -/

/-- **The calls that a session makes before its cleanup**: they leave files alone, run the backend,
are about a file with a name of the session's own in its directory, or write the resolution file. -/
inductive IsWithin (directory resolutions : Option Path) (e : Effect) : Prop
  | still (h : e.visible = false ∨ e.isLinker = true)
  | launch (program : Path) (arguments : List Bytes) (h : e = .launch program arguments)
  | entry (path name : Path) (hdirectory : directory = some path) (hname : IsOwnName name)
      (h : e.written? = some (path.join name) ∨ e = .removeFile (path.join name))
  | resolutions (file : Path) (hfile : resolutions = some file) (h : e.written? = some file)

variable {W : Type} [Platform W] {s s' : Live (Traced W)} {path : Path} {input : InputFile}

section

variable {directory resolutions : Option Path} {e : Effect}

theorem isWithin_of_hidden (h : e.visible = false) : IsWithin directory resolutions e :=
  .still (.inl h)

/-- What is done to the copy with a number. -/
theorem isWithin_of_copy (number : Nat)
    (h : e.written? = some (Claim.memberPath path number) ∨
      e = .removeFile (Claim.memberPath path number)) : IsWithin (some path) resolutions e :=
  .entry path _ rfl (.copy number) h

end

/-! ### Offers -/

theorem only_outside {α : Type} {P : Effect → Prop} {act : Act (Traced W) α} (h : Act.Only P act) :
    Act.Only P (outside act) := fun s => h s.world

theorem only_tell {P : Effect → Prop} (hP : ∀ event, P (.report event)) (span : Span)
    (notice : Notice) : Act.Only P (tell (W := Traced W) span notice) :=
  only_outside (.change (fun _ => rfl) (hP _))

theorem only_forEach {σ β : Type} [HasTrace σ W] {P : Effect → Prop} {f : β → Act σ Unit}
    (hf : ∀ b, Act.Only P (f b)) (bs : List β) : Act.Only P (Act.forEach f bs) := by
  induction bs with
  | nil => exact .pure ()
  | cons b bs ih => exact (hf b).bind fun _ => ih

/-- Reading a file changes nothing. -/
theorem only_readSymbols (span : Option Span) (file : Descriptor) (size : Nat) (kept : Path) :
    Act.Only (·.visible = false) (Claim.readSymbols (W := Traced W) span file size kept) := by
  unfold Claim.readSymbols
  split
  · exact .pure none
  · refine Act.Only.bind (.answer (fun _ => rfl) rfl) fun answer => ?_
    split
    · exact Act.Only.bind (.change (fun _ => rfl) rfl) fun _ => .pure none
    · split
      · exact .pure none
      · split
        · exact .pure _
        · exact .within (.fail _)

theorem only_loadCopy (span : Option Span) (kept : Path) :
    Act.Only (·.visible = false) (Claim.loadCopy (W := Traced W) span kept) := by
  refine Act.Only.bind (.within (.ofOs (fun _ => rfl) rfl)) fun file => ?_
  refine Act.Only.bind (.attempt (.bind (.ofOs (fun _ => rfl) rfl) fun size => ?_)) fun loaded => ?_
  · exact only_readSymbols span file size kept
  · exact Act.Only.bind (.change (fun _ => rfl) rfl) fun _ => .ofResult loaded

/-- The copy that an offer works on, if it is of a member, is the one with the next number. -/
def IsNextCopy (path : Path) (session : Session) (input : InputFile) (kept : Path) : Prop :=
  input.isMember = true → kept = Claim.memberPath path session.copied

/-- Only the copy of a member is discarded. -/
theorem only_discard {session : Session} {kept : Path}
    (hkept : IsNextCopy path session input kept) :
    Act.Only (IsWithin (some path) none) (discard (W := Traced W) input kept) := by
  unfold discard
  split
  · rename_i hmember
    refine only_outside (.within (.ofOs (fun _ => rfl) ?_))
    exact isWithin_of_copy session.copied (.inr (by rw [hkept hmember]))
  · exact .pure ()

theorem only_claim (span : Span) {session : Session} {kept : Path} (table : SymbolTable)
    (hkept : IsNextCopy path session input kept) :
    Act.Only (IsWithin (some path) none) (claim (W := Traced W) span input kept table) := by
  have htell : ∀ notice, Act.Only (IsWithin (some path) none)
      (tell (W := Traced W) span notice) :=
    only_tell (fun _ => isWithin_of_hidden rfl) span
  have hadd : Act.Only (IsWithin (some path) none)
      (outside (Platform.addSymbols (W := Traced W) input.handle table.symbols)) :=
    fun s => ⟨_, .single _ _, fun c hc => by
      rw [List.mem_singleton.1 hc]
      exact .still (.inr rfl)⟩
  refine (only_forEach (fun symbol => htell _) table.symbols).bind fun _ => ?_
  refine hadd.attempt.bind fun answer => ?_
  split
  · exact (only_discard hkept).bind fun _ => .within (.ofResult _)
  · refine (htell _).bind fun _ => ?_
    exact fun s => (yields_update _).mono fun _ cs _ ⟨_, hcs, _⟩ => by simp [hcs]

/-- A file was made under a name. -/
def Creates (kept : Path) (cs : List (Call W)) : Prop :=
  ∃ c ∈ cs, c.effect = .createFile kept ∧ c.succeeded = true

/-- A member is copied into a file that is made for it. -/
theorem yields_copyRange_creates (source : Descriptor) (offset length number : Nat) (t : Traced W) :
    (Extraction.copyRange source offset length (Claim.memberPath path number)).Yields t
      fun r cs _ => (∀ c ∈ cs, IsWithin (some path) none c.effect) ∧
        (r = .ok () → Creates (Claim.memberPath path number) cs) := by
  let kept := Claim.memberPath path number
  have hcreate : ((Act.ofOs (Platform.createFile kept)).within (.creating kept)).Yields t
      fun r cs _ => (∀ c ∈ cs, IsWithin (some path) none c.effect) ∧
        (r = .ok () → Creates kept cs) := by
    refine Act.yields_within_iff.2 (.ofOs rfl ⟨?_, fun hr => ?_⟩)
    · simpa using isWithin_of_copy number (.inl rfl)
    · refine ⟨_, List.mem_singleton_self _, rfl, ?_⟩
      change (Platform.createFile kept t.world).1.isOk = true
      change whileDoing _ ((Platform.createFile kept t.world).1.mapError _) = _ at hr
      cases hanswer : (Platform.createFile kept t.world).1 with
      | ok _ => rfl
      | error error =>
          rw [hanswer] at hr
          cases hr
  have hcopy : Act.Only (IsWithin (some path) none)
      (Extraction.copyFrom (W := Traced W) source kept length offset length) :=
    Extraction.only_copyFrom (fun _ _ => isWithin_of_hidden rfl)
      (fun _ => isWithin_of_copy number (.inl rfl)) _ _ _
  refine hcreate.bind ?_ fun _ _ _ hpost => ⟨hpost.1, nofun⟩
  rintro _ cs t' ⟨hcs, hcreates⟩
  refine (hcopy t').mono fun r cs' _ hcs' => ⟨?_, fun _ => ?_⟩
  · exact fun c hc => (List.mem_append.1 hc).elim (hcs c) (hcs' c)
  · obtain ⟨c, hc, heffect⟩ := hcreates rfl
    exact ⟨c, List.mem_append_left _ hc, heffect⟩

/-- A member is copied under its own name. -/
theorem yields_extract_within (hdirectory : s.session.temporaryDirectory = some path) :
    (extract input).Yields s fun r cs _ => (∀ c ∈ cs, IsWithin (some path) none c.effect) ∧
      ∀ kept, r = .ok kept → kept = Claim.memberPath path s.session.copied ∧ Creates kept cs := by
  let number := s.session.copied
  let context := Context.extracting input.offset input.path
  have hcopy : (outside ((Extraction.copyRange input.file input.offset input.size
      (Claim.memberPath path number)).within context)).Yields
        { s with session := { s.session with copied := number + 1 } } fun r cs _ =>
          (∀ c ∈ cs, IsWithin (some path) none c.effect) ∧
            (r = .ok () → Creates (Claim.memberPath path number) cs) := by
    refine yields_outside_iff.2 (Act.yields_within_iff.2 ?_)
    refine (yields_copyRange_creates input.file input.offset input.size number _).mono ?_
    rintro r cs _ ⟨hcs, hcreates⟩
    refine ⟨hcs, fun hr => hcreates ?_⟩
    cases r with
    | ok _ => rfl
    | error failure => cases hr
  refine (yields_directory_bind_iff hdirectory).2 (yields_view_bind_iff.2
    (yields_update_bind_iff.2 (hcopy.bind ?_ fun _ _ _ hpost => ⟨hpost.1, nofun⟩)))
  rintro _ cs s' ⟨hcs, hcreates⟩
  refine .pure ?_
  rw [List.append_nil]
  refine ⟨hcs, ?_⟩
  rintro _ ⟨⟩
  exact ⟨rfl, hcreates rfl⟩

/-- What is read of an offer is a member's copy, which was made for it, or the file itself. -/
theorem yields_load_within (hdirectory : s.session.temporaryDirectory = some path) (span : Span) :
    (load span input).Yields s fun r cs _ => (∀ c ∈ cs, IsWithin (some path) none c.effect) ∧
      ∀ kept loaded, r = .ok (kept, loaded) → IsNextCopy path s.session input kept ∧
        (input.isMember = true → Creates kept cs) := by
  have hquiet : ∀ {α : Type} {act : Act (Traced W) α}, Act.Only (·.visible = false) act →
      Act.Only (IsWithin (some path) none) (outside act) := fun h =>
    only_outside (h.mono fun _ => isWithin_of_hidden)
  unfold load
  split
  · refine (yields_extract_within hdirectory).bind ?_ fun _ _ _ hpost => ⟨hpost.1, nofun⟩
    rintro kept cs s' ⟨hcs, hkept⟩
    obtain ⟨hname, c, hc, hcreated⟩ := hkept kept rfl
    refine (hquiet (only_loadCopy (some span) kept) s').attempt_bind fun loaded cs' _ hcs' => ?_
    refine .pure ⟨?_, ?_⟩
    · simpa [or_imp, forall_and] using ⟨hcs, hcs'⟩
    · rintro _ _ ⟨⟩
      exact ⟨fun _ => hname, fun _ => ⟨c, by simp [hc], hcreated⟩⟩
  · rename_i hmember
    refine (hquiet (only_readSymbols (some span) input.file input.size input.path) s).attempt_bind
      fun loaded cs _ hcs => ?_
    refine .pure ⟨by simpa using hcs, ?_⟩
    rintro _ _ ⟨⟩
    exact ⟨fun h => absurd h hmember, fun h => absurd h hmember⟩

/-- **An offer is about the copy of the member that is offered**, which has been made if the member
is claimed. -/
theorem yields_claimFile_within (hdirectory : s.session.temporaryDirectory = some path)
    (input : InputFile) :
    (claimFile input).Yields s fun r cs _ => (∀ c ∈ cs, IsWithin (some path) none c.effect) ∧
      (r = .ok true → input.isMember = true →
        Creates (Claim.memberPath path s.session.copied) cs) := by
  refine (yields_directory_bind_iff hdirectory).2
    ((yields_load_within hdirectory (Span.claimFile input.path)).bind ?_
      fun _ _ _ hpost => ⟨hpost.1, nofun⟩)
  rintro ⟨kept, loaded⟩ cs s' ⟨hcs, hkept⟩
  obtain ⟨hnext, hcreates⟩ := hkept kept loaded rfl
  have htell : Act.Only (IsWithin (some path) none)
      (tell (W := Traced W) (Span.claimFile input.path) .notAnObject) :=
    only_tell (fun _ => isWithin_of_hidden rfl) _ _
  have hend : ∀ {act : Act (Live (Traced W)) Bool}, Act.Only (IsWithin (some path) none) act →
      act.Yields s' fun r cs' _ => (∀ c ∈ cs ++ cs', IsWithin (some path) none c.effect) ∧
        (r = .ok true → input.isMember = true →
          Creates (Claim.memberPath path s.session.copied) (cs ++ cs')) := by
    intro act hact
    refine (hact s').mono fun r cs' _ hcs' => ⟨?_, fun _ hmember => ?_⟩
    · exact fun c hc => (List.mem_append.1 hc).elim (hcs c) (hcs' c)
    · obtain ⟨c, hc, hcreated⟩ := hcreates hmember
      exact ⟨c, List.mem_append_left _ hc, hnext hmember ▸ hcreated⟩
  match loaded with
  | .ok (some table) => exact hend ((only_claim _ table hnext).bind fun _ => .pure true)
  | .ok none => exact hend ((only_discard hnext).bind fun _ => htell.bind fun _ => .pure false)
  | .error failure => exact hend ((only_discard hnext).bind fun _ => .ofResult _)

/-! ### All symbols read -/

/-- Nothing is done after a condition that does not hold. -/
theorem mem_of_violated {steps rest : List Step} {cs : List (Call W)} {ok : Bool}
    (h : Follows (steps ++ .require false :: rest) cs ok) :
    ∀ c ∈ cs, Step.call c.effect ∈ steps := by
  induction steps generalizing cs with
  | nil =>
      cases h
      simp
  | cons step steps ih =>
      cases h with
      | call _ hrest =>
          intro c hc
          obtain rfl | hc := List.mem_cons.1 hc
          · exact List.mem_cons_self
          · exact List.mem_cons_of_mem _ (ih hrest c hc)
      | failed _ =>
          intro c hc
          rw [List.mem_singleton.1 hc]
          exact List.mem_cons_self
      | holds hrest => exact fun c hc => List.mem_cons_of_mem _ (ih hrest c hc)
      | violated => simp

/-- What is done when all symbols have been read, as long as there is a temporary directory. -/
theorem IsSettling.isWithin {session : Session} {e : Effect} (h : IsSettling session e)
    (hdirectory : session.temporaryDirectory = some path) :
    IsWithin session.temporaryDirectory session.options.resolutionFile e := by
  have harguments : session.argumentsPath = path.join Backend.argumentsName := by
    rw [argumentsPath, hdirectory]
    rfl
  cases h with
  | hidden h => exact .still (.inl h)
  | linker h => exact .still (.inr h)
  | resolutions file hfile h => exact .resolutions file hfile h
  | arguments h => exact .entry path _ hdirectory .arguments (harguments ▸ h)
  | launch program arguments h => exact .launch program arguments h

/-- Without a temporary directory, the linker is called and the resolution file is written. -/
theorem eq_of_follows_script_of_none {session : Session} {cs : List (Call W)} {ok : Bool}
    (hdirectory : session.temporaryDirectory = none)
    (h : Follows (script session cs) (visible cs) ok) : ∀ c ∈ visible cs,
      c.effect.isLinker = true ∨ ∃ file, session.options.resolutionFile = some file ∧
        c.effect.written? = some file := by
  intro c hc
  let text := ResolutionFile.render ⟨enterAll session.registry.files (answers cs)⟩
  have hstep : Step.call c.effect ∈ resolutionScript session text ∨ c.effect.isLinker = true := by
    cases hbypass : session.options.bypassBackend with
    | true =>
        rw [script, fileScript, if_pos hbypass] at h
        obtain hstep | hstep := List.mem_append.1 (h.effect_mem hc)
        · exact .inl hstep
        · obtain ⟨file, -, hfile⟩ := List.mem_flatMap.1 hstep
          rw [Step.call.inj (List.mem_singleton.1 hfile)]
          exact .inr rfl
    | false =>
        -- the backend is not run without a directory for its arguments
        obtain ⟨rest, hscript⟩ : ∃ rest, script session cs =
            (resolutionScript session text ++ [.call .releaseSymbols]) ++
              .require false :: rest := by
          simp [script, fileScript, hbypass, backendScript, hdirectory, text]
        rw [hscript] at h
        obtain hstep | hstep := List.mem_append.1 (mem_of_violated h c hc)
        · exact .inl hstep
        · rw [Step.call.inj (List.mem_singleton.1 hstep)]
          exact .inr rfl
  exact hstep.elim eq_of_mem_resolutionScript .inl

/-- **When all symbols have been read**, the calls are about the arguments file and the resolution
file. -/
theorem yields_allSymbolsRead_within (s : Live (Traced W)) :
    allSymbolsRead.Yields s fun _ cs _ => ∀ c ∈ cs,
      IsWithin s.session.temporaryDirectory s.session.options.resolutionFile c.effect := by
  cases hdirectory : s.session.temporaryDirectory with
  | some path =>
      refine (yields_allSymbolsRead_settling s).mono ?_
      rintro r cs s' ⟨hcs, -⟩ c hc
      exact hdirectory ▸ (hcs c hc).isWithin hdirectory
  | none =>
      by_cases hfiles : s.session.registry.files = []
      · obtain ⟨cs, hext, hcs⟩ := (inert_allSymbolsRead hfiles).quiet
        refine ⟨cs, hext, fun c hc => isWithin_of_hidden ?_⟩
        simpa using List.filter_eq_nil_iff.1 hcs c hc
      · refine (yields_allSymbolsRead hfiles).mono ?_
        rintro r cs s' ⟨hfollows, -⟩ c hc
        cases hvisible : c.effect.visible with
        | false => exact isWithin_of_hidden hvisible
        | true =>
            have hmem : c ∈ visible cs := List.mem_filter.2 ⟨hc, hvisible⟩
            obtain hlinker | ⟨file, hfile, hwritten⟩ :=
              eq_of_follows_script_of_none hdirectory hfollows c hmem
            · exact .still (.inr hlinker)
            · exact .resolutions file hfile hwritten

/-! ### Each operation -/

/-- The resolution file, where an operation may write it. -/
def Operation.resolutionFile? (op : Operation) (session : Session) : Option Path :=
  match op with
  | allSymbolsRead => session.options.resolutionFile
  | _ => none

/-- **The calls of each operation but the cleanup.** -/
theorem isWithin_after {op : Operation} (hop : op ≠ .cleanup) (s : Live (Traced W)) :
    ∃ cs, s.world.Extends cs (op.after s).world ∧ ∀ c ∈ cs,
      IsWithin s.session.temporaryDirectory (op.resolutionFile? s.session) c.effect := by
  cases op with
  | offer input =>
      cases hdirectory : s.session.temporaryDirectory with
      | none =>
          obtain ⟨cs, hext, hcs⟩ := (inert_offer hdirectory input).quiet
          refine ⟨cs, hext, fun c hc => isWithin_of_hidden ?_⟩
          simpa using List.filter_eq_nil_iff.1 hcs c hc
      | some path =>
          obtain ⟨cs, hext, hcs, -⟩ := yields_claimFile_within hdirectory input
          exact ⟨cs, hext, hcs⟩
  | allSymbolsRead => exact yields_allSymbolsRead_within s
  | release =>
      refine ⟨_, .single _ .releaseSymbols, fun c hc => ?_⟩
      rw [List.mem_singleton.1 hc]
      exact .still (.inr rfl)
  | cleanup => exact absurd rfl hop

/-! ### Programs and others -/

/-- **The programs that are run do what others may do**, too. -/
def ProgramsObey (others : W → W → Prop) (calls : List (Call W)) : Prop :=
  ∀ c ∈ calls, ∀ program arguments, c.effect = .launch program arguments →
    others c.before c.after

/-- Where no programs are run, they do nothing. -/
theorem programsObey_of_all {others : W → W → Prop} {calls : List (Call W)}
    (h : (calls.all fun c => !(c.effect matches .launch _ _)) = true) :
    ProgramsObey others calls := by
  intro c hc program arguments hlaunch
  have hnone := List.all_eq_true.1 h c hc
  rw [hlaunch] at hnone
  cases hnone

/-- All calls that have been made stay on record. -/
theorem Later.calls_subset {others : W → W → Prop} {s₀ : Live (Traced W)} (h : Later others s₀ s) :
    s₀.world.calls ⊆ s.world.calls := by
  induction h with
  | refl => exact List.Subset.refl _
  | @operate s op _ ih =>
      obtain ⟨cs, hext, -⟩ := keeps_after op s
      rw [hext.calls_eq]
      exact List.Subset.trans ih (List.subset_append_left _ _)
  | meanwhile _ _ ih => exact ih

/-! ### What stays the same -/

/-- Of the options of a session, only what is still to be passed through ever changes. -/
theorem options_after (op : Operation) (s : Live (Traced W)) : ∃ passThrough,
    (op.after s).session.options = { s.session.options with passThrough } := by
  cases op with
  | offer input =>
      obtain ⟨cs, -, ⟨-, table, haccepts⟩ | ⟨-, hdeclines⟩⟩ := yields_claimFile (s := s) input
      · exact ⟨_, congrArg (·.options) haccepts.session_eq⟩
      · exact ⟨_, congrArg (·.options) hdeclines.session_eq⟩
  | allSymbolsRead =>
      obtain ⟨cs, -, -, registry, outputs, passThrough, -, hs'⟩ := yields_allSymbolsRead_settling s
      exact ⟨passThrough, congrArg (·.options) hs'⟩
  | release => exact ⟨_, rfl⟩
  | cleanup =>
      cases hdirectory : s.session.temporaryDirectory with
      | none => exact ⟨_, congrArg (·.options) (inert_cleanup hdirectory).session⟩
      | some path =>
          obtain ⟨cs, -, hteardown⟩ := yields_cleanup_teardown hdirectory
          cases hteardown with
          | stopped _ _ _ _ _ _ hsession => exact ⟨_, congrArg (·.options) hsession⟩
          | kept _ _ _ hsession => exact ⟨_, congrArg (·.options) hsession⟩
          | removed _ _ _ _ _ _ _ _ _ hsession => exact ⟨_, congrArg (·.options) hsession⟩

theorem Later.options {others : W → W → Prop} {s₀ : Live (Traced W)} (h : Later others s₀ s) :
    ∃ passThrough, s.session.options = { s₀.session.options with passThrough } := by
  induction h with
  | refl => exact ⟨_, rfl⟩
  | @operate s op _ ih =>
      obtain ⟨passThrough, hbefore⟩ := ih
      obtain ⟨passThrough', hafter⟩ := options_after op s
      exact ⟨passThrough', by rw [hafter, hbefore]⟩
  | meanwhile _ _ ih => exact ih

/-! ### Where copies come from -/

/-- **An offer makes a copy**: a member is claimed, and a file was made for it with the next name of
the session's own. -/
structure Extracts (path : Path) (input : InputFile) (s : Live (Traced W)) (kept : Path) :
    Prop where
  directory : s.session.temporaryDirectory = some path
  member : input.isMember = true
  claimed : (claimFile input s).1 = .ok true
  name : kept = Claim.memberPath path s.session.copied
  created : ∃ cs, s.world.Extends cs ((Operation.offer input).after s).world ∧ Creates kept cs

/-- What an operation adds to the registry as a copy is one that it has made. -/
theorem extracts_or_mem_of_after (op : Operation)
    (hdirectory : s.session.temporaryDirectory = some path ∨ s.session.temporaryDirectory = none) :
    ∀ entry ∈ (op.after s).session.registry.identities, entry.2.2 = true →
      entry ∈ s.session.registry.identities ∨ ∃ input, op = .offer input ∧
        Extracts path input s entry.1 ∧ entry.2.1 = input.handle := by
  intro entry hentry htemporary
  cases op with
  | offer input =>
      obtain hdirectory | hnone := hdirectory
      · obtain ⟨cs, hext, hclaim⟩ := yields_claimFile (s := s) input
        obtain ⟨cs', hext', -, hcreates⟩ := yields_claimFile_within hdirectory input
        obtain ⟨hr, table, haccepts⟩ | ⟨hr, hdeclines⟩ := hclaim
        · have hregistry := congrArg (·.registry.identities) haccepts.session_eq
          rw [Registry.identities_push] at hregistry
          change entry ∈ (claimFile input s).2.session.registry.identities at hentry
          rw [hregistry, List.mem_append, List.mem_singleton] at hentry
          obtain hold | rfl := hentry
          · exact .inl hold
          · have hmember : input.isMember = true := htemporary
            have hname : keptPath s.session input = Claim.memberPath path s.session.copied := by
              rw [keptPath, if_pos hmember, hdirectory]
              rfl
            refine .inr ⟨input, rfl, ⟨hdirectory, hmember, hr, hname, cs', hext', ?_⟩, rfl⟩
            change Creates (keptPath s.session input) cs'
            rw [hname]
            exact hcreates hr hmember
        · left
          have hregistry := congrArg (·.registry.identities) hdeclines.session_eq
          change entry ∈ (claimFile input s).2.session.registry.identities at hentry
          rwa [hregistry] at hentry
      · rw [(inert_offer hnone input).session] at hentry
        exact .inl hentry
  | allSymbolsRead =>
      obtain ⟨cs, -, -, registry, outputs, passThrough, hsame, hs'⟩ :=
        yields_allSymbolsRead_settling s
      change entry ∈ (Session.allSymbolsRead s).2.session.registry.identities at hentry
      rw [hs', hsame] at hentry
      exact .inl hentry
  | release =>
      change entry ∈ s.session.registry.release.identities at hentry
      rw [Registry.identities_release] at hentry
      exact .inl hentry
  | cleanup =>
      obtain ⟨cs, -, -, hempty | ⟨hsame, -⟩⟩ := yields_cleanup (s := s)
      · change entry ∈ (Session.cleanup s).2.session.registry.identities at hentry
        rw [hempty] at hentry
        cases hentry
      · change entry ∈ (Session.cleanup s).2.session.registry.identities at hentry
        rw [hsame] at hentry
        exact .inl hentry

/-- **What is marked as a copy was made by the session**, by an earlier offer. -/
theorem Later.extracted {others : W → W → Prop} {s₀ : Live (Traced W)} (h : Later others s₀ s)
    (hdirectory : s₀.session.temporaryDirectory = some path)
    (hfiles : s₀.session.registry.files = []) :
    ∀ entry ∈ s.session.registry.identities, entry.2.2 = true →
      ∃ s₁ input, Later others s₀ s₁ ∧ Extracts path input s₁ entry.1 ∧
        entry.2.1 = input.handle ∧ Later others ((Operation.offer input).after s₁) s := by
  induction h with
  | refl =>
      intro entry hentry
      rw [Registry.identities, hfiles] at hentry
      cases hentry
  | @operate s op h ih =>
      intro entry hentry htemporary
      have halive := h.temporaryDirectory
      rw [hdirectory] at halive
      obtain hold | ⟨input, rfl, hextracts, hhandle⟩ :=
        extracts_or_mem_of_after op halive entry hentry htemporary
      · obtain ⟨s₁, input, hs₁, hextracts, hhandle, hlater⟩ := ih entry hold htemporary
        exact ⟨s₁, input, hs₁, hextracts, hhandle, .operate op hlater⟩
      · exact ⟨s, input, h, hextracts, hhandle, .refl⟩
  | meanwhile h hothers ih =>
      intro entry hentry htemporary
      obtain ⟨s₁, input, hs₁, hextracts, hhandle, hlater⟩ := ih entry hentry htemporary
      exact ⟨s₁, input, hs₁, hextracts, hhandle, .meanwhile hlater hothers⟩

/-- The copies that a cleanup deletes have names of the session's own. -/
theorem Later.temporaryPaths_eq {others : W → W → Prop} {s₀ : Live (Traced W)}
    (h : Later others s₀ s) (hdirectory : s₀.session.temporaryDirectory = some path)
    (hfiles : s₀.session.registry.files = []) :
    ∀ kept ∈ s.session.temporaryPaths, ∃ number, kept = Claim.memberPath path number := by
  intro kept hkept
  obtain ⟨file, hfile, htemporary, rfl⟩ := mem_temporaryPaths.1 hkept
  obtain ⟨s₁, input, -, hextracts, -⟩ := h.extracted hdirectory hfiles file.identity
    (List.mem_map_of_mem hfile) htemporary
  exact ⟨_, hextracts.name⟩

/-! ### Cleanups -/

/-- What is deleted are copies. -/
theorem isWithin_of_mem_deletions {session : Session} {resolutions : Option Path} {e : Effect}
    (hcopies : ∀ kept ∈ session.temporaryPaths, ∃ number, kept = Claim.memberPath path number)
    (h : Step.call e ∈ session.deletionScript ++ [.call .releaseSymbols]) :
    IsWithin (some path) resolutions e := by
  obtain ⟨kept, hkept, rfl⟩ | rfl := eq_of_mem_deletionScript h
  · obtain ⟨number, rfl⟩ := hcopies kept hkept
    exact isWithin_of_copy number (.inr rfl)
  · exact .still (.inr rfl)

omit [Platform W] in
/-- Only what can be noticed matters. -/
theorem isWithin_of_visible {directory resolutions : Option Path} {cs : List (Call W)}
    (h : ∀ c ∈ visible cs, IsWithin directory resolutions c.effect) :
    ∀ c ∈ cs, IsWithin directory resolutions c.effect := by
  intro c hc
  cases hvisible : c.effect.visible with
  | false => exact isWithin_of_hidden hvisible
  | true => exact h c (List.mem_filter.2 ⟨hc, hvisible⟩)

/-- **A cleanup is about copies and the arguments file**, until it removes the directory, if it
does. -/
theorem Teardown.split {session session' : Session} {r : Except Failure Unit} {cs : List (Call W)}
    (h : Teardown session path r cs session')
    (hcopies : ∀ kept ∈ session.temporaryPaths, ∃ number, kept = Claim.memberPath path number) :
    (∀ c ∈ cs, IsWithin (some path) none c.effect) ∨
      ∃ pre tree post, cs = pre ++ tree :: post ∧
        (∀ c ∈ pre, IsWithin (some path) none c.effect) ∧ tree.effect = .removeTree path ∧
        visible post = [] := by
  cases h with
  | stopped before tree hr hcalls hbefore htree hsession =>
      obtain ⟨pre, post, rfl, rfl, hpost⟩ := visible_split hcalls
      refine .inr ⟨pre, tree, post, rfl, isWithin_of_visible fun c hc => ?_, htree, hpost⟩
      exact isWithin_of_mem_deletions hcopies (List.mem_append_left _ (hbefore.effect_mem hc))
  | kept hverbose hr hcalls hsession =>
      refine .inl (isWithin_of_visible fun c hc => ?_)
      exact isWithin_of_mem_deletions hcopies (hcalls.effect_mem hc)
  | removed before arguments tree hverbose hcalls hbefore harguments htree hr hsession =>
      have hcalls' : visible cs = (before ++ [arguments]) ++ tree :: [] := by
        rw [hcalls]
        simp
      obtain ⟨pre, post, rfl, hpre, hpost⟩ := visible_split hcalls'
      refine .inr ⟨pre, tree, post, rfl, isWithin_of_visible fun c hc => ?_, htree, hpost⟩
      rw [hpre, List.mem_append, List.mem_singleton] at hc
      obtain hc | rfl := hc
      · exact isWithin_of_mem_deletions hcopies (hbefore.effect_mem hc)
      · exact .entry path _ rfl .arguments (.inr harguments)

end LtoBridge.Session
