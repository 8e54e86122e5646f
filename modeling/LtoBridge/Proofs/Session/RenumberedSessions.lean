/-
**Sessions with renumbered copies.**

Two sessions have claimed the same files, but for the numbers of the copies.  Whatever the linker
does next, it gets the same answer from both, with new names in place of the old ones, they ask for
the same, and again they have claimed the same files.

Main definitions:

* `LtoBridge.Renumbering.Sessions`: a session, and the same with renumbered copies;
* `LtoBridge.Comparison.Lives`: how far two sessions have got, side by side.

Main results:

* `LtoBridge.Comparison.Lives.claimFile`: **the same is claimed**;
* `LtoBridge.Comparison.Lives.allSymbolsRead`: the same is written, run and handed over;
* `LtoBridge.Comparison.Lives.cleanup`: the same is deleted.
-/

import LtoBridge.Proofs.Session.RenumberedMachines

set_option autoImplicit false

namespace LtoBridge

namespace Renumbering

variable (σ : Renumbering)

/-- **The options do not name copies**: neither the files that they name nor the arguments of the
backend change. -/
structure NamesNoCopies (options : Options) : Prop where
  files : ∀ p, PassThrough.file p ∈ options.passThrough ∨ options.resolutionFile = some p →
    σ.rename p = p
  flags : ∀ flag ∈ options.backendFlags, σ.rename (Bytes.ofString flag) = Bytes.ofString flag

/-- **A session and the same with renumbered copies.** -/
structure Sessions (s s' : Session) : Prop where
  registry : s'.registry = σ.renameRegistry s.registry
  outputs : s'.outputs = s.outputs.map σ.rename
  options : s'.options = s.options
  temporaryDirectory : s'.temporaryDirectory = s.temporaryDirectory
  copied : s.temporaryDirectory ≠ none → σ.first ≤ s.copied ∧ s'.copied = s.copied + σ.step
  copies : ∀ entry ∈ s.registry.identities, entry.2.2 = true →
    ∃ n, entry.1 = σ.copyName n ∧ σ.Short n
  names : σ.NamesNoCopies s.options

/-- What is handed over once is not handed over again. -/
theorem NamesNoCopies.emptied {options : Options} (h : σ.NamesNoCopies options) :
    σ.NamesNoCopies { options with passThrough := [] } := by
  refine ⟨fun p hp => ?_, h.flags⟩
  rcases hp with hp | hp
  · cases hp
  · exact h.files p (.inr hp)

/-- The session works in the directory. -/
def IsLive (s : Session) : Prop := s.temporaryDirectory = some σ.path

end Renumbering

namespace Session

/-- The session is over. -/
def IsOver (s : Session) : Prop := s.temporaryDirectory = none

/-- A property of sessions is about their directory only. -/
def IsAboutDirectory (S : Session → Prop) : Prop :=
  ∀ s s' : Session, s'.temporaryDirectory = s.temporaryDirectory → S s → S s'

theorem isAboutDirectory_isLive (σ : Renumbering) : IsAboutDirectory σ.IsLive :=
  fun _ _ hsame hs => hsame.trans hs

theorem isAboutDirectory_isOver : IsAboutDirectory IsOver := fun _ _ hsame hs => hsame.trans hs

end Session

namespace Comparison

variable {L : Type} [Linker L] (κ : Comparison L)

/-- **How far two sessions have got**, where the first one and its disk have a property. -/
structure Lives (S : Session → Prop) (P : Disk → Prop) (s s' : Live (Traced (Machine L))) :
    Prop where
  session : κ.σ.Sessions s.session s'.session
  known : S s.session
  world : κ.Worlds P s.world s'.world

/-- **Two steps of sessions go on side by side.** -/
abbrev Accords {α : Type} (S : Session → Prop) (P : Disk → Prop) (V : α → α → Prop)
    (act act' : Act (Live (Traced (Machine L))) α) : Prop :=
  Act.Keeps κ.σ.renameFailure (κ.Lives S P) V act act'

variable {κ} {α : Type} {V : α → α → Prop} {S S' : Session → Prop} {P P' : Disk → Prop}
  {s s' : Live (Traced (Machine L))}

open Session

/-! ### Single steps -/

theorem Lives.mono (h : κ.Lives S P s s') (hS : ∀ s, S s → S' s) (hP : ∀ d, P d → P' d) :
    κ.Lives S' P' s s' :=
  ⟨h.session, hS _ h.known, h.world.mono hP⟩

/-- A step outside the sessions. -/
theorem Lives.onWorld (h : κ.Lives S P s s') {act act' : Act (Traced (Machine L)) α}
    (hact : Act.Matches κ.σ.renameFailure V (act s.world).1 (act' s'.world).1 ∧
      κ.Worlds P' (act s.world).2 (act' s'.world).2) :
    Act.Matches κ.σ.renameFailure V (Session.outside act s).1 (Session.outside act' s').1 ∧
      κ.Lives S P' (Session.outside act s).2 (Session.outside act' s').2 :=
  ⟨hact.1, h.session, h.known, hact.2⟩

theorem accords_outside {act act' : Act (Traced (Machine L)) α} (h : κ.Keeps P V act act') :
    κ.Accords S P V (outside act) (outside act') :=
  fun _ _ hs => hs.onWorld (h _ _ hs.world)

theorem accords_tell (span : Span) (notice notice' : Notice) :
    κ.Accords S P Eq (tell span notice) (tell span notice') :=
  accords_outside (keeps_say _ _ _ _)

theorem accords_view {f : Session → α}
    (hf : ∀ s s', κ.σ.Sessions s s' → S s → V (f s) (f s')) :
    κ.Accords S P V (view f) (view f) :=
  fun _ _ h => ⟨.ok (hf _ _ h.session h.known), h⟩

theorem accords_update {f f' : Session → Session}
    (hf : ∀ s s', κ.σ.Sessions s s' → S s → κ.σ.Sessions (f s) (f' s') ∧ S (f s)) :
    κ.Accords S P Eq (update f) (update f') :=
  fun _ _ h =>
    have hupdated := hf _ _ h.session h.known
    ⟨.ok rfl, hupdated.1, hupdated.2, h.world⟩

/-- A step that depends on the states of the sessions. -/
theorem matches_view_bind {β : Type} {f : Session → β}
    {g g' : β → Act (Live (Traced (Machine L))) α} {R : Live (Traced (Machine L)) →
      Live (Traced (Machine L)) → Prop}
    (h : Act.Matches κ.σ.renameFailure V (g (f s.session) s).1 (g' (f s'.session) s').1 ∧
      R (g (f s.session) s).2 (g' (f s'.session) s').2) :
    Act.Matches κ.σ.renameFailure V ((view f >>= g) s).1 ((view f >>= g') s').1 ∧
      R ((view f >>= g) s).2 ((view f >>= g') s').2 := h

/-- The directory of a session. -/
theorem accords_directory (hS : ∀ s, S s → κ.σ.IsLive s) :
    κ.Accords S P (fun p p' => p = κ.σ.path ∧ p' = κ.σ.path) directory directory := by
  have hlive : κ.Accords S P (fun p p' => p = some κ.σ.path ∧ p' = some κ.σ.path)
      (view (·.temporaryDirectory)) (view (·.temporaryDirectory)) :=
    accords_view fun s s' h hs => ⟨hS s hs, h.temporaryDirectory.trans (hS s hs)⟩
  refine .bind hlive ?_
  rintro _ _ ⟨rfl, rfl⟩
  exact .pure ⟨rfl, rfl⟩

/-! ### Offers -/

variable {n : Nat} {input : InputFile}

/-- A copy goes. -/
theorem accords_delete_copy (hn : κ.σ.Short n) :
    κ.Accords S κ.σ.Hosts Eq (delete (κ.σ.copyName n)) (delete (κ.σ.copyName (κ.σ.number n))) :=
  accords_outside (keeps_remove_copy hn)

/-- Where an offered file is from now on: a member is kept as a copy, and any other file where it
is. -/
structure KeptAlike (κ : Comparison L) (input : InputFile) (kept kept' : Path) : Prop where
  renamed : κ.σ.rename kept = kept'
  copy : input.isMember = true → ∃ n, kept = κ.σ.copyName n ∧ κ.σ.Short n

/-- What is not going to be claimed is given up alike. -/
theorem accords_discard {kept kept' : Path} (h : κ.KeptAlike input kept kept') :
    κ.Accords S κ.σ.Hosts Eq (discard input kept) (discard input kept') := by
  unfold Session.discard
  split
  · rename_i hmember
    obtain ⟨n, rfl, hn⟩ := h.copy hmember
    rw [← h.renamed, κ.σ.rename_copyName]
    exact accords_delete_copy hn
  · exact .pure rfl

/-- **The same symbols are announced**, and the same is entered in the registry. -/
theorem accords_claim (span : Span) (table : SymbolTable) {kept kept' : Path}
    (h : κ.KeptAlike input kept kept') :
    κ.Accords κ.σ.IsLive κ.σ.Hosts Eq (claim span input kept table)
      (claim span input kept' table) := by
  unfold claim
  have htold : κ.Accords κ.σ.IsLive κ.σ.Hosts Eq
      (Act.forEach (fun symbol => tell span (.offeredSymbol symbol)) table.symbols)
      (Act.forEach (fun symbol => tell span (.offeredSymbol symbol)) table.symbols) :=
    .forEach (B := Eq) (List.forall₂_refl _) fun _ _ _ => accords_tell _ _ _
  have hadded : κ.Accords κ.σ.IsLive κ.σ.Hosts Eq
      (outside (Platform.addSymbols input.handle table.symbols))
      (outside (Platform.addSymbols input.handle table.symbols)) :=
    accords_outside (keeps_addSymbols _ _)
  refine .bind htold fun _ _ _ => .bind hadded.attempt ?_
  rintro _ _ (⟨rfl⟩ | failure)
  · refine .bind (accords_tell _ _ _) fun _ _ _ => accords_update ?_
    intro s s' hs hlive
    refine ⟨{ hs with registry := ?_, copies := ?_ }, hlive⟩
    · simp only [hs.registry, κ.σ.renameRegistry_push, Renumbering.renameFile, h.renamed]
    · intro entry hentry htemporary
      simp only [Registry.identities_push, List.mem_append, List.mem_singleton] at hentry
      obtain hentry | rfl := hentry
      · exact hs.copies entry hentry htemporary
      · exact h.copy htemporary
  · refine .bind (accords_discard h) fun _ _ _ => ?_
    exact .within (.ofResult (.error failure)) fun failure => κ.σ.renameFailure_within _ failure

/-- **A member is copied**, under the next number. -/
theorem Lives.extract (h : κ.Lives κ.σ.IsLive κ.σ.Hosts s s')
    (hshort : κ.σ.Short s.session.copied) :
    Act.Matches κ.σ.renameFailure (fun kept kept' => κ.σ.rename kept = kept' ∧
        ∃ n, kept = κ.σ.copyName n ∧ κ.σ.Short n)
      (Session.extract input s).1 (Session.extract input s').1 ∧
      κ.Lives κ.σ.IsLive κ.σ.Hosts (Session.extract input s).2 (Session.extract input s').2 := by
  let S (s : Session) : Prop := κ.σ.IsLive s ∧ κ.σ.Short s.copied
  have hstart : κ.Lives S κ.σ.Hosts s s' := ⟨h.session, ⟨h.known, hshort⟩, h.world⟩
  have hnumber : κ.Accords S κ.σ.Hosts
      (fun n n' => n' = κ.σ.number n ∧ κ.σ.first ≤ n ∧ κ.σ.Short n) (view (·.copied))
      (view (·.copied)) := by
    refine accords_view fun s s' hs ⟨hlive, hshort⟩ => ?_
    obtain ⟨hfirst, hcopied⟩ := hs.copied (by rw [hlive]; nofun)
    exact ⟨hcopied.trans (κ.σ.number_of_le hfirst).symm, hfirst, hshort⟩
  have hless : ∀ {s s'}, κ.Lives S κ.σ.Hosts s s' → κ.Lives κ.σ.IsLive κ.σ.Hosts s s' :=
    fun h => h.mono (fun _ hs => hs.1) fun _ hd => hd
  refine Act.matches_bind (accords_directory (fun _ hs => hs.1) s s' hstart)
    (fun _ _ h => hless h) ?_
  rintro _ _ t t' ⟨rfl, rfl⟩ ht
  refine Act.matches_bind (hnumber t t' ht) (fun _ _ h => hless h) ?_
  rintro n _ t t' ⟨rfl, hfirst, hn⟩ ht
  -- the number is taken before the copy is made, and stays taken if that fails
  have hcounted : κ.Lives κ.σ.IsLive κ.σ.Hosts
      (update (fun s => { s with copied := n + 1 }) t).2
      (update (fun s => { s with copied := κ.σ.number n + 1 }) t').2 := by
    refine ⟨{ ht.session with copied := fun _ => ⟨?_, ?_⟩ }, ht.known.1, ht.world⟩
    · exact Nat.le_succ_of_le hfirst
    · change κ.σ.number n + 1 = n + 1 + κ.σ.step
      rw [κ.σ.number_of_le hfirst]
      omega
  have hcopied : κ.Accords κ.σ.IsLive κ.σ.Hosts Eq
      (outside ((Extraction.copyRange input.file input.offset input.size (κ.σ.copyName n)).within
        (.extracting input.offset input.path)))
      (outside ((Extraction.copyRange input.file input.offset input.size
        (κ.σ.copyName (κ.σ.number n))).within (.extracting input.offset input.path))) :=
    accords_outside ((keeps_copyRange hn _ _ _).within rfl)
  refine Act.matches_bind (V := Eq) ⟨.ok rfl, hcounted⟩ (fun _ _ h => h) fun _ _ t t' _ ht => ?_
  refine Act.matches_bind (hcopied t t' ht) (fun _ _ h => h) fun _ _ t t' _ ht => ?_
  exact ⟨.ok ⟨κ.σ.rename_copyName n, n, rfl, hn⟩, ht⟩

/-- What is offered is read alike. -/
theorem Lives.load (h : κ.Lives κ.σ.IsLive κ.σ.Hosts s s')
    (hshort : input.isMember = true → κ.σ.Short s.session.copied)
    (hinput : κ.σ.rename input.path = input.path) (span : Span) :
    Act.Matches κ.σ.renameFailure (fun x x' => κ.KeptAlike input x.1 x'.1 ∧
        Act.Matches κ.σ.renameFailure Eq x.2 x'.2)
      (Session.load span input s).1 (Session.load span input s').1 ∧
      κ.Lives κ.σ.IsLive κ.σ.Hosts (Session.load span input s).2
        (Session.load span input s').2 := by
  unfold Session.load
  split
  · rename_i hmember
    refine Act.matches_bind (h.extract (hshort hmember)) (fun _ _ h => h) ?_
    rintro _ _ t t' ⟨rfl, n, rfl, hn⟩ ht
    rw [κ.σ.rename_copyName]
    have hloaded : κ.Accords κ.σ.IsLive κ.σ.Hosts Eq
        (outside (Claim.loadCopy (some span) (κ.σ.copyName n)))
        (outside (Claim.loadCopy (some span) (κ.σ.copyName (κ.σ.number n)))) :=
      accords_outside (keeps_loadCopy hn _)
    refine Act.Keeps.bind hloaded.attempt (fun loaded loaded' hsame => .pure ?_) t t' ht
    exact ⟨⟨κ.σ.rename_copyName n, fun _ => ⟨n, rfl, hn⟩⟩, hsame⟩
  · rename_i hmember
    have hloaded : κ.Accords κ.σ.IsLive κ.σ.Hosts Eq
        (outside (Claim.readSymbols (some span) input.file input.size input.path))
        (outside (Claim.readSymbols (some span) input.file input.size input.path)) :=
      accords_outside (keeps_readSymbols _ _ _ hinput)
    refine Act.Keeps.bind hloaded.attempt (fun loaded loaded' hsame => .pure ?_) s s' h
    exact ⟨⟨hinput, fun h => absurd h hmember⟩, hsame⟩

/-- **The same is decided about an offer.** -/
theorem Lives.claimFile (h : κ.Lives κ.σ.IsLive κ.σ.Hosts s s')
    (hshort : input.isMember = true → κ.σ.Short s.session.copied)
    (hinput : κ.σ.rename input.path = input.path) :
    Act.Matches κ.σ.renameFailure Eq (Session.claimFile input s).1 (Session.claimFile input s').1 ∧
      κ.Lives κ.σ.IsLive κ.σ.Hosts (Session.claimFile input s).2
        (Session.claimFile input s').2 := by
  let S (s : Session) : Prop :=
    κ.σ.IsLive s ∧ (input.isMember = true → κ.σ.Short s.copied)
  have hstart : κ.Lives S κ.σ.Hosts s s' := ⟨h.session, ⟨h.known, hshort⟩, h.world⟩
  have hless : ∀ {s s'}, κ.Lives S κ.σ.Hosts s s' → κ.Lives κ.σ.IsLive κ.σ.Hosts s s' :=
    fun h => h.mono (fun _ hs => hs.1) fun _ hd => hd
  refine Act.matches_bind (accords_directory (fun _ hs => hs.1) s s' hstart)
    (fun _ _ h => hless h) fun _ _ t t' _ ht => ?_
  refine Act.matches_bind ((hless ht).load ht.known.2 hinput _) (fun _ _ h => h) ?_
  rintro ⟨kept, loaded⟩ ⟨kept', loaded'⟩ t t' ⟨hkept, hloaded⟩ ht
  dsimp only at hkept hloaded
  cases hloaded with
  | error failure =>
      exact Act.Keeps.bind (accords_discard hkept) (fun _ _ _ => .ofResult (.error failure)) t t' ht
  | @ok table _ hsame =>
      subst hsame
      cases table with
      | none =>
          refine Act.Keeps.bind (accords_discard hkept) (fun _ _ _ => ?_) t t' ht
          exact .bind (accords_tell _ _ _) fun _ _ _ => .pure rfl
      | some table =>
          exact Act.Keeps.bind (accords_claim _ table hkept) (fun _ _ _ => .pure rfl) t t' ht

/-! ### Resolutions -/

section

variable (hS : IsAboutDirectory S)

include hS

/-- The same is asked about a file, and the same is entered. -/
theorem accords_ask (span : Span) (index : Nat) (file : ClaimedFile) :
    κ.Accords S P Eq (ask span index file) (ask span index (κ.σ.renameFile file)) := by
  unfold ask
  rw [show (κ.σ.renameFile file).symbols = file.symbols from rfl]
  split
  · exact .pure rfl
  · rename_i table hsymbols
    refine .bind (accords_outside (keeps_getSymbols file.handle table.symbols)) ?_
    rintro answer answer' ⟨hloaded, hentered⟩
    have hassigned : κ.Accords S P Eq
        (update fun s => { s with registry := s.registry.assign index answer.entered })
        (update fun s => { s with registry := s.registry.assign index answer'.entered }) := by
      refine accords_update fun s s' hs hknown =>
        ⟨{ hs with registry := ?_, copies := ?_ }, hS s _ rfl hknown⟩
      · simp only [hs.registry, hentered, κ.σ.renameRegistry_assign]
      · simpa only [Registry.identities_assign] using hs.copies
    have hresult : κ.Accords S P Eq
        ((Act.ofResult answer.loaded).within (.resolving file.path))
        ((Act.ofResult answer'.loaded).within (.resolving (κ.σ.rename file.path))) := by
      rw [hloaded]
      exact .within (.ofResult (Act.matches_mapError _))
        fun failure => κ.σ.renameFailure_within _ failure
    refine .bind hassigned fun _ _ _ => .bind hresult ?_
    rintro loaded _ rfl
    split
    · exact .pure rfl
    · exact accords_tell _ _ _

/-- The same is asked about all claimed files. -/
theorem accords_resolve (span : Span) (index : Nat) (files : List ClaimedFile) :
    κ.Accords S P Eq (resolve span index files)
      (resolve span index (files.map κ.σ.renameFile)) := by
  induction files generalizing index with
  | nil => exact .pure rfl
  | cons file files ih =>
      exact .bind (accords_ask hS span index file) fun _ _ _ => ih (index + 1)

omit hS in
/-- **The resolutions are written alike.** -/
theorem Lives.writeResolutions {file : Path} (span : Span)
    (h : κ.Lives S (fun d => P d ∧ κ.σ.LeadsPast d file) s s')
    (hP : ∀ d d' l, P d → d.ChangesFile d' l → P d') (hname : κ.σ.rename file = file) :
    Act.Matches κ.σ.renameFailure Eq (Session.writeResolutions span file s).1
        (Session.writeResolutions span file s').1 ∧
      κ.Lives S P (Session.writeResolutions span file s).2
        (Session.writeResolutions span file s').2 := by
  have hless : κ.Lives S P s s' := h.mono (fun _ hs => hs) fun _ hd => hd.1
  have htext : κ.σ.Lists (ResolutionFile.render s.session.registry)
      (ResolutionFile.render s'.session.registry) := by
    rw [h.session.registry]
    exact .resolutions _
  have hwritten := hless.world.write (.creatingResolutions file) (.writingResolutions file) hP
    (h.world.ready.disk.2 _ h.world.ready.disks) hname htext rfl rfl
  refine matches_view_bind (Act.matches_bind (hless.onWorld hwritten) (fun _ _ h => h) ?_)
  exact fun _ _ t t' _ ht => accords_tell _ _ _ t t' ht

/-- **The same is asked and written**, if there is a file for it. -/
theorem Lives.settleResolutions (span : Span) (h : κ.Lives S P s s')
    (hP : ∀ d d' l, P d → d.ChangesFile d' l → P d')
    (hpast : ∀ file, s.session.options.resolutionFile = some file →
      κ.σ.LeadsPast s.world.world.disk file) :
    Act.Matches κ.σ.renameFailure Eq (Session.settleResolutions span s).1
        (Session.settleResolutions span s').1 ∧
      κ.Lives S P (Session.settleResolutions span s).2
        (Session.settleResolutions span s').2 := by
  refine matches_view_bind ?_
  rw [id, id, h.session.options, h.session.registry]
  cases hfile : s.session.options.resolutionFile with
  | none => exact ⟨.ok rfl, h⟩
  | some file =>
      -- asking leaves the disk as it is
      have hstart : κ.Lives S (fun d => P d ∧ κ.σ.LeadsPast d file) s s' :=
        ⟨h.session, h.known, ⟨{ h.world.ready with
          disk := ⟨h.world.ready.disk, hpast file hfile⟩ }, h.world.calls⟩⟩
      refine Act.matches_bind (accords_resolve hS span 0 _ s s' hstart)
        (fun _ _ h => h.mono (fun _ hs => hs) fun _ hd => hd.1) fun _ _ t t' _ ht => ?_
      exact ht.writeResolutions span hP (h.session.names.files file (.inr hfile))

/-- What the linker no longer needs is forgotten. -/
theorem accords_releaseSymbols : κ.Accords S P Eq releaseSymbols releaseSymbols := by
  have hreleased : κ.Accords S P Eq (update fun s => { s with registry := s.registry.release })
      (update fun s => { s with registry := s.registry.release }) := by
    refine accords_update fun s s' hs hknown =>
      ⟨{ hs with registry := ?_, copies := ?_ }, hS s _ rfl hknown⟩
    · simp only [hs.registry, κ.σ.renameRegistry_release]
    · simpa only [Registry.identities_release] using hs.copies
  exact .bind hreleased fun _ _ _ => accords_outside keeps_releaseSymbols

end

/-! ### The backend -/

/-- What the backend produced is handed over alike. -/
theorem accords_takeOutput (path : Path) :
    κ.Accords κ.σ.IsLive P Eq (takeOutput path) (takeOutput (κ.σ.rename path)) :=
  .bind (accords_outside (keeps_addInputFile path)) fun _ _ _ =>
    accords_update fun s s' hs hlive => ⟨{ hs with outputs := by simp [hs.outputs] }, hlive⟩

theorem accords_passOn (lines : List Path) :
    κ.Accords κ.σ.IsLive P Eq (Backend.passOn takeOutput lines)
      (Backend.passOn takeOutput (lines.map κ.σ.rename)) := by
  induction lines with
  | nil => exact .pure rfl
  | cons line lines ih =>
      rw [List.map_cons, Backend.passOn, Backend.passOn]
      simp only [κ.σ.rename_eq_nil_iff]
      split
      · exact .fail rfl
      · exact .bind (accords_takeOutput line) fun _ _ _ => ih

/-- **The same is made of what the backend did.** -/
theorem accords_collect (backend : Path) {process process' : Process}
    (h : κ.σ.ProcessesAlike process process') :
    κ.Accords κ.σ.IsLive P Eq (Backend.collect backend process takeOutput)
      (Backend.collect backend process' takeOutput) := by
  unfold Backend.collect
  dsimp only
  rw [h.complete, h.rest, h.readError, h.status]
  refine .bind (accords_passOn _) fun _ _ _ => ?_
  split
  · exact .within (.fail rfl) fun failure => κ.σ.renameFailure_within _ failure
  · split
    · exact .fail rfl
    · split
      · exact .pure rfl
      · exact .fail rfl

/-- **The same arguments are written**, under the new names of the copies. -/
theorem Lives.prepareBackend (span : Span) (backend : Path)
    (h : κ.Lives κ.σ.IsLive κ.σ.Hosts s s') (words : List Path) :
    let prepare (words : List Path) : Act (Live (Traced (Machine L))) Unit :=
      Session.prepareBackend span backend (κ.σ.path.join Backend.argumentsName) words
    Act.Matches κ.σ.renameFailure Eq (prepare words s).1 (prepare (words.map κ.σ.rename) s').1 ∧
      κ.Lives κ.σ.IsLive κ.σ.Hosts (prepare words s).2
        (prepare (words.map κ.σ.rename) s').2 := by
  have harguments := h.world.ready.disks.leadsAlike_arguments h.world.ready.disk
  have hwritten := h.world.write (.creating (κ.σ.path.join Backend.argumentsName))
    (.writing (κ.σ.path.join Backend.argumentsName)) (fun _ _ _ hd => hd.of_changesFile)
    harguments κ.σ.rename_arguments (.arguments words)
    (congrArg Context.creating κ.σ.rename_arguments)
    (congrArg Context.writing κ.σ.rename_arguments)
  refine Act.matches_bind (h.onWorld hwritten) (fun _ _ h => h) fun _ _ t t' _ ht => ?_
  have hverbose : κ.Accords κ.σ.IsLive κ.σ.Hosts Eq (view (·.options.verbose))
      (view (·.options.verbose)) :=
    accords_view fun _ _ hs _ => congrArg Options.verbose hs.options.symm
  refine Act.Keeps.bind hverbose ?_ t t' ht
  rintro verbose _ rfl
  split
  · exact accords_outside (keeps_reportCommand _ _ _)
  · exact .pure rfl

/-- **The backend runs alike.** -/
theorem accords_runBackend (span : Span) :
    κ.Accords κ.σ.IsLive κ.σ.Hosts Eq (runBackend span) (runBackend span) := by
  refine .bind (accords_directory fun _ hs => hs) ?_
  rintro _ _ ⟨rfl, rfl⟩
  intro s s' h
  refine matches_view_bind ?_
  rw [h.session.options]
  cases hname : s.session.options.backend? with
  | none => exact Act.Keeps.fail rfl s s' h
  | some name =>
      refine matches_view_bind ?_
      -- of the arguments, only the names of copies change
      have hwords : s.session.options.backendFlags.map Bytes.ofString ++ s'.session.registry.paths =
          (s.session.options.backendFlags.map Bytes.ofString ++
            s.session.registry.paths).map κ.σ.rename := by
        have hflags : (s.session.options.backendFlags.map Bytes.ofString).map κ.σ.rename =
            s.session.options.backendFlags.map Bytes.ofString := by
          rw [List.map_map]
          exact List.map_congr_left h.session.names.flags
        rw [List.map_append, hflags, h.session.registry, κ.σ.paths_renameRegistry]
      rw [hwords]
      refine Act.matches_bind (h.prepareBackend span _ _) (fun _ _ h => h) fun _ _ t t' _ ht => ?_
      refine Act.Keeps.bind (accords_outside (keeps_launch _ _)) (fun process process' hsame => ?_)
        t t' ht
      exact .bind (accords_collect _ hsame) fun _ _ _ => accords_outside keeps_remove_arguments

/-- An item that the options name is handed over alike. -/
theorem keeps_passThrough (item : PassThrough)
    (hitem : ∀ path, item = .file path → κ.σ.rename path = path) :
    κ.Keeps P Eq (passThrough item) (passThrough item) := by
  cases item with
  | library name => exact keeps_addInputLibrary name
  | file path =>
      have hadded : κ.Keeps P Eq (Act.ofFunction (Platform.addInputFile path))
          (Act.ofFunction (Platform.addInputFile (κ.σ.rename path))) := keeps_addInputFile path
      rwa [hitem path rfl] at hadded

/-- **What is to be passed through is passed through alike.** -/
theorem accords_forwardPassThrough :
    κ.Accords κ.σ.IsLive P Eq forwardPassThrough forwardPassThrough := by
  have hitems : κ.Accords κ.σ.IsLive P
      (fun items items' => items = items' ∧
        ∀ item ∈ items, ∀ path, item = .file path → κ.σ.rename path = path)
      (view (·.options.passThrough)) (view (·.options.passThrough)) := by
    refine accords_view fun s s' hs _ => ⟨by rw [hs.options], ?_⟩
    rintro _ hitem path rfl
    exact hs.names.files path (.inl hitem)
  refine .bind hitems ?_
  rintro items _ ⟨rfl, hnames⟩
  have hemptied : κ.Accords κ.σ.IsLive P Eq
      (update fun s => { s with options := { s.options with passThrough := [] } })
      (update fun s => { s with options := { s.options with passThrough := [] } }) := by
    refine accords_update fun s s' hs hlive =>
      ⟨{ hs with options := ?_, names := hs.names.emptied }, hlive⟩
    simp only [hs.options]
  refine .bind hemptied fun _ _ _ => accords_outside ?_
  refine .forEach (B := fun item item' => item = item' ∧ item ∈ items) ?_ ?_
  · exact List.forall₂_same.2 fun item hitem => ⟨rfl, hitem⟩
  · rintro item _ ⟨rfl, hitem⟩
    exact keeps_passThrough item (hnames item hitem)

/-- **The claimed files go back to the linker, or to the backend.** -/
theorem accords_settleFiles (hS : IsAboutDirectory S) (span : Span)
    (hrun : κ.Accords S P Eq (do
      runBackend span
      forwardPassThrough) (do
      runBackend span
      forwardPassThrough)) :
    κ.Accords S P Eq (settleFiles span) (settleFiles span) := by
  intro s s' h
  refine matches_view_bind ?_
  rw [id, id, h.session.options, h.session.registry, κ.σ.paths_renameRegistry]
  split
  · refine Act.Keeps.forEach (B := fun p p' => p' = κ.σ.rename p) ?_ ?_ s s' h
    · exact List.forall₂_map_right_iff.2 (List.forall₂_same.2 fun _ _ => rfl)
    · rintro path _ rfl
      exact accords_outside (keeps_addInputFile path)
  · exact Act.Keeps.bind (accords_releaseSymbols hS) (fun _ _ _ => hrun) s s' h

/-- **All that happens once all symbols have been read happens alike**, if what is done with the
claimed files does. -/
theorem Lives.allSymbolsRead (h : κ.Lives S P s s') (hS : IsAboutDirectory S)
    (hP : ∀ d d' l, P d → d.ChangesFile d' l → P d')
    (hpast : ∀ file, s.session.options.resolutionFile = some file →
      κ.σ.LeadsPast s.world.world.disk file)
    (hrun : ∀ span, κ.Accords S P Eq (do
      runBackend span
      forwardPassThrough) (do
      runBackend span
      forwardPassThrough)) :
    Act.Matches κ.σ.renameFailure Eq (Session.allSymbolsRead s).1
        (Session.allSymbolsRead s').1 ∧
      κ.Lives S P (Session.allSymbolsRead s).2 (Session.allSymbolsRead s').2 := by
  refine matches_view_bind ?_
  -- as many files have been claimed
  have hfiles : s'.session.registry.files = [] ↔ s.session.registry.files = [] := by
    rw [h.session.registry, Renumbering.renameRegistry, List.map_eq_nil_iff]
  simp only [hfiles]
  split
  · exact accords_tell _ _ _ s s' h
  · exact Act.matches_bind (h.settleResolutions hS _ hP hpast) (fun _ _ h => h)
      fun _ _ t t' _ ht => accords_settleFiles hS _ (hrun _) t t' ht

/-- **All that happens in a session happens alike**, once all symbols have been read. -/
theorem Lives.allSymbolsRead_of_live (h : κ.Lives κ.σ.IsLive κ.σ.Hosts s s')
    (hpast : ∀ file, s.session.options.resolutionFile = some file →
      κ.σ.LeadsPast s.world.world.disk file) :
    Act.Matches κ.σ.renameFailure Eq (Session.allSymbolsRead s).1
        (Session.allSymbolsRead s').1 ∧
      κ.Lives κ.σ.IsLive κ.σ.Hosts (Session.allSymbolsRead s).2
        (Session.allSymbolsRead s').2 :=
  h.allSymbolsRead (isAboutDirectory_isLive _) (fun _ _ _ hd => hd.of_changesFile) hpast
    fun span => .bind (accords_runBackend span) fun _ _ _ => accords_forwardPassThrough

/-! ### The end -/

/-- A session that is over has no directory. -/
theorem accords_directory_of_over :
    κ.Accords IsOver P (fun _ _ => False) directory directory := by
  have hover : κ.Accords IsOver P (fun p p' => p = none ∧ p' = none)
      (view (·.temporaryDirectory)) (view (·.temporaryDirectory)) :=
    accords_view fun s s' hs hover => ⟨hover, hs.temporaryDirectory.trans hover⟩
  refine .bind hover ?_
  rintro _ _ ⟨rfl, rfl⟩
  exact .fail rfl

/-- It claims nothing. -/
theorem accords_claimFile_of_over (input : InputFile) :
    κ.Accords IsOver P Eq (claimFile input) (claimFile input) :=
  .bind accords_directory_of_over fun _ _ h => h.elim

/-- Files that it has claimed before still go back to the linker, but no backend runs on them. -/
theorem Lives.allSymbolsRead_of_over (h : κ.Lives IsOver (fun _ => True) s s')
    (hpast : ∀ file, s.session.options.resolutionFile = some file →
      κ.σ.LeadsPast s.world.world.disk file) :
    Act.Matches κ.σ.renameFailure Eq (Session.allSymbolsRead s).1
        (Session.allSymbolsRead s').1 ∧
      κ.Lives IsOver (fun _ => True) (Session.allSymbolsRead s).2
        (Session.allSymbolsRead s').2 := by
  have hbackend : ∀ span, κ.Accords IsOver (fun _ => True) (fun _ _ => False) (runBackend span)
      (runBackend span) :=
    fun span => .bind accords_directory_of_over fun _ _ h => h.elim
  exact h.allSymbolsRead isAboutDirectory_isOver (fun _ _ _ _ _ => trivial) hpast
    fun span => .bind (hbackend span) fun _ _ h => h.elim

/-- Nothing is left to be cleaned up. -/
theorem accords_cleanup_of_over : κ.Accords IsOver P Eq cleanup cleanup := by
  intro s s' h
  refine matches_view_bind ?_
  rw [h.session.temporaryDirectory, h.known]
  exact ⟨.ok rfl, h⟩

/-- The arguments file is deleted alike, if it is there. -/
theorem accords_deleteArguments :
    κ.Accords S κ.σ.Hosts Eq (deleteArguments κ.σ.path) (deleteArguments κ.σ.path) := by
  refine .bind (accords_outside keeps_answer_remove_arguments) ?_
  rintro _ _ (⟨rfl⟩ | error)
  · exact .pure rfl
  · split
    · exact .pure rfl
    · exact .pure rfl
    · refine .within (.fail rfl) fun failure => ?_
      rw [κ.σ.renameFailure_within, Renumbering.renameContext, κ.σ.rename_arguments]

/-- **The same is deleted**, up to the directory itself. -/
theorem accords_clear :
    κ.Accords IsOver κ.σ.Hosts Eq (clear κ.σ.path) (clear κ.σ.path) := by
  have hregistry : κ.Accords IsOver κ.σ.Hosts (fun r r' => κ.σ.renameRegistry r = r' ∧
      ∀ entry ∈ r.identities, entry.2.2 = true → ∃ n, entry.1 = κ.σ.copyName n ∧ κ.σ.Short n)
      (view (·.registry)) (view (·.registry)) :=
    accords_view fun _ _ hs _ => ⟨hs.registry.symm, hs.copies⟩
  have hreset : κ.Accords IsOver κ.σ.Hosts Eq (update reset) (update reset) := by
    refine accords_update fun s s' hs hover =>
      ⟨⟨rfl, rfl, ?_, hs.temporaryDirectory, fun h => absurd hover h, nofun, hs.names.emptied⟩,
        hover⟩
    simp only [reset, hs.options]
  have hverbose : κ.Accords IsOver κ.σ.Hosts Eq (view (·.options.verbose))
      (view (·.options.verbose)) :=
    accords_view fun _ _ hs _ => congrArg Options.verbose hs.options.symm
  refine .bind hregistry ?_
  rintro r _ ⟨rfl, hcopies⟩
  have hdeleted : κ.Accords IsOver κ.σ.Hosts Eq
      (Act.forEach delete ((r.files.filter (·.temporary)).map (·.path)))
      (Act.forEach delete
        (((κ.σ.renameRegistry r).files.filter (·.temporary)).map (·.path))) := by
    refine .forEach (B := fun p p' => ∃ n, p = κ.σ.copyName n ∧
      p' = κ.σ.copyName (κ.σ.number n) ∧ κ.σ.Short n) ?_ ?_
    · rw [Renumbering.renameRegistry, List.filter_map, List.map_map, List.forall₂_map_left_iff,
        List.forall₂_map_right_iff]
      refine List.forall₂_same.2 fun file hfile => ?_
      obtain ⟨hfile, htemporary⟩ := List.mem_filter.1 hfile
      obtain ⟨n, hn, hshort⟩ := hcopies file.identity (List.mem_map_of_mem hfile) htemporary
      have hpath : file.path = κ.σ.copyName n := hn
      exact ⟨n, hpath, (congrArg κ.σ.rename hpath).trans (κ.σ.rename_copyName n), hshort⟩
    · rintro _ _ ⟨n, rfl, rfl, hn⟩
      exact accords_delete_copy hn
  have hreleased : κ.Accords IsOver κ.σ.Hosts Eq releaseSymbols releaseSymbols :=
    accords_releaseSymbols isAboutDirectory_isOver
  refine .bind hdeleted fun _ _ _ => .bind hreleased fun _ _ _ => .bind hreset fun _ _ _ =>
    .bind hverbose ?_
  rintro verbose _ rfl
  split
  · exact .pure rfl
  · exact accords_deleteArguments

/-- **The session ends alike.** -/
theorem Lives.cleanup (h : κ.Lives κ.σ.IsLive κ.σ.Hosts s s') :
    Act.Matches κ.σ.renameFailure Eq (Session.cleanup s).1 (Session.cleanup s').1 ∧
      κ.Lives IsOver (fun _ => True) (Session.cleanup s).2 (Session.cleanup s').2 := by
  have hless : ∀ {s s'}, κ.Lives IsOver κ.σ.Hosts s s' → κ.Lives IsOver (fun _ => True) s s' :=
    fun h => h.mono (fun _ hs => hs) fun _ _ => trivial
  have hover : κ.Lives IsOver κ.σ.Hosts
      (update (fun s => { s with temporaryDirectory := none }) s).2
      (update (fun s => { s with temporaryDirectory := none }) s').2 :=
    ⟨{ h.session with temporaryDirectory := rfl, copied := fun h => absurd rfl h }, rfl, h.world⟩
  refine matches_view_bind ?_
  rw [h.session.temporaryDirectory, h.known]
  -- the session is over before anything is deleted
  refine Act.matches_bind (V := Eq) ⟨.ok rfl, hover⟩ (fun _ _ h => hless h) fun _ _ t t' _ ht => ?_
  refine Act.matches_bind (accords_clear.attempt t t' ht) (fun _ _ h => hless h) ?_
  rintro _ _ t t' (⟨rfl⟩ | failure) ht
  · refine matches_view_bind ?_
    rw [ht.session.options]
    split
    · exact accords_tell _ _ _ t t' (hless ht)
    · refine Act.matches_bind (ht.onWorld ht.world.removeTree) (fun _ _ h => h) ?_
      rintro _ _ t t' (⟨rfl⟩ | error) ht
      · exact ⟨.ok rfl, ht⟩
      · exact ⟨.error _, ht⟩
  · have habandoned : Act.Matches κ.σ.renameFailure Eq (abandon κ.σ.path t).1
          (abandon κ.σ.path t').1 ∧
        κ.Lives IsOver (fun _ => True) (abandon κ.σ.path t).2 (abandon κ.σ.path t').2 :=
      Act.matches_bind (ht.onWorld ht.world.removeTree) (fun _ _ h => h)
        fun _ _ t t' _ ht => ⟨.ok rfl, ht⟩
    exact Act.matches_bind habandoned (fun _ _ h => h) fun _ _ t t' _ ht => ⟨.error failure, ht⟩

end Comparison

end LtoBridge
