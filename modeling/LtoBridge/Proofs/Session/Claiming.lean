/-
**Claiming a file.**

Whether a file is claimed depends on what is read from it and on the linker.  A file that is
claimed was announced to the linker exactly once, with the symbols that were read, and is the new
last file of the registry.  Anything else leaves the registry as it is.

Main definitions:

* `LtoBridge.Session.Harmless`: steps that neither talk to the linker nor change the session;
* `LtoBridge.Session.Found`: a symbol table was read;
* `LtoBridge.Session.Accepts`, `LtoBridge.Session.Declines`: the two outcomes of an offer.

Main results:

* `LtoBridge.Session.yields_claimFile`: **an offered file is claimed, or nothing happens to the
  registry**;
* `LtoBridge.Session.yields_claimFile_declined`: the linker hears nothing of a declined file.
-/

import LtoBridge.Proofs.Session.Basic

set_option autoImplicit false

namespace LtoBridge

/-- Is a call not for the linker, unless it announces symbols? -/
def Effect.IsOffer (e : Effect) : Prop :=
  e.IsOwn ∨ ∃ handle symbols, e = .addSymbols handle symbols

variable {W : Type} [Platform W]

/-! ### Reading files -/

/-- The call maps the file with a number, which has the given contents. -/
def Call.Maps (c : Call W) (file : Descriptor) (contents : Bytes) : Prop :=
  ∃ count, c.effect = .mapFile file count ∧ (Platform.mapFile file count c.before).1 = .ok contents

/-- The call opens a file, which gets a number. -/
def Call.Opens (c : Call W) (path : Path) (file : Descriptor) : Prop :=
  c.effect = .openFile path ∧ (Platform.openFile path c.before).1 = .ok file

namespace Extraction

section

variable {P : Effect → Prop} {source : Descriptor} {destination : Path}
  (hread : ∀ position count, P (.readAt source position count))
  (hwrite : ∀ data, P (.appendFile destination data))

include hread hwrite

theorem only_copyFrom (length position remaining : Nat) :
    Act.Only P (copyFrom (W := Traced W) source destination length position remaining) := by
  induction remaining using Nat.strongRecOn generalizing position with
  | ind remaining ih =>
      unfold copyFrom
      split
      · exact .pure ()
      · refine Act.Only.bind (.within (.ofOs (fun _ => rfl) (hread _ _))) fun piece => ?_
        split
        · exact .fail _
        · rename_i hremaining hpiece
          refine Act.Only.bind (.within (.ofOs (fun _ => rfl) (hwrite _))) fun _ => ?_
          exact ih _ (by omega) _

/-- **A member is copied by reading the one file and writing the other.** -/
theorem only_copyRange (hcreate : P (.createFile destination)) (offset length : Nat) :
    Act.Only P (copyRange (W := Traced W) source offset length destination) :=
  Act.Only.bind (.within (.ofOs (fun _ => rfl) hcreate)) fun _ => only_copyFrom hread hwrite _ _ _

end

end Extraction

namespace Session

/-- **A symbol table was read**: the file with a number was mapped and is an object with this table,
in the given stored form. -/
def Found (cs : List (Call W)) (file : Descriptor) (stored : Bytes) (table : SymbolTable) : Prop :=
  ∃ c ∈ cs, ∃ contents, c.Maps file contents ∧
    Elf.findSymbolTable? contents = some stored ∧ SymbolTable.decode stored = .ok table

theorem Found.mono {cs cs' : List (Call W)} {file : Descriptor} {stored : Bytes}
    {table : SymbolTable} (h : Found cs file stored table) (hcs : cs ⊆ cs') :
    Found cs' file stored table := by
  obtain ⟨c, hc, hcontents⟩ := h
  exact ⟨c, hcs hc, hcontents⟩

/-- Calls that are not for the linker, and that read the symbol table, if there is one, from a file
with a property. -/
def Reads (P : Descriptor → Prop) (r : Except Failure (Option SymbolTable)) (cs : List (Call W)) :
    Prop :=
  (∀ c ∈ cs, c.effect.IsOwn) ∧
    ∀ table, r = .ok (some table) → ∃ file stored, P file ∧ Found cs file stored table

/-- A symbol table is read from a file without the linker. -/
theorem yields_readSymbols (span : Option Span) (file : Descriptor) (size : Nat) (path : Path)
    (t : Traced W) :
    (Claim.readSymbols span file size path).Yields t fun r cs _ => Reads (· = file) r cs := by
  unfold Claim.readSymbols
  split
  · exact .pure ⟨by simp, by simp⟩
  · let call : Call W := ⟨.mapFile file size, t.world⟩
    have hown : ∀ c ∈ [call], c.effect.IsOwn := by simp [call]; rfl
    refine Act.Yields.answer_bind rfl ?_
    cases hmap : (Platform.mapFile file size t.world).1 with
    | error error =>
        refine Act.Yields.change_bind rfl (.pure ⟨?_, by simp⟩)
        simpa using ⟨rfl, rfl⟩
    | ok contents =>
        have hcall : call.Maps file contents := ⟨size, rfl, hmap⟩
        dsimp only
        split
        · exact .pure ⟨hown, by simp⟩
        · rename_i stored hstored
          split
          · rename_i table hdecode
            refine .pure ⟨hown, ?_⟩
            rintro _ ⟨⟩
            exact ⟨file, stored, rfl, call, by simp [call], contents, hcall, hstored, hdecode⟩
          · exact Act.yields_within_iff.2 (.fail ⟨hown, nofun⟩)

theorem Reads.extend {P P' : Descriptor → Prop} {r : Except Failure (Option SymbolTable)}
    {cs cs' : List (Call W)} (h : Reads P r cs) (hP : ∀ file, P file → P' file) (hcs : cs ⊆ cs')
    (hown : ∀ c ∈ cs', c.effect.IsOwn) : Reads P' r cs' := by
  refine ⟨hown, fun table htable => ?_⟩
  obtain ⟨file, stored, hfile, hstored⟩ := h.2 table htable
  exact ⟨file, stored, hP file hfile, hstored.mono hcs⟩

/-- The same for the copy of an archive member, which is opened first. -/
theorem yields_loadCopy (span : Option Span) (path : Path) (t : Traced W) :
    (Claim.loadCopy span path).Yields t fun r cs _ =>
      Reads (fun file => ∃ c ∈ cs, c.Opens path file) r cs := by
  have hopen : ((Act.ofOs (Platform.openFile (W := Traced W) path)).within (.opening path)).Yields t
      fun r cs _ => (∀ c ∈ cs, c.effect.IsOwn) ∧
        ∀ file, r = .ok file → ∃ c ∈ cs, c.Opens path file := by
    refine Act.yields_within_iff.2 (.ofOs rfl ⟨by simp; rfl, fun file hfile => ?_⟩)
    refine ⟨_, List.mem_singleton_self _, rfl, ?_⟩
    cases hresult : (Platform.openFile path t.world).1 with
    | error error =>
        rw [hresult] at hfile
        cases hfile
    | ok opened =>
        rw [hresult] at hfile
        cases hfile
        rfl
  refine hopen.bind ?_ fun _ _ _ hcs => ⟨hcs.1, nofun⟩
  rintro file cs t' ⟨hcs, hopened⟩
  have hsize : Act.Only Effect.IsOwn (Act.ofOs (Platform.fileSize (W := Traced W) file)) :=
    .ofOs (fun _ => rfl) rfl
  have hread : Act.Yields (do
      let size ← Act.ofOs (Platform.fileSize file)
      Claim.readSymbols span file size path) t' fun r cs' _ => Reads (· = file) r cs' := by
    refine (hsize t').bind ?_ fun _ _ _ hcs' => ⟨hcs', nofun⟩
    intro size cs' t'' hcs'
    refine (yields_readSymbols span file size path t'').mono fun r cs'' _ h => ?_
    exact h.extend (fun _ hfile => hfile) (List.subset_append_right _ _)
      fun c hc => (List.mem_append.1 hc).elim (hcs' c) (h.1 c)
  refine hread.attempt_bind fun loaded cs' t'' h => ?_
  refine Act.Yields.change_bind rfl (.ofResult (h.extend ?_ (by simp) ?_))
  · intro source hsource
    obtain ⟨c, hc, hopens⟩ := hopened source (by rw [hsource])
    exact ⟨c, List.mem_append_left _ hc, hopens⟩
  · simp only [List.mem_append, List.mem_singleton]
    rintro c (hc | hc | rfl)
    · exact hcs c hc
    · exact h.1 c hc
    · rfl

/-! ### Offers -/

variable {s : Live (Traced W)}

/-- A step that neither talks to the linker nor changes the session. -/
def Harmless {α : Type} (act : Act (Live (Traced W)) α) : Prop :=
  ∀ s, act.Yields s fun _ cs s' => (∀ c ∈ cs, c.effect.IsOwn) ∧ s'.session = s.session

theorem harmless_outside {α : Type} {act : Act (Traced W) α} (h : Act.Only Effect.IsOwn act) :
    Harmless (outside act) := fun s => yields_outside (h s.world)

theorem Harmless.pure {α : Type} (a : α) : Harmless (Pure.pure a : Act (Live (Traced W)) α) :=
  fun _ => .pure ⟨by simp, rfl⟩

theorem Harmless.ofResult {α : Type} (x : Except Failure α) :
    Harmless (Act.ofResult x : Act (Live (Traced W)) α) := fun _ => .ofResult ⟨by simp, rfl⟩

theorem Harmless.fail {α : Type} (cause : Cause) :
    Harmless (Act.fail cause : Act (Live (Traced W)) α) := fun _ => .fail ⟨by simp, rfl⟩

theorem Harmless.within {α : Type} {act : Act (Live (Traced W)) α} (context : Context)
    (h : Harmless act) : Harmless (act.within context) :=
  fun s => Act.yields_within_iff.2 (h s)

theorem Harmless.bind {α β : Type} {x : Act (Live (Traced W)) α} {f : α → Act (Live (Traced W)) β}
    (hx : Harmless x) (hf : ∀ a, Harmless (f a)) : Harmless (x >>= f) := by
  intro s
  refine (hx s).bind ?_ fun _ _ _ h => h
  rintro a cs s' ⟨hcs, hs'⟩
  refine (hf a s').mono ?_
  rintro r cs' s'' ⟨hcs', hs''⟩
  exact ⟨fun c hc => (List.mem_append.1 hc).elim (hcs c) (hcs' c), hs''.trans hs'⟩

theorem Harmless.forEach {α : Type} {f : α → Act (Live (Traced W)) Unit} (hf : ∀ a, Harmless (f a))
    (as : List α) : Harmless (Act.forEach f as) := by
  induction as with
  | nil => exact .pure ()
  | cons a as ih => exact (hf a).bind fun _ => ih

theorem harmless_delete (path : Path) : Harmless (W := W) (delete path) :=
  harmless_outside (.within (.ofOs (fun _ => rfl) rfl))

theorem harmless_discard (input : InputFile) (path : Path) :
    Harmless (W := W) (discard input path) := by
  unfold discard
  split
  · exact harmless_delete path
  · exact .pure ()

/-- Where an offered file is from now on. -/
def keptPath (session : Session) (input : InputFile) : Path :=
  if input.isMember then Claim.memberPath (session.temporaryDirectory.getD []) session.copied
  else input.path

/-- An archive member is copied, under a name of its own. -/
theorem yields_extract (input : InputFile) :
    (extract input).Yields s fun r cs s' =>
      (∀ c ∈ cs, c.effect.IsOwn) ∧ s'.session = { s.session with copied := s'.session.copied } ∧
      ∀ path, r = .ok path →
        path = Claim.memberPath (s.session.temporaryDirectory.getD []) s.session.copied := by
  cases hdirectory : s.session.temporaryDirectory with
  | none => exact yields_directory_bind_of_none hdirectory ⟨by simp, rfl, nofun⟩
  | some directory =>
      refine (yields_directory_bind_iff hdirectory).2 (yields_view_bind_iff.2 ?_)
      refine yields_update_bind_iff.2 (Act.Yields.bind (harmless_outside ?_ _) ?_ ?_)
      · exact .within
          (Extraction.only_copyRange (P := Effect.IsOwn) (fun _ _ => rfl) (fun _ => rfl) rfl _ _)
      · rintro _ cs s' ⟨hcs, hs'⟩
        refine .pure ⟨by simpa using hcs, by rw [hs'], ?_⟩
        rintro _ ⟨⟩
        rfl
      · rintro failure cs s' ⟨hcs, hs'⟩
        exact ⟨hcs, by rw [hs'], nofun⟩

/-- What is read of an offered file that is kept at a path: an archive member from its copy there,
and any other file as it was offered. -/
def Source (input : InputFile) (path : Path) (cs : List (Call W)) (file : Descriptor) : Prop :=
  if input.isMember then ∃ c ∈ cs, c.Opens path file else file = input.file

theorem Source.mono {input : InputFile} {path : Path} {cs cs' : List (Call W)} {file : Descriptor}
    (h : Source input path cs file) (hcs : cs ⊆ cs') : Source input path cs' file := by
  unfold Source at h ⊢
  split at h
  · rename_i hmember
    obtain ⟨c, hc, hopens⟩ := h
    rw [if_pos hmember]
    exact ⟨c, hcs hc, hopens⟩
  · rename_i hmember
    rw [if_neg hmember]
    exact h

/-- **What is offered is read**, an archive member from its copy. -/
theorem yields_load (span : Span) (input : InputFile) :
    (load span input).Yields s fun r cs s' =>
      (∀ c ∈ cs, c.effect.IsOwn) ∧ s'.session = { s.session with copied := s'.session.copied } ∧
      ∀ path loaded, r = .ok (path, loaded) →
        path = keptPath s.session input ∧ Reads (Source input path cs) loaded cs := by
  unfold load
  split
  · rename_i hmember
    refine (yields_extract input).bind ?_ ?_
    · rintro path cs s' ⟨hcs, hs', hpath⟩
      have hload := yields_outside (yields_loadCopy (some span) path s'.world)
      refine hload.attempt_bind fun loaded cs' s'' ⟨hread, hs''⟩ => .pure ?_
      have hown : ∀ c ∈ cs ++ (cs' ++ []), c.effect.IsOwn := by
        simpa [or_imp, forall_and] using ⟨hcs, hread.1⟩
      refine ⟨hown, by rw [hs'', hs'], ?_⟩
      rintro _ _ ⟨⟩
      refine ⟨?_, hread.extend (fun file hfile => ?_) (by simp) hown⟩
      · rw [keptPath, if_pos hmember]
        exact hpath path rfl
      · obtain ⟨c, hc, hopens⟩ := hfile
        rw [Source, if_pos hmember]
        exact ⟨c, by simp [hc], hopens⟩
    · rintro failure cs s' ⟨hcs, hs', -⟩
      exact ⟨hcs, hs', nofun⟩
  · rename_i hmember
    have hload := yields_outside
      (yields_readSymbols (some span) input.file input.size input.path s.world)
    refine hload.attempt_bind fun loaded cs s' ⟨hread, hs'⟩ => .pure ?_
    rw [List.append_nil]
    refine ⟨hread.1, by rw [hs'], ?_⟩
    rintro _ _ ⟨⟩
    refine ⟨by rw [keptPath, if_neg hmember],
      hread.extend (fun file hfile => ?_) (fun _ hc => hc) hread.1⟩
    rw [Source, if_neg hmember]
    exact hfile

/-- **The symbols of a file are announced**: by one call, and there are no other calls to the
linker. -/
def Announces (handle : Handle) (symbols : List Symbol) (cs : List (Call W)) : Prop :=
  ∃ before added after, cs = before ++ added :: after ∧
    added.effect = .addSymbols handle symbols ∧ added.succeeded = true ∧
    (∀ c ∈ before, c.effect.IsOwn) ∧ ∀ c ∈ after, c.effect.IsOwn

theorem Announces.prepend {handle : Handle} {symbols : List Symbol} {cs cs' : List (Call W)}
    (h : Announces handle symbols cs') (hcs : ∀ c ∈ cs, c.effect.IsOwn) :
    Announces handle symbols (cs ++ cs') := by
  obtain ⟨before, added, after, rfl, hadded, hsucceeded, hbefore, hafter⟩ := h
  refine ⟨cs ++ before, added, after, by rw [List.append_assoc], hadded, hsucceeded, ?_, hafter⟩
  exact fun c hc => (List.mem_append.1 hc).elim (hcs c) (hbefore c)

/-- Otherwise nothing is asked of the linker. -/
theorem Announces.offers {handle : Handle} {symbols : List Symbol} {cs : List (Call W)}
    (h : Announces handle symbols cs) : ∀ c ∈ cs, c.effect.IsOffer := by
  obtain ⟨before, added, after, rfl, hadded, -, hbefore, hafter⟩ := h
  intro c hc
  obtain hc | rfl | hc : c ∈ before ∨ c = added ∨ c ∈ after := by simpa using hc
  · exact .inl (hbefore c hc)
  · exact .inr ⟨handle, symbols, hadded⟩
  · exact .inl (hafter c hc)

theorem yields_tell (span : Span) (notice : Notice) :
    (tell span notice).Yields s fun r cs s' =>
      r = .ok () ∧ (∀ c ∈ cs, c.effect.IsOwn) ∧ s'.session = s.session :=
  ⟨[⟨.report ⟨notice, some span⟩, s.world.world⟩], .single _ _, rfl, fun _ hc => by
    rw [List.mem_singleton.1 hc]; rfl, rfl⟩

theorem yields_tell_each (span : Span) (notice : Symbol → Notice) (symbols : List Symbol) :
    (Act.forEach (fun symbol => tell span (notice symbol)) symbols).Yields s fun r cs s' =>
      r = .ok () ∧ (∀ c ∈ cs, c.effect.IsOwn) ∧ s'.session = s.session := by
  induction symbols generalizing s with
  | nil => exact .pure ⟨rfl, by simp, rfl⟩
  | cons symbol symbols ih =>
      refine (yields_tell span (notice symbol)).bind ?_ ?_
      · rintro _ cs s' ⟨-, hcs, hs'⟩
        refine ih.mono ?_
        rintro r cs' s'' ⟨hr, hcs', hs''⟩
        exact ⟨hr, fun c hc => (List.mem_append.1 hc).elim (hcs c) (hcs' c), hs''.trans hs'⟩
      · rintro _ _ _ ⟨⟨⟩, _⟩

/-- The symbols are announced, and the file is claimed if the linker accepts them. -/
theorem yields_claim (span : Span) (input : InputFile) (path : Path) (table : SymbolTable) :
    (claim span input path table).Yields s fun r cs s' =>
      (r = .ok () ∧ Announces input.handle table.symbols cs ∧ s'.session = { s.session with
        registry := s.session.registry.push ⟨path, input.handle, input.isMember, some table⟩ }) ∨
      (r.isOk = false ∧ (∀ c ∈ cs, c.effect.IsOffer) ∧ s'.session = s.session) := by
  refine (yields_tell_each span .offeredSymbol table.symbols).bind ?_ ?_
  · rintro _ cs s' ⟨-, hcs, hs'⟩
    let added : Call W := ⟨.addSymbols input.handle table.symbols, s'.world.world⟩
    have hadd : (outside (Platform.addSymbols input.handle table.symbols)).Yields s'
        fun r cs' s'' => (cs' = [added] ∧ added.succeeded = r.isOk) ∧ s''.session = s'.session :=
      yields_outside (Q := fun r cs' _ => cs' = [added] ∧ added.succeeded = r.isOk)
        ⟨[added], .single _ _, rfl, rfl⟩
    refine hadd.attempt_bind ?_
    rintro result _ s'' ⟨⟨rfl, hadded⟩, hs''⟩
    cases result with
    | error failure =>
        have hoffers : ∀ cs'' : List (Call W), (∀ c ∈ cs'', c.effect.IsOwn) →
            ∀ c ∈ cs ++ ([added] ++ cs''), c.effect.IsOffer := by
          intro cs'' hcs'' c hc
          simp only [List.mem_append, List.mem_singleton] at hc
          obtain hc | rfl | hc := hc
          · exact .inl (hcs c hc)
          · exact .inr ⟨_, _, rfl⟩
          · exact .inl (hcs'' c hc)
        refine (harmless_discard input path _).bind ?_ ?_
        · rintro _ cs'' s₃ ⟨hcs'', hs₃⟩
          refine Act.yields_within_iff.2 (.ofResult (.inr ⟨rfl, ?_, by rw [hs₃, hs'', hs']⟩))
          rw [List.append_nil]
          exact hoffers cs'' hcs''
        · rintro failure' cs'' s₃ ⟨hcs'', hs₃⟩
          exact .inr ⟨rfl, hoffers cs'' hcs'', by rw [hs₃, hs'', hs']⟩
    | ok _ =>
        refine (yields_tell span _).bind ?_ ?_
        · rintro _ cs'' s₃ ⟨-, hcs'', hs₃⟩
          refine (yields_update _).mono ?_
          rintro _ _ _ ⟨rfl, rfl, rfl⟩
          refine .inl ⟨rfl, ?_, by rw [hs₃, hs'', hs']⟩
          exact ⟨cs, added, cs'', by simp, rfl, hadded, hcs, hcs''⟩
        · rintro _ _ _ ⟨⟨⟩, _⟩
  · rintro _ _ _ ⟨⟨⟩, _⟩

/-! ### The two outcomes -/

/-- **An offered file is claimed**: its symbols are read and announced, and it becomes the last
file of the registry. -/
structure Accepts (session : Session) (input : InputFile) (table : SymbolTable)
    (cs : List (Call W)) (session' : Session) : Prop where
  found : ∃ file stored, Source input (keptPath session input) cs file ∧ Found cs file stored table
  announces : Announces input.handle table.symbols cs
  session_eq : session' =
    { session with
      registry := session.registry.push
        ⟨keptPath session input, input.handle, input.isMember, some table⟩
      copied := session'.copied }

/-- **An offered file is not claimed**, although the linker may have been asked to take it. -/
structure Declines (session : Session) (cs : List (Call W)) (session' : Session) : Prop where
  offers : ∀ c ∈ cs, c.effect.IsOffer
  session_eq : session' = { session with copied := session'.copied }

omit [Platform W] in
/-- Without calls to the linker, nothing is claimed. -/
theorem Declines.of_own {session session' : Session} {cs : List (Call W)}
    (hcs : ∀ c ∈ cs, c.effect.IsOwn)
    (hs : session' = { session with copied := session'.copied }) : Declines session cs session' :=
  ⟨fun c hc => .inl (hcs c hc), hs⟩

/-- **An offered file is claimed, or nothing happens to the registry.** -/
theorem yields_claimFile (input : InputFile) :
    (claimFile input).Yields s fun r cs s' =>
      (r = .ok true ∧ ∃ table, Accepts s.session input table cs s'.session) ∨
      (r ≠ .ok true ∧ Declines s.session cs s'.session) := by
  cases hdirectory : s.session.temporaryDirectory with
  | none =>
      exact yields_directory_bind_of_none hdirectory (.inr ⟨nofun, .of_own (by simp) rfl⟩)
  | some directory =>
      refine (yields_directory_bind_iff hdirectory).2 ((yields_load _ input).bind ?_ ?_)
      · rintro ⟨path, loaded⟩ cs s' ⟨hcs, hs', hloaded⟩
        obtain ⟨rfl, hread⟩ := hloaded path loaded rfl
        have hown : ∀ {cs' : List (Call W)}, (∀ c ∈ cs', c.effect.IsOwn) →
            ∀ c ∈ cs ++ cs', c.effect.IsOwn :=
          fun hcs' c hc => (List.mem_append.1 hc).elim (hcs c) (hcs' c)
        match loaded with
        | .ok (some table) =>
            obtain ⟨file, stored, hsource, hstored⟩ := hread.2 table rfl
            refine (yields_claim _ input _ table).bind ?_ ?_
            · rintro _ cs' s'' (⟨-, hannounces, hs''⟩ | ⟨⟨⟩, _⟩)
              have hsub : cs ⊆ cs ++ (cs' ++ []) := by simp
              refine .pure (.inl ⟨rfl, table,
                ⟨file, stored, hsource.mono hsub, hstored.mono hsub⟩, ?_, ?_⟩)
              · rw [List.append_nil]
                exact hannounces.prepend hcs
              · rw [hs'', hs']
            · rintro failure cs' s'' (⟨⟨⟩, _⟩ | ⟨-, hcs', hs''⟩)
              refine .inr ⟨nofun, fun c hc => ?_, by rw [hs'', hs']⟩
              exact (List.mem_append.1 hc).elim (fun hc => .inl (hcs c hc)) (hcs' c)
        | .ok none =>
            refine (harmless_discard input _ _).bind ?_ ?_
            · rintro _ cs' s'' ⟨hcs', hs''⟩
              refine (yields_tell _ _).bind ?_ ?_
              · rintro _ cs'' s₃ ⟨-, hcs'', hs₃⟩
                refine .pure (.inr ⟨nofun, .of_own (hown ?_) (by rw [hs₃, hs'', hs'])⟩)
                simpa [or_imp, forall_and] using ⟨hcs', hcs''⟩
              · rintro _ _ _ ⟨⟨⟩, _⟩
            · rintro failure cs' s'' ⟨hcs', hs''⟩
              exact .inr ⟨nofun, .of_own (hown hcs') (by rw [hs'', hs'])⟩
        | .error failure =>
            refine (harmless_discard input _ _).bind ?_ ?_
            · rintro _ cs' s'' ⟨hcs', hs''⟩
              refine .ofResult (.inr ⟨nofun, .of_own (hown ?_) (by rw [hs'', hs'])⟩)
              simpa using hcs'
            · rintro failure cs' s'' ⟨hcs', hs''⟩
              exact .inr ⟨nofun, .of_own (hown hcs') (by rw [hs'', hs'])⟩
      · rintro failure cs s' ⟨hcs, hs', -⟩
        exact .inr ⟨nofun, .of_own hcs hs'⟩

/-- **Of a file that is declined the linker hears nothing.** -/
theorem yields_claimFile_declined (input : InputFile) :
    (claimFile input).Yields s fun r cs _ => r = .ok false → ∀ c ∈ cs, c.effect.IsOwn := by
  cases hdirectory : s.session.temporaryDirectory with
  | none => exact yields_directory_bind_of_none hdirectory nofun
  | some directory =>
      refine (yields_directory_bind_iff hdirectory).2 ((yields_load _ input).bind ?_ ?_)
      · rintro ⟨path, loaded⟩ cs s' ⟨hcs, -, -⟩
        match loaded with
        | .ok (some table) =>
            refine (yields_claim _ input path table).bind ?_ ?_
            · exact fun _ _ _ _ => .pure nofun
            · exact fun _ _ _ _ => nofun
        | .ok none =>
            refine (harmless_discard input path _).bind ?_ fun _ _ _ _ => nofun
            rintro _ cs' s'' ⟨hcs', -⟩
            refine (yields_tell _ _).bind ?_ fun _ _ _ _ => nofun
            rintro _ cs'' s₃ ⟨-, hcs'', -⟩
            refine .pure fun _ => ?_
            simpa [or_imp, forall_and] using ⟨hcs, hcs', hcs''⟩
        | .error failure =>
            refine (harmless_discard input path _).bind ?_ ?_
            · exact fun _ _ _ _ => .ofResult nofun
            · exact fun _ _ _ _ => nofun
      · exact fun _ _ _ _ => nofun

end Session

end LtoBridge
