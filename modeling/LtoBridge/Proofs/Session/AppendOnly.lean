/-
**The registry only grows.**

A file that has been claimed stays in the registry, at the same position and with the same name and
handle, until the session is reset.  Its symbols are those that were read when it was claimed, with
resolutions entered in the meantime, or they have been released, and then they do not come back.

Main definitions:

* `LtoBridge.ClaimedFile.Becomes`, `LtoBridge.Registry.Continues`: what may become of a claimed
  file, and of a registry;
* `LtoBridge.Session.Evolves`: what an operation does to the registry;
* `LtoBridge.Session.Registered`: a claimed file with the offer that it comes from;
* `LtoBridge.Session.NeverReset`: runs in which no cleanup resets the session.

Main results:

* `LtoBridge.Session.stopped_of_not_released`: what a cleanup does that does not reset the session;
* `LtoBridge.Session.evolves_after`: **an operation claims one file, or no file comes or goes**;
* `LtoBridge.Session.registry_is_append_only`: what two moments of a run have in common;
* `LtoBridge.Session.registry_cleared_by_failed_cleanup`: a cleanup that fails may still reset the
  session.
-/

import LtoBridge.Proofs.Session.Endings

set_option autoImplicit false

namespace LtoBridge

/-! ### What may become of a registry -/

/-- **What may become of a claimed file**: its symbols may get resolutions, or be released. -/
structure ClaimedFile.Becomes (f f' : ClaimedFile) : Prop where
  identity : f'.identity = f.identity
  symbols : ∀ t', f'.symbols = some t' →
    ∃ t, f.symbols = some t ∧ t'.slots = t.slots ∧ t'.identities = t.identities

theorem ClaimedFile.Becomes.refl (f : ClaimedFile) : f.Becomes f :=
  ⟨rfl, fun t ht => ⟨t, ht, rfl, rfl⟩⟩

theorem ClaimedFile.Becomes.trans {f f' f'' : ClaimedFile} (h : f.Becomes f')
    (h' : f'.Becomes f'') : f.Becomes f'' := by
  refine ⟨h'.identity.trans h.identity, fun t'' ht'' => ?_⟩
  obtain ⟨t', ht', hslots', hsame'⟩ := h'.symbols t'' ht''
  obtain ⟨t, ht, hslots, hsame⟩ := h.symbols t' ht'
  exact ⟨t, ht, hslots'.trans hslots, hsame'.trans hsame⟩

theorem ClaimedFile.becomes_assign (f : ClaimedFile) (a : List (Option Resolution)) :
    f.Becomes (f.assign a) := by
  refine ⟨f.identity_assign a, fun t' ht' => ?_⟩
  obtain ⟨t, ht, rfl⟩ := Option.map_eq_some_iff.1 ht'
  exact ⟨t, ht, t.slots_assign a, t.identities_assign a⟩

theorem ClaimedFile.becomes_release (f : ClaimedFile) : f.Becomes f.release :=
  ⟨f.identity_release, nofun⟩

/-- Answers are entered, and nothing else becomes of the files. -/
theorem becomes_enterAll (fs : List ClaimedFile) (as : List (List (Option Resolution))) :
    List.Forall₂ ClaimedFile.Becomes fs (enterAll fs as) := by
  induction fs generalizing as with
  | nil => exact .nil
  | cons f fs ih =>
      cases as with
      | nil =>
          rw [enterAll_nil, List.forall₂_same]
          exact fun g _ => .refl g
      | cons a as =>
          cases h : f.symbols with
          | none => exact enterAll_cons_of_none h fs (a :: as) ▸ .cons (.refl f) (ih (a :: as))
          | some t => exact enterAll_cons_of_some h fs a as ▸ .cons (f.becomes_assign a) (ih as)

namespace Registry

/-- Every file of a registry is still there, at the same position. -/
def Continues (r r' : Registry) : Prop :=
  ∀ (k : Nat) (f : ClaimedFile), r.files[k]? = some f →
    ∃ f', r'.files[k]? = some f' ∧ f.Becomes f'

variable {r r' r'' : Registry}

theorem Continues.refl (r : Registry) : r.Continues r := fun _ f hf => ⟨f, hf, .refl f⟩

theorem Continues.trans (h : r.Continues r') (h' : r'.Continues r'') : r.Continues r'' := by
  intro k f hf
  obtain ⟨f', hf', hbecomes⟩ := h k f hf
  obtain ⟨f'', hf'', hbecomes'⟩ := h' k f' hf'
  exact ⟨f'', hf'', hbecomes.trans hbecomes'⟩

theorem continues_push (r : Registry) (f : ClaimedFile) : r.Continues (r.push f) := by
  intro k g hg
  have hk : k < r.files.length := (List.getElem?_eq_some_iff.1 hg).1
  refine ⟨g, ?_, .refl g⟩
  rw [push, List.getElem?_append_left hk]
  exact hg

/-- **What was claimed first is still the beginning of the registry.** -/
theorem Continues.identities_prefix (h : r.Continues r') : r.identities <+: r'.identities := by
  rw [List.prefix_iff_getElem?]
  intro k hk
  have hk' : k < r.files.length := by simpa [identities] using hk
  obtain ⟨f', hf', hbecomes⟩ := h k _ (List.getElem?_eq_getElem hk')
  simp [identities, hf', hbecomes.identity]

/-- Symbols that are there were there before, and only resolutions may be new. -/
theorem Continues.symbols (h : r.Continues r') {k : Nat} {f f' : ClaimedFile} {t' : SymbolTable}
    (hf : r.files[k]? = some f) (hf' : r'.files[k]? = some f') (ht' : f'.symbols = some t') :
    ∃ t, f.symbols = some t ∧ t'.slots = t.slots ∧ t'.identities = t.identities := by
  obtain ⟨g, hg, hbecomes⟩ := h k f hf
  obtain rfl : f' = g := Option.some.inj (hf'.symm.trans hg)
  exact hbecomes.symbols t' ht'

end Registry

/-- Both ways through lists whose elements belong together. -/
theorem exists_of_forall₂_getElem? {fs fs' : List ClaimedFile}
    (h : List.Forall₂ ClaimedFile.Becomes fs fs') (k : Nat) :
    (∀ f, fs[k]? = some f → ∃ f', fs'[k]? = some f' ∧ f.Becomes f') ∧
      ∀ f', fs'[k]? = some f' → ∃ f, fs[k]? = some f ∧ f.Becomes f' := by
  induction h generalizing k with
  | nil => simp
  | cons hhead _ ih =>
      cases k with
      | zero => simpa using hhead
      | succ k => simpa using ih k

namespace Session

variable {W : Type} [Platform W]

/-! ### What an operation does to the registry -/

/-- The operation offers a file that is claimed. -/
def Operation.IsClaim (op : Operation) (s : Live (Traced W)) : Prop :=
  ∃ input, op = .offer input ∧ (claimFile input s).1 = .ok true

/-- **What an operation does to the registry**, unless it resets the session. -/
inductive Evolves (op : Operation) (s s' : Live (Traced W)) : Prop
  /-- One more file has been claimed. -/
  | claimed (input : InputFile) (table : SymbolTable) (hop : op = .offer input)
      (hr : (claimFile input s).1 = .ok true)
      (haccepts : Accepts s.session input table (op.calls s) s'.session)
  /-- No file has come or gone. -/
  | kept (hnot : ¬ op.IsClaim s)
      (hfiles : List.Forall₂ ClaimedFile.Becomes s.session.registry.files s'.session.registry.files)

theorem Evolves.of_registry_eq {op : Operation} {s s' : Live (Traced W)} (hnot : ¬ op.IsClaim s)
    (h : s'.session.registry = s.session.registry) : Evolves op s s' := by
  refine .kept hnot ?_
  rw [h, List.forall₂_same]
  exact fun f _ => .refl f

theorem evolves_offer (input : InputFile) (s : Live (Traced W)) :
    Evolves (.offer input) s (Operation.after (.offer input) s) := by
  obtain ⟨cs, hext, ⟨hr, table, haccepts⟩ | ⟨hr, hdeclines⟩⟩ := yields_claimFile (s := s) input
  · obtain rfl := Operation.calls_eq (.offer input) hext
    exact .claimed input table rfl hr haccepts
  · have hnot : ¬ Operation.IsClaim (.offer input) s := by
      rintro ⟨_, ⟨⟩, hclaimed⟩
      exact hr hclaimed
    have hregistry : (claimFile input s).2.session.registry = s.session.registry := by
      rw [hdeclines.session_eq]
    exact .of_registry_eq hnot hregistry

theorem evolves_allSymbolsRead (s : Live (Traced W)) :
    Evolves .allSymbolsRead s (Operation.after .allSymbolsRead s) := by
  have hnot : ¬ Operation.IsClaim .allSymbolsRead s := by rintro ⟨_, ⟨⟩, -⟩
  by_cases hfiles : s.session.registry.files = []
  · obtain ⟨cs, -, -, -, hsession⟩ := yields_allSymbolsRead_of_empty hfiles
    exact .of_registry_eq hnot (congrArg Session.registry hsession)
  · obtain ⟨cs, -, -, _, outputs, passThrough, rfl, hsession⟩ := yields_allSymbolsRead hfiles
    refine .kept hnot ?_
    have hentered := becomes_enterAll s.session.registry.files (answers cs)
    have hregistry : (Operation.after .allSymbolsRead s).session.registry = _ :=
      congrArg Session.registry hsession
    rw [hregistry]
    split
    · -- what has been answered is released
      refine List.forall₂_map_right_iff.2 (hentered.imp fun f f' h => ?_)
      exact h.trans f'.becomes_release
    · exact hentered

theorem evolves_release (s : Live (Traced W)) :
    Evolves .release s (Operation.after .release s) := by
  have hnot : ¬ Operation.IsClaim .release s := by rintro ⟨_, ⟨⟩, -⟩
  obtain ⟨-, -, -, -, hsession⟩ := yields_releaseSymbols (s := s)
  refine .kept hnot ?_
  have hregistry : (Operation.after .release s).session.registry = s.session.registry.release :=
    congrArg Session.registry hsession
  rw [hregistry]
  exact List.forall₂_map_right_iff.2 (List.forall₂_same.2 fun f _ => f.becomes_release)

/-- **A cleanup of a session that is not over resets it, unless there is a copy that it cannot
delete.** -/
theorem stopped_of_not_released {s : Live (Traced W)} {path : Path}
    (hdirectory : s.session.temporaryDirectory = some path)
    (hreset : released (Operation.calls .cleanup s) = false) :
    (cleanup s).1.isOk = false ∧
      (cleanup s).2.session = { s.session with temporaryDirectory := none } ∧
      ∃ file ∈ s.session.temporaryPaths, ∃ c ∈ Operation.calls .cleanup s,
        c.effect = .removeFile file ∧ c.succeeded = false := by
  obtain ⟨cs, hext, hteardown⟩ := yields_cleanup_teardown hdirectory
  obtain rfl := Operation.calls_eq .cleanup hext
  refine hteardown.finished.resolve_left fun hfinished => ?_
  -- the linker would have got the release
  have hmem : Effect.releaseSymbols ∈ [Effect.releaseSymbols] := List.mem_singleton_self _
  rw [← hfinished.linker] at hmem
  obtain ⟨c, hc, hrelease⟩ := List.mem_map.1 hmem
  exact released_eq_false_iff.1 hreset c (List.mem_filter.1 hc).1 hrelease

/-- A cleanup that does not get to the release of the symbols leaves the registry as it is. -/
theorem evolves_cleanup (s : Live (Traced W))
    (hreset : released (Operation.calls .cleanup s) = false) :
    Evolves .cleanup s (Operation.after .cleanup s) := by
  have hnot : ¬ Operation.IsClaim .cleanup s := by rintro ⟨_, ⟨⟩, -⟩
  cases hdirectory : s.session.temporaryDirectory with
  | none =>
      have hinert := inert_cleanup hdirectory
      exact .of_registry_eq hnot (congrArg Session.registry hinert.session)
  | some path =>
      obtain ⟨-, hs', -⟩ := stopped_of_not_released hdirectory hreset
      have hregistry : (cleanup s).2.session.registry = s.session.registry := by rw [hs']
      exact .of_registry_eq hnot hregistry

/-- **An operation claims one file, or no file comes or goes.** -/
theorem evolves_after (op : Operation) (s : Live (Traced W))
    (hreset : op = .cleanup → released (op.calls s) = false) : Evolves op s (op.after s) :=
  match op with
  | .offer input => evolves_offer input s
  | .allSymbolsRead => evolves_allSymbolsRead s
  | .release => evolves_release s
  | .cleanup => evolves_cleanup s (hreset rfl)

section

variable {op : Operation} {s s' : Live (Traced W)}

theorem Evolves.continues (h : Evolves op s s') :
    s.session.registry.Continues s'.session.registry := by
  cases h with
  | claimed input table _ _ haccepts =>
      rw [haccepts.session_eq]
      exact Registry.continues_push _ _
  | kept _ hfiles => exact fun k => (exists_of_forall₂_getElem? hfiles k).1

/-- The registry grows by one file when a file is claimed. -/
theorem Evolves.size (h : Evolves op s s') :
    (op.IsClaim s → s'.session.registry.size = s.session.registry.size + 1) ∧
      (¬ op.IsClaim s → s'.session.registry.size = s.session.registry.size) := by
  cases h with
  | claimed input table hop hr haccepts =>
      refine ⟨fun _ => ?_, fun hnot => absurd ⟨input, hop, hr⟩ hnot⟩
      rw [haccepts.session_eq]
      exact List.length_append
  | kept hnot hfiles => exact ⟨fun hclaim => absurd hclaim hnot, fun _ => hfiles.length_eq.symm⟩

end

/-! ### Runs -/

/-- **No cleanup of the run resets the session**: none of them deletes all the copies and gets to
the release of the symbols. -/
def NeverReset (s₀ : Live (Traced W)) (ops : List Operation) : Prop :=
  ∀ before after, ops = before ++ .cleanup :: after →
    released (Operation.cleanup.calls (run s₀ before)) = false

/-- **The file at position `k` of the registry was claimed in the run**, and the given symbols were
read then. -/
def Registered (s₀ : Live (Traced W)) (ops : List Operation) (k : Nat) (file : ClaimedFile)
    (decoded : SymbolTable) : Prop :=
  ∃ before input after, ops = before ++ .offer input :: after ∧
    let s := run s₀ before
    (claimFile input s).1 = .ok true ∧ s.session.registry.size = k ∧
    file.identity = (keptPath s.session input, input.handle, input.isMember) ∧
    let cs := (Operation.offer input).calls s
    ∃ source stored, Source input (keptPath s.session input) cs source ∧
      Found cs source stored decoded

variable {s₀ : Live (Traced W)} {ops : List Operation}

theorem NeverReset.of_append {later : List Operation} (h : NeverReset s₀ (ops ++ later)) :
    NeverReset s₀ ops := by
  rintro before after rfl
  exact h before (after ++ later) (by simp)

/-- The operations of such a run claim one file each, or no file comes or goes. -/
theorem NeverReset.evolves {before after : List Operation} {op : Operation}
    (h : NeverReset s₀ (before ++ op :: after)) :
    Evolves op (run s₀ before) (run s₀ (before ++ [op])) := by
  rw [run_concat]
  refine evolves_after op _ ?_
  rintro rfl
  exact h before after rfl

/-- **Nothing is lost in a run.** -/
theorem NeverReset.continues {later : List Operation} (h : NeverReset s₀ (ops ++ later)) :
    (run s₀ ops).session.registry.Continues (run s₀ (ops ++ later)).session.registry := by
  induction later using List.reverseRecOn with
  | nil =>
      rw [List.append_nil]
      exact .refl _
  | append_singleton later op ih =>
      rw [← List.append_assoc] at h ⊢
      exact (ih h.of_append).trans h.evolves.continues

theorem Registered.concat {k : Nat} {file : ClaimedFile} {decoded : SymbolTable}
    (h : Registered s₀ ops k file decoded) (op : Operation) {file' : ClaimedFile}
    (hfile : file'.identity = file.identity) : Registered s₀ (ops ++ [op]) k file' decoded := by
  obtain ⟨before, input, after, rfl, hr, hsize, hidentity, hfound⟩ := h
  exact ⟨before, input, after ++ [op], by simp, hr, hsize, hfile.trans hidentity, hfound⟩

/-- **The symbols of every file are those that were read when it was claimed**, with resolutions
entered in the meantime. -/
theorem NeverReset.registered (h : NeverReset s₀ ops) (hfiles : s₀.session.registry.files = []) :
    ∀ (k : Nat) (file : ClaimedFile) (table : SymbolTable),
      (run s₀ ops).session.registry.files[k]? = some file → file.symbols = some table →
      ∃ decoded, Registered s₀ ops k file decoded ∧ table.slots = decoded.slots ∧
        table.identities = decoded.identities := by
  induction ops using List.reverseRecOn with
  | nil =>
      intro k file table hfile
      rw [run, List.foldl_nil, hfiles] at hfile
      cases hfile
  | append_singleton ops op ih =>
      intro k file table hfile htable
      -- a file that was there before was registered then
      have hold : ∀ file₀, (run s₀ ops).session.registry.files[k]? = some file₀ →
          file₀.Becomes file → ∃ decoded, Registered s₀ (ops ++ [op]) k file decoded ∧
            table.slots = decoded.slots ∧ table.identities = decoded.identities := by
        intro file₀ hfile₀ hbecomes
        obtain ⟨table₀, htable₀, hslots, hsame⟩ := hbecomes.symbols table htable
        obtain ⟨decoded, hregistered, hslots', hsame'⟩ :=
          ih h.of_append k file₀ table₀ hfile₀ htable₀
        exact ⟨decoded, hregistered.concat op hbecomes.identity, hslots.trans hslots',
          hsame.trans hsame'⟩
      cases h.evolves with
      | kept _ hfiles' =>
          obtain ⟨file₀, hfile₀, hbecomes⟩ := (exists_of_forall₂_getElem? hfiles' k).2 file hfile
          exact hold file₀ hfile₀ hbecomes
      | claimed input decoded hop hr haccepts =>
          rw [haccepts.session_eq] at hfile
          simp only [Registry.push] at hfile
          obtain hlt | hge := Nat.lt_or_ge k (run s₀ ops).session.registry.files.length
          · rw [List.getElem?_append_left hlt] at hfile
            exact hold file hfile (.refl file)
          · rw [List.getElem?_append_right hge, List.getElem?_singleton] at hfile
            split at hfile
            · rename_i hk
              obtain rfl := Option.some.inj hfile
              obtain rfl : decoded = table := Option.some.inj htable
              have hsize : (run s₀ ops).session.registry.size = k := by
                unfold Registry.size
                omega
              subst hop
              obtain ⟨source, stored, hsource, hfound⟩ := haccepts.found
              have hregistered : Registered s₀ (ops ++ [.offer input]) k
                  ⟨keptPath (run s₀ ops).session input, input.handle, input.isMember, some decoded⟩
                  decoded :=
                ⟨ops, input, [], rfl, hr, hsize, rfl, source, stored, hsource, hfound⟩
              exact ⟨decoded, hregistered, rfl, rfl⟩
            · cases hfile

/-- **The registry is append-only** until the session is reset.  Of any two moments of a run, the
files of the earlier one are the first files of the later one, with the same names, handles and
flags; symbols that are there at the later moment were there at the earlier one, with the same slots
and the same identities.  At every moment, symbols that are there are those that were read when the
file was claimed, up to their resolutions.  The registry grows by one file when an offer is claimed,
and does not change its size otherwise. -/
theorem registry_is_append_only (options : Options) (directory : Path) (w : W)
    (earlier later : List Operation)
    (hreset : NeverReset (begun options directory w) (earlier ++ later)) :
    let s₀ := begun options directory w
    let r := (run s₀ earlier).session.registry
    let r' := (run s₀ (earlier ++ later)).session.registry
    r.identities <+: r'.identities ∧
    (∀ (k : Nat) (file file' : ClaimedFile) (table' : SymbolTable), r.files[k]? = some file →
      r'.files[k]? = some file' → file'.symbols = some table' →
      ∃ table, file.symbols = some table ∧ table'.slots = table.slots ∧
        table'.identities = table.identities) ∧
    (∀ (k : Nat) (file : ClaimedFile) (table : SymbolTable), r.files[k]? = some file →
      file.symbols = some table →
      table.symbols.length = table.slots.length ∧ ∃ decoded, Registered s₀ earlier k file decoded ∧
        table.slots = decoded.slots ∧ table.identities = decoded.identities) ∧
    ∀ before op after, earlier ++ later = before ++ op :: after →
      let size := (run s₀ before).session.registry.size
      let size' := (run s₀ (before ++ [op])).session.registry.size
      (op.IsClaim (run s₀ before) → size' = size + 1) ∧
        (¬ op.IsClaim (run s₀ before) → size' = size) := by
  have hcontinues := hreset.continues
  refine ⟨hcontinues.identities_prefix, ?_, ?_, ?_⟩
  · intro k file file' table' hfile hfile' htable'
    exact hcontinues.symbols hfile hfile' htable'
  · intro k file table hfile htable
    refine ⟨by rw [table.length_symbols, table.length_slots], ?_⟩
    exact hreset.of_append.registered rfl k file table hfile htable
  · intro before op after hsplit
    rw [hsplit] at hreset
    exact hreset.evolves.size

theorem registry_is_append_only_sample :
    NeverReset (begun sampleOptions [47] sampleMachine)
        ([.offer sampleInput] ++ [.allSymbolsRead]) ∧
      [([97], 5, false)] <+: (run (begun sampleOptions [47] sampleMachine)
        ([.offer sampleInput] ++ [.allSymbolsRead])).session.registry.identities ∧
      (run (begun sampleOptions [47] sampleMachine)
        ([.offer sampleInput] ++ [.allSymbolsRead])).session.registry.size = 1 := by
  have hreset : NeverReset (begun sampleOptions [47] sampleMachine)
      ([.offer sampleInput] ++ [.allSymbolsRead]) := by
    intro before after hsplit
    have hmem : Operation.cleanup ∈ before ++ .cleanup :: after := by simp
    rw [← hsplit] at hmem
    simp at hmem
  obtain ⟨hfirst, -, -, hsize⟩ := registry_is_append_only sampleOptions [47] sampleMachine
    [.offer sampleInput] [.allSymbolsRead] hreset
  have hclaimed : (run (begun sampleOptions [47] sampleMachine)
      [.offer sampleInput]).session.registry.identities = [([97], 5, false)] := by
    decide +kernel
  have hone : (run (begun sampleOptions [47] sampleMachine)
      [.offer sampleInput]).session.registry.size = 1 := by
    decide +kernel
  have hsame := (hsize [.offer sampleInput] .allSymbolsRead [] rfl).2 (by rintro ⟨_, ⟨⟩, -⟩)
  refine ⟨hreset, ?_, ?_⟩
  · rw [← hclaimed]
    exact hfirst
  · rw [← hone]
    exact hsame

/-- **A cleanup may fail and still reset the session.**  The directory of the session is not there,
so that it cannot be removed; but this is found out when the claimed file has been forgotten. -/
theorem registry_cleared_by_failed_cleanup :
    let s₀ := begun bypassOptions [47, 117] sampleMachine
    let ops := [.offer sampleInput]
    (cleanup (run s₀ ops)).1.isOk = false ∧
      ¬ (run s₀ ops).session.registry.identities <+:
        (run s₀ (ops ++ [.cleanup])).session.registry.identities := by
  decide +kernel

end Session

end LtoBridge
