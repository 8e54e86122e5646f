/-
**Three records of one decision.**

Whether an offered file was claimed is recorded three times: in the place for the decision, by the
linker, which has its symbols or not, and in the registry of the session.  The three always agree,
also when something fails.

Main definitions:

* `LtoBridge.Plugin.entryOf`: what the registry says of a claimed file.

Main results:

* `LtoBridge.Plugin.offer_cases`: **a file is claimed everywhere or nowhere**;
* `LtoBridge.Plugin.claim_decisions_agree`: the three records after any run.
-/

import LtoBridge.Proofs.Plugin.Hooks
import LtoBridge.Proofs.Session.Refusals

set_option autoImplicit false

namespace LtoBridge.Plugin

open TransferVector (lastFunction?)

variable {R : Type} [RawLinker R]

/-! ### Offers -/

/-- What the registry says of a claimed file. -/
def entryOf (session : Session) (input : InputFile) (table : SymbolTable) : ClaimedFile :=
  ⟨Session.keptPath session input, input.handle, input.isMember, some table⟩

/-- The call that announces the symbols of a file, and is answered with a status. -/
def announcement (input : InputFile) (table : SymbolTable) (status : Int) : Answer :=
  ⟨.addSymbols input.handle (table.symbols.map Symbol.raw), some status⟩

theorem flatMap_heard_of_own {cs : List (Call (Machine (BoundLinker (Watched R))))}
    (h : ∀ c ∈ cs, c.effect.IsOwn) : cs.flatMap Call.heard = [] :=
  List.flatMap_eq_nil_iff.2 fun c hc => Call.heard_of_own (h c hc)

/-- **What the linker hears of an announcement** is one call that it answers with success. -/
theorem heard_of_announces {handle : Handle} {symbols : List Symbol}
    {cs : List (Call (Machine (BoundLinker (Watched R))))}
    (h : Session.Announces handle symbols cs) : cs.flatMap Call.heard =
      [⟨.addSymbols handle (symbols.map Symbol.raw), some statusOk⟩] := by
  obtain ⟨before, added, after, rfl, hadded, hsucceeded, hbefore, hafter⟩ := h
  rw [List.flatMap_append, List.flatMap_cons, flatMap_heard_of_own hbefore,
    flatMap_heard_of_own hafter, Call.heard_of_announced hadded hsucceeded]
  rfl

/-- **What the linker hears of a refused offer** is nothing that it answers with success. -/
theorem heard_of_refused {cs : List (Call (Machine (BoundLinker (Watched R))))}
    (h : Session.Refused cs) : ∀ a ∈ cs.flatMap Call.heard, a.status ≠ some statusOk := by
  intro a ha
  obtain ⟨c, hc, hac⟩ := List.mem_flatMap.1 ha
  rcases h c hc with hown | ⟨⟨handle, symbols, hadded⟩, hfailed⟩
  · rw [Call.heard_of_own hown] at hac
    cases hac
  · exact Call.heard_of_refused hadded hfailed a hac

/-- **A file is claimed everywhere or nowhere**: it is entered in the registry if and only if the
linker accepted its symbols. -/
theorem offer_cases (record : Option InputRecord) (session : Session)
    (m : Machine (BoundLinker (Watched R))) : ∃ r live heard,
      offer record ⟨session, m⟩ = (r, live) ∧
      BoundLinker.Hears m.linker heard live.world.linker ∧
      ((r = .ok true ∧ ∃ input table, inputFile record = .ok input ∧
          heard = [announcement input table statusOk] ∧
          live.session.registry = session.registry.push (entryOf session input table)) ∨
        (r ≠ .ok true ∧ (∀ a ∈ heard, a.status ≠ some statusOk) ∧
          live.session.registry = session.registry)) := by
  rw [offer_eq]
  cases hinput : inputFile record with
  | error failure =>
      exact ⟨.error failure, ⟨session, m⟩, [], rfl, .nothing rfl rfl, .inr ⟨nofun, by simp, rfl⟩⟩
  | ok input =>
      obtain ⟨r, session', t, cs, hclaim, hext, hdecided, hrefused⟩ :=
        Session.exists_calls (Session.projects_claimFile Traced.respects_world input)
          ((Session.yields_claimFile (s := ⟨session, { world := m }⟩) input).and
            (Session.yields_claimFile_refused input))
      refine ⟨r, ⟨session', t.world⟩, cs.flatMap Call.heard, hclaim, hext.hears, ?_⟩
      rcases hdecided with ⟨rfl, table, haccepts⟩ | ⟨hr, hdeclines⟩
      · refine .inl ⟨rfl, input, table, rfl, heard_of_announces haccepts.announces, ?_⟩
        have hentered := congrArg Session.registry haccepts.session_eq
        exact hentered
      · refine .inr ⟨hr, heard_of_refused (hrefused.resolve_left hr), ?_⟩
        have hsame := congrArg Session.registry hdeclines.session_eq
        exact hsame

/-- A file that does not exist, or of a negative size or at a negative offset, cannot be offered. -/
theorem inputFile_of_impossible {record : Option InputRecord}
    (h : ∀ r, record = some r → r.offset < 0 ∨ r.size < 0) :
    ∃ failure, inputFile record = .error failure := by
  cases record with
  | none => exact ⟨_, rfl⟩
  | some r =>
      rw [inputFile]
      by_cases hfile : r.file = noDescriptor
      · exact ⟨_, if_pos hfile⟩
      · rw [if_neg hfile]
        by_cases hoffset : r.offset < 0
        · exact ⟨_, if_pos hoffset⟩
        · rw [if_neg hoffset]
          exact ⟨_, if_pos ((h r rfl).resolve_left hoffset)⟩

theorem push_ne_self (registry : Registry) (file : ClaimedFile) :
    registry.push file ≠ registry := by
  intro h
  have hlength := congrArg (fun registry => registry.files.length) h
  simp only [Registry.push, List.length_append, List.length_singleton] at hlength
  omega

/-! ### The three records -/

/-- **The three records of a decision agree**: what is in the place for the decision, what the
linker was asked and answered in the course of the call, and what the registry has become. -/
structure Agrees (session session' : Session) (record : Option InputRecord) (claimed : Int)
    (new : List Answer) : Prop where
  decided : claimed = 0 ∨ claimed = 1
  /-- The linker was asked to take symbols and did so. -/
  accepted : claimed = 1 ↔ ∃ handle records, ⟨.addSymbols handle records, some statusOk⟩ ∈ new
  /-- The registry has grown, by exactly this file. -/
  entered : claimed = 1 ↔ ∃ input table, inputFile record = .ok input ∧
    session'.registry = session.registry.push (entryOf session input table)
  unchanged : claimed = 0 → session'.registry = session.registry
  /-- The symbols that the linker took are those in the registry. -/
  announced : ∀ input table, inputFile record = .ok input →
    session'.registry = session.registry.push (entryOf session input table) →
      new = [announcement input table statusOk]

section

variable {session session' : Session} {record : Option InputRecord}

theorem agrees_of_claimed {input : InputFile} {table : SymbolTable}
    (hinput : inputFile record = .ok input)
    (hregistry : session'.registry = session.registry.push (entryOf session input table)) :
    Agrees session session' record 1 [announcement input table statusOk] where
  decided := .inr rfl
  accepted := ⟨fun _ => ⟨_, _, List.mem_cons_self⟩, fun _ => rfl⟩
  entered := ⟨fun _ => ⟨input, table, hinput, hregistry⟩, fun _ => rfl⟩
  unchanged := nofun
  announced input' table' hinput' hregistry' := by
    -- the entry holds the table, so that the registry tells what was announced
    obtain rfl := Except.ok.inj (hinput.symm.trans hinput')
    have hfiles := congrArg Registry.files (hregistry.symm.trans hregistry')
    have hentry := List.singleton_inj.1 (List.append_cancel_left hfiles)
    have hsymbols := congrArg ClaimedFile.symbols hentry
    obtain rfl := Option.some.inj hsymbols
    rfl

theorem agrees_of_unclaimed {new : List Answer} (hnew : ∀ a ∈ new, a.status ≠ some statusOk)
    (hregistry : session'.registry = session.registry) :
    Agrees session session' record 0 new where
  decided := .inl rfl
  accepted := by
    refine ⟨nofun, ?_⟩
    rintro ⟨handle, records, hmem⟩
    exact absurd rfl (hnew _ hmem)
  entered := by
    refine ⟨nofun, ?_⟩
    rintro ⟨input, table, -, hpush⟩
    exact absurd (hpush.symm.trans hregistry) (push_ne_self _ _)
  unchanged _ := hregistry
  announced input table _ hpush := absurd (hpush.symm.trans hregistry) (push_ne_self _ _)

end

/-- What is left in the place agrees with what was done. -/
theorem agrees_of_offer {record : Option InputRecord} {session session' : Session}
    {r : Except Failure Bool} {heard shown : List Answer} (hshown : ∀ a ∈ shown, a.status = none)
    (hquiet : r = .ok true → shown = [])
    (hcases : (r = .ok true ∧ ∃ input table, inputFile record = .ok input ∧
        heard = [announcement input table statusOk] ∧
        session'.registry = session.registry.push (entryOf session input table)) ∨
      (r ≠ .ok true ∧ (∀ a ∈ heard, a.status ≠ some statusOk) ∧
        session'.registry = session.registry)) :
    Agrees session session' record (if r.toOption = some true then 1 else 0) (heard ++ shown) := by
  rcases hcases with ⟨rfl, input, table, hinput, rfl, hregistry⟩ | ⟨hr, hheard, hregistry⟩
  · rw [hquiet rfl, List.append_nil]
    exact agrees_of_claimed hinput hregistry
  · have hnot : r.toOption ≠ some true := by
      cases r with
      | error failure => nofun
      | ok claimed => exact fun h => hr (congrArg Except.ok (Option.some.inj h))
    rw [if_neg hnot]
    refine agrees_of_unclaimed (fun a ha => ?_) hregistry
    rcases List.mem_append.1 ha with ha | ha
    · exact hheard a ha
    · rw [hshown a ha]
      nofun

/-- **The three records of a decision agree.**  After the bridge was loaded by a linker that can
show messages, and after any run, a file is offered.  Whatever was in the place for the decision,
what is there afterwards agrees with what the linker took and with what the registry says.  The call
fails if and only if claiming fails, and then nothing was claimed.  An offer that is impossible
leaves nothing but a message. -/
theorem claim_decisions_agree (entries : List Entry) (p₀ p : Plugin (Watched R))
    (calls : List HookCall) (hmessage : (lastFunction? entries .message).isSome = true)
    (hloaded : (load (some entries) p₀).1 = .returned .ok)
    (hruns : Runs (load (some entries) p₀).2 calls p) {session : Session}
    (hlive : p.session = some session) (before : Int) (record : Option InputRecord) :
    ∃ status claimed p' session' new,
      claimFileInto (some before) record p = (.returned (status, some claimed), p') ∧
      p'.session = some session' ∧ p'.answers = p.answers ++ new ∧
      Agrees session session' record claimed new ∧
      (status = .failed ↔ ∃ failure, (offer record ⟨session, p.machine⟩).1 = .error failure) ∧
      (status = .failed → claimed = 0) ∧
      ((∀ r, record = some r → r.offset < 0 ∨ r.size < 0) → status = .failed ∧
        ∃ raw journal text, p' = p.told raw journal ∧ new = [fatalAnswer text]) := by
  obtain ⟨hshow, -⟩ := hruns.of_loaded hmessage hloaded
  obtain ⟨r, live, heard, hoffer, hheard, hcases⟩ := offer_cases record session p.machine
  have hshow' : (live.world.linker.bindings.address .message).isSome = true := by
    rw [hheard.bindings]
    exact hshow
  obtain ⟨raw, journal, hinto, hreports⟩ :=
    claimFileInto_eq hlive (some before) record hoffer hshow'
  obtain ⟨shown, hanswers, hshown⟩ := hreports.told
  have hquiet : r = .ok true → shown = [] := by
    rintro rfl
    exact List.self_eq_append_right.1 (hreports.2.symm.trans hanswers)
  refine ⟨_, _, _, live.session, heard ++ shown, hinto, rfl, ?_,
    agrees_of_offer hshown hquiet hcases, ?_, ?_, fun hrecord => ?_⟩
  · rw [← List.append_assoc, ← hheard.answers]
    exact hanswers
  · rw [hoffer]
    cases r <;> simp [statusOf, Except.toOption]
  · cases r with
    | error failure => exact fun _ => rfl
    | ok claimed => nofun
  · -- the session does not even begin to work
    obtain ⟨failure, hinput⟩ := inputFile_of_impossible hrecord
    rw [offer_eq, hinput] at hoffer
    obtain ⟨rfl, rfl⟩ := Prod.mk.inj hoffer
    obtain ⟨hstatus, text, -, hfatal⟩ := hreports
    have hnothing : heard = [] := List.self_eq_append_right.1 hheard.answers
    have hmessage' : shown = [fatalAnswer text] :=
      List.append_cancel_left (hanswers.symm.trans hfatal)
    refine ⟨hstatus, raw, journal, text, by rw [← hlive], ?_⟩
    rw [hnothing, hmessage', List.nil_append]

/-- A process whose linker has a file with symbols open as number 3. -/
def offeringProcess : Plugin (Watched RecordedLinker) :=
  { machine :=
      { willingProcess.machine with
        disk := ⟨⟨[([[97]], .file (Session.sampleObject Session.sampleTable.encode) false)]⟩, []⟩
        opened := [(3, [[97]])] } }

/-- An offer of this file. -/
def sampleRecord : InputRecord where
  name := .upToZero [97]
  file := 3
  offset := 0
  size := (Session.sampleObject Session.sampleTable.encode).length
  handle := 5

/-- The file is claimed by the first call of a hook. -/
theorem claim_decisions_agree_sample :
    (lastFunction? sampleVector .message).isSome = true ∧
      (load (some sampleVector) offeringProcess).1 = .returned .ok ∧
      ∃ p' session session' new,
        claimFileInto (some 7) (some sampleRecord) (load (some sampleVector) offeringProcess).2 =
          (.returned (.ok, some 1), p') ∧
        p'.session = some session' ∧ Agrees session session' (some sampleRecord) 1 new := by
  have hmessage : (lastFunction? sampleVector .message).isSome = true := by decide
  have hloaded : (load (some sampleVector) offeringProcess).1 = .returned .ok := by
    decide +kernel
  have hclaim : (claimFileInto (some 7) (some sampleRecord)
      (load (some sampleVector) offeringProcess).2).1 = .returned (.ok, some 1) := by
    decide +kernel
  obtain ⟨session, hsession⟩ := Option.isSome_iff_exists.1 (loaded_of_ok hmessage hloaded).1
  obtain ⟨status, claimed, p', session', new, hinto, hsession', -, hagrees, -⟩ :=
    claim_decisions_agree sampleVector offeringProcess _ [] hmessage hloaded .start hsession 7
      (some sampleRecord)
  rw [hinto] at hclaim
  obtain ⟨rfl, rfl⟩ : status = .ok ∧ claimed = 1 := by simpa using hclaim
  exact ⟨hmessage, hloaded, p', session, session', new, hinto, hsession', hagrees⟩

end LtoBridge.Plugin
