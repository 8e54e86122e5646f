/-
**Loading the bridge.**

When the linker loads the bridge, everything that can be checked is checked before a session begins:
the options, the functions that the bridge cannot do without, and whether there is a place for its
files.  Only then are hooks registered, up to the first one that the linker refuses.  If anything
goes wrong, the linker gets one fatal message, and nothing else.

Main definitions:

* `LtoBridge.Plugin.Usable`: transfer vectors with which a session can begin;
* `LtoBridge.Plugin.Registers`: hooks are registered one after the other, up to the first one that
  is refused.

Main results:

* `LtoBridge.Plugin.begin_cases`: **a session begins and hooks are registered, or nothing is done**;
* `LtoBridge.Plugin.load_accepts_usable_vectors`: what the linker gets from the bridge when it loads
  it, and when it is told that all is well.
-/

import LtoBridge.Plugin
import LtoBridge.Proofs.Act
import LtoBridge.Proofs.Files.Ways
import LtoBridge.Proofs.Linker.Pinned
import LtoBridge.Proofs.Linker.Vector

set_option autoImplicit false

namespace LtoBridge.Plugin

open TransferVector (lastFunction? optionValues OffersGetSymbols)

/-! ### Usable vectors -/

/-- **A session can begin with a transfer vector on a disk**: its options are texts that say
something, the functions that the bridge cannot do without are there, and a temporary directory can
be made. -/
structure Usable (entries : List Entry) (d : Disk) : Prop where
  options : ∃ texts options,
    (optionValues entries).map (fun option => Utf8.decode option.bytes) = texts.map Except.ok ∧
      Options.parse texts = .ok options
  claimFile : (lastFunction? entries .registerClaimFile).isSome = true
  addSymbols : (lastFunction? entries .addSymbols).isSome = true
  getSymbols : (lastFunction? entries .registerAllSymbolsRead).isSome = true →
    OffersGetSymbols entries
  directory : ∃ path d', d.makeTemporary d.currentPath Session.directoryStem = .ok (path, d')

/-- The options are taken as texts if all of them are. -/
theorem optionTexts_eq_ok_iff {options : List NulFree} {texts : List String} :
    optionTexts options = .ok texts ↔
      options.map (fun option => Utf8.decode option.bytes) = texts.map Except.ok := by
  induction options generalizing texts with
  | nil => cases texts <;> simp [optionTexts]
  | cons option options ih =>
      rw [optionTexts, List.map_cons]
      cases hdecode : Utf8.decode option.bytes with
      | error fault => cases texts <;> simp
      | ok text =>
          constructor
          · intro h
            obtain ⟨rest, hrest, h⟩ := exists_of_bind_eq_ok h
            obtain rfl := Except.ok.inj h
            rw [ih.1 hrest, List.map_cons]
          · intro h
            cases texts with
            | nil => cases h
            | cons text' rest =>
                obtain ⟨htext, hrest⟩ := List.cons.inj h
                obtain rfl := Except.ok.inj htext
                simp only [ih.2 hrest]
                rfl

theorem readOptions_isOk_iff {tv : TransferVector} :
    (readOptions tv).isOk = true ↔ ∃ texts options,
      tv.options.map (fun option => Utf8.decode option.bytes) = texts.map Except.ok ∧
        Options.parse texts = .ok options := by
  simp only [← optionTexts_eq_ok_iff, readOptions]
  cases htexts : optionTexts tv.options with
  | error failure => simp [Bind.bind, Except.bind, Except.isOk, Except.toBool]
  | ok texts =>
      cases hparse : Options.parse texts with
      | error fault =>
          simp [Bind.bind, Except.bind, Except.isOk, Except.toBool, hparse]
      | ok options =>
          simp [Bind.bind, Except.bind, Except.isOk, Except.toBool, hparse]

theorem checkBindings_eq_ok_iff {b : Bindings} : checkBindings b = .ok () ↔
    (b.address .registerClaimFile).isSome = true ∧ (b.address .addSymbols).isSome = true ∧
      ((b.address .registerAllSymbolsRead).isSome = true →
        (b.address .getSymbols).isSome = true) := by
  unfold checkBindings
  cases b.address .registerClaimFile <;> cases b.address .addSymbols <;>
    cases b.address .registerAllSymbolsRead <;> cases b.address .getSymbols <;> simp

/-! ### Registered hooks -/

/-- **Hooks are registered one after the other**, those for which there is a function, up to the
first one that is refused.  What was registered comes with the status that the linker returned. -/
inductive Registers {R : Type} [RawLinker R] (function? : Hook → Option Address) :
    List Hook → R → List (Hook × Int) → R → Prop
  | done (raw : R) : Registers function? [] raw [] raw
  | absent {hook : Hook} {hooks : List Hook} {raw raw' : R} {made : List (Hook × Int)} :
      function? hook = none → Registers function? hooks raw made raw' →
      Registers function? (hook :: hooks) raw made raw'
  | accepted {hook : Hook} {hooks : List Hook} {raw raw₁ raw' : R} {made : List (Hook × Int)}
      {function : Address} :
      function? hook = some function →
      RawLinker.registerHook function hook raw = (statusOk, raw₁) →
      Registers function? hooks raw₁ made raw' →
      Registers function? (hook :: hooks) raw ((hook, statusOk) :: made) raw'
  | refused {hook : Hook} {hooks : List Hook} {raw raw' : R} {function : Address} {status : Int} :
      function? hook = some function →
      RawLinker.registerHook function hook raw = (status, raw') → status ≠ statusOk →
      Registers function? (hook :: hooks) raw [(hook, status)] raw'

theorem calls_of_registered {R : Type} [RawLinker R] {function : Address} {hook : Hook}
    {raw raw' : Watched R} {status : Int}
    (h : RawLinker.registerHook function hook raw = (status, raw')) :
    raw'.calls = raw.calls ++ [.register hook] := by
  obtain rfl := (Prod.mk.inj h).2
  exact Watched.calls_eq rfl

/-- A linker that is watched gets these calls, and no others. -/
theorem Registers.calls_eq {R : Type} [RawLinker R] {function? : Hook → Option Address}
    {hooks : List Hook} {raw raw' : Watched R} {made : List (Hook × Int)}
    (h : Registers function? hooks raw made raw') :
    raw'.calls = raw.calls ++ made.map fun entry => .register entry.1 := by
  induction h with
  | done raw => simp
  | absent _ _ ih => exact ih
  | accepted _ hcall _ ih =>
      rw [ih, calls_of_registered hcall, List.map_cons, List.append_assoc, List.singleton_append]
  | refused _ hcall _ => exact calls_of_registered hcall

variable {R : Type} [RawLinker R]

/-- The function of a linker for a hook. -/
def registration? (b : Bindings) (hook : Hook) : Option Address := b.address hook.registration

/-- The process with another state of its raw linker. -/
def withRaw (p : Plugin R) (raw : R) : Plugin R := p.withLinker { p.machine.linker with raw }

/-- **What is registered with a linker**, and whether all of it was accepted. -/
theorem registers_forEach (hooks : List Hook) (p : Plugin R) :
    ∃ made raw', Registers (registration? p.machine.linker.bindings) hooks
        p.machine.linker.raw made raw' ∧
      (Act.forEach register hooks p).2 = p.withRaw raw' ∧
      ((Act.forEach register hooks p).1.isOk = true ↔ ∀ entry ∈ made, entry.2 = statusOk) := by
  induction hooks generalizing p with
  | nil =>
      have hok : (Act.forEach register ([] : List Hook) p).1.isOk = true := rfl
      exact ⟨[], p.machine.linker.raw, .done _, rfl, by simp [hok]⟩
  | cons hook hooks ih =>
      have hbind : Act.forEach register (hook :: hooks) p =
          (register hook >>= fun _ => Act.forEach register hooks) p := rfl
      cases hfunction : p.machine.linker.bindings.address hook.registration with
      | none =>
          have hregister : register hook p = (.ok (), p) := by rw [register, hfunction]
          rw [hbind, Act.bind_apply, hregister]
          obtain ⟨made, raw', hmade, hp', hok⟩ := ih p
          exact ⟨made, raw', .absent hfunction hmade, hp', hok⟩
      | some function =>
          rcases hcall : RawLinker.registerHook function hook p.machine.linker.raw with
            ⟨status, raw₁⟩
          have hregister : register hook p =
              (checkStatus hook.registration status, p.withRaw raw₁) := by
            simp only [register, hfunction, BoundLinker.register, BoundLinker.onRaw, hcall]
            rfl
          rw [hbind, Act.bind_apply, hregister]
          by_cases hstatus : status = statusOk
          · subst hstatus
            obtain ⟨made, raw', hmade, hp', hok⟩ := ih (p.withRaw raw₁)
            refine ⟨(hook, statusOk) :: made, raw', .accepted hfunction hcall hmade, hp', ?_⟩
            simpa [checkStatus] using hok
          · refine ⟨[(hook, status)], raw₁, .refused hfunction hcall hstatus, ?_, ?_⟩
            · simp [checkStatus, hstatus]
            · simp [checkStatus, hstatus, Except.isOk, Except.toBool]

/-! ### The steps of loading -/

/-- The process with another journal. -/
def withJournal (p : Plugin R) (journal : Log.Journal) : Plugin R :=
  { p with machine := { p.machine with journal } }

/-- Reports are seen in the journal only. -/
theorem forEach_tell (notices : List Notice) (p : Plugin R) :
    ∃ journal, Act.forEach tell notices p = (.ok (), p.withJournal journal) := by
  induction notices generalizing p with
  | nil => exact ⟨p.machine.journal, rfl⟩
  | cons notice notices ih =>
      obtain ⟨journal, hrest⟩ := ih (p.withJournal (p.machine.journal.add ⟨notice, none⟩))
      refine ⟨journal, ?_⟩
      have hbind := Act.bind_apply (tell notice) (fun _ => Act.forEach tell notices) p
      exact hbind.trans hrest

theorem subscribe_apply (verbose : Bool) (p : Plugin R) :
    ∃ journal, subscribe verbose p = (.ok (), p.withJournal journal) := by
  rw [subscribe, Act.bind_apply]
  simp only [Act.look]
  cases p.machine.journal.install? verbose with
  | none => exact ⟨p.machine.journal.add ⟨.subscriberInstalled, none⟩, rfl⟩
  | some journal => exact ⟨journal, rfl⟩

section

variable {L : Type} [Linker L]

/-- A session begins if a directory can be made for it, and otherwise nothing is done. -/
theorem start_cases (options : Options) (m : Machine L) :
    (∃ path disk journal, m.disk.makeTemporary m.disk.currentPath Session.directoryStem =
        .ok (path, disk) ∧ Session.start options m =
          (.ok { options, temporaryDirectory := some path }, { m with disk, journal })) ∨
      (¬ ∃ path disk, m.disk.makeTemporary m.disk.currentPath Session.directoryStem =
        .ok (path, disk)) ∧ ∃ failure, Session.start options m = (.error failure, m) := by
  have hstart : Session.start options m = Session.startIn options m.disk.currentPath m := rfl
  rw [hstart]
  cases hmake : m.disk.makeTemporary m.disk.currentPath Session.directoryStem with
  | error e =>
      refine .inr ⟨by simp, ?_⟩
      have hfails : (Act.ofOsAt (Platform.makeTemporaryDirectory m.disk.currentPath
          Session.directoryStem)) m = (.error ⟨.osAt e.1 e.2, []⟩, m) := by
        simp only [Act.ofOsAt, Platform.makeTemporaryDirectory, hmake]
      let failure : Failure := ⟨.osAt e.1 e.2, [.temporaryDirectory m.disk.currentPath]⟩
      refine ⟨failure, (Act.bind_apply _ _ _).trans ?_⟩
      simp only [Act.within, hfails]
      rfl
  | ok made =>
      refine .inl ⟨made.1, made.2, m.journal.add ⟨.usingTemporaryDirectory made.1, none⟩, rfl, ?_⟩
      have hsucceeds : (Act.ofOsAt (Platform.makeTemporaryDirectory m.disk.currentPath
          Session.directoryStem)) m = (.ok made.1, { m with disk := made.2 }) := by
        simp only [Act.ofOsAt, Platform.makeTemporaryDirectory, hmake]
      refine (Act.bind_apply _ _ _).trans ?_
      simp only [Act.within, hsucceeds]
      rfl

/-- A session that is dropped takes its directory with it, and nothing else is done. -/
theorem drop_apply (live : Live (Machine L)) :
    ∃ disk, (Session.drop live).2.world = { live.world with disk } := by
  rw [Session.drop, Act.bind_apply]
  simp only [Session.view, Act.look]
  cases live.session.temporaryDirectory with
  | none => exact ⟨live.world.disk, rfl⟩
  | some path =>
      have hdrop : (Session.abandon path live).2.world = (Platform.removeTree path live.world).2 :=
        rfl
      simp only [hdrop]
      cases hremove : live.world.disk.removeTree path with
      | error e =>
          refine ⟨live.world.disk, ?_⟩
          simp only [Platform.removeTree, Machine.onDisk, hremove]
      | ok disk =>
          refine ⟨disk, ?_⟩
          simp only [Platform.removeTree, Machine.onDisk, hremove]

end

theorem dropped_eq (session : Option Session) (m : Machine (BoundLinker R)) :
    ∃ disk, dropped session m = { m with disk } := by
  cases session with
  | none => exact ⟨m.disk, rfl⟩
  | some old => exact drop_apply ⟨old, m⟩

/-- A session becomes the one of the process, with its functions, and otherwise only the disk may be
changed by that. -/
theorem install_apply (b : Bindings) (session : Session) (p : Plugin R) :
    ∃ disk, install b session p = (.ok (), { session := some session, machine := { p.machine with
      disk, linker := { p.machine.linker with bindings := b, pinned := [] } } }) := by
  obtain ⟨disk, hdropped⟩ := dropped_eq p.session p.machine
  exact ⟨disk, by rw [install, hdropped]⟩

/-! ### The beginning -/

/-- **What comes of the beginning of a session**: it is refused and nothing is done, or the session
begins with the functions of the vector and hooks are registered. -/
inductive Begins (entries : List Entry) (p : Plugin R) (r : Except Failure Unit) (p' : Plugin R) :
    Prop
  | refused (hnot : ¬ Usable entries p.machine.disk) (hr : r.isOk = false)
      (hsession : p'.session = p.session) (hdisk : p'.machine.disk = p.machine.disk)
      (hlinker : p'.machine.linker = p.machine.linker)
  | registered (made : List (Hook × Int)) (raw' : R) (husable : Usable entries p.machine.disk)
      (hmade : Registers (fun hook => lastFunction? entries hook.registration) registrations
        p.machine.linker.raw made raw')
      (hr : r.isOk = true ↔ ∀ entry ∈ made, entry.2 = statusOk)
      (hsession : p'.session.isSome = true)
      (hlinker : p'.machine.linker =
        { raw := raw', bindings := (TransferVector.read entries).bindings, pinned := [] })

theorem registration?_read (entries : List Entry) :
    registration? (TransferVector.read entries).bindings =
      fun hook => lastFunction? entries hook.registration := by
  funext hook
  refine TransferVector.address_read ?_ entries
  cases hook <;> decide

/-- The checks of the options and of the functions, seen from the vector. -/
theorem usable_iff (entries : List Entry) (d : Disk) : Usable entries d ↔
    (readOptions (TransferVector.read entries)).isOk = true ∧
      checkBindings (TransferVector.read entries).bindings = .ok () ∧
      ∃ path d', d.makeTemporary d.currentPath Session.directoryStem = .ok (path, d') := by
  rw [readOptions_isOk_iff, TransferVector.options_read, checkBindings_eq_ok_iff,
    TransferVector.address_read (by decide), TransferVector.address_read (by decide),
    TransferVector.address_read (by decide), TransferVector.getSymbols_read]
  constructor
  · rintro ⟨hoptions, hclaim, hadd, hget, hdirectory⟩
    exact ⟨hoptions, ⟨hclaim, hadd, hget⟩, hdirectory⟩
  · rintro ⟨hoptions, ⟨hclaim, hadd, hget⟩, hdirectory⟩
    exact ⟨hoptions, hclaim, hadd, hget, hdirectory⟩

/-- The beginning after the checks: the session, and then the hooks. -/
theorem begins_of_checked {entries : List Entry} {options : Options} (p : Plugin R)
    (hoptions : (readOptions (TransferVector.read entries)).isOk = true)
    (hcheck : checkBindings (TransferVector.read entries).bindings = .ok ()) :
    let result := (do
      let session ← onMachine (Session.start options)
      install (TransferVector.read entries).bindings session
      Act.forEach register registrations : Act (Plugin R) Unit) p
    Begins entries p result.1 result.2 := by
  rcases start_cases options p.machine with
    ⟨path, disk, journal, hmake, hstart⟩ | ⟨hnone, failure, hstart⟩
  · have hsession : onMachine (Session.start options) p =
        (.ok { options, temporaryDirectory := some path },
          { p with machine := { p.machine with disk, journal } }) := by
      simp only [onMachine, hstart]
    obtain ⟨disk', hinstall⟩ := install_apply (TransferVector.read entries).bindings
      { options, temporaryDirectory := some path }
      { p with machine := { p.machine with disk, journal } }
    rw [Act.bind_apply, hsession]
    simp only
    rw [Act.bind_apply, hinstall]
    simp only
    obtain ⟨made, raw', hmade, hp', hok⟩ := registers_forEach registrations
      (⟨some { options, temporaryDirectory := some path }, { p.machine with
        disk := disk'
        linker := { p.machine.linker with
          bindings := (TransferVector.read entries).bindings, pinned := [] }
        journal }⟩ : Plugin R)
    rw [registration?_read] at hmade
    refine .registered made raw' ((usable_iff _ _).2 ⟨hoptions, hcheck, path, disk, hmake⟩) hmade
      hok ?_ ?_
    · rw [hp']
      rfl
    · rw [hp']
      rfl
  · have hsession : onMachine (Session.start options) p = (.error failure, p) := by
      simp only [onMachine, hstart]
    rw [Act.bind_apply, hsession]
    refine .refused (fun husable => hnone ?_) rfl rfl rfl rfl
    exact ((usable_iff _ _).1 husable).2.2

/-- The journal plays no part in how a session begins. -/
theorem Begins.of_withJournal {entries : List Entry} {p p' : Plugin R} (journal : Log.Journal)
    {r : Except Failure Unit} (h : Begins entries (p.withJournal journal) r p') :
    Begins entries p r p' := by
  cases h with
  | refused hnot hr hsession hdisk hlinker => exact .refused hnot hr hsession hdisk hlinker
  | registered made raw' husable hmade hr hsession hlinker =>
      exact .registered made raw' husable hmade hr hsession hlinker

/-- **A session begins and hooks are registered, or nothing is done.** -/
theorem begin_cases (entries : List Entry) (p : Plugin R) :
    let result := begin (TransferVector.read entries) p
    Begins entries p result.1 result.2 := by
  rw [begin]
  cases hread : readOptions (TransferVector.read entries) with
  | error failure =>
      refine .refused (fun husable => ?_) rfl rfl rfl rfl
      have hoptions := ((usable_iff _ _).1 husable).1
      rw [hread] at hoptions
      cases hoptions
  | ok options =>
      have hoptions : (readOptions (TransferVector.read entries)).isOk = true := by
        rw [hread]
        rfl
      obtain ⟨journal, hsubscribe⟩ := subscribe_apply options.verbose p
      rw [Act.bind_apply, Act.ofResult]
      simp only
      rw [Act.bind_apply, hsubscribe]
      simp only
      refine Begins.of_withJournal journal ?_
      cases hcheck : checkBindings (TransferVector.read entries).bindings with
      | error failure =>
          refine .refused (fun husable => ?_) rfl rfl rfl rfl
          have hbound := ((usable_iff _ _).1 husable).2.1
          rw [hcheck] at hbound
          cases hbound
      | ok u =>
          have hchecked : (Act.ofResult (.ok u) : Act (Plugin R) Unit) (p.withJournal journal) =
              (.ok (), p.withJournal journal) := rfl
          rw [Act.bind_apply, hchecked]
          exact begins_of_checked _ hoptions hcheck

/-! ### Messages -/

/-- The message of a call that failed. -/
def fatalMessage (text : String) : RecordedLinker.Call :=
  .message MessageLevel.fatal.code BoundLinker.messageFormat (BoundLinker.messageText text)

/-- The process after a message was shown and an event was reported. -/
def told (p : Plugin R) (raw : R) (journal : Log.Journal) : Plugin R :=
  { p with machine := { p.machine with linker := { p.machine.linker with raw }, journal } }

/-- **A call that failed shows one message**, and nothing else is done. -/
theorem conclude_error {α : Type} {b : Bindings} (failure : Failure) (p : Plugin R)
    (hmessage : (b.address .message).isSome = true) :
    ∃ function journal, (conclude b (.error failure, p) : Outcome (Option α) × Plugin R) =
      (.returned none, p.told (RawLinker.message function MessageLevel.fatal.code
        BoundLinker.messageFormat (BoundLinker.messageText failure.message)
          p.machine.linker.raw) journal) := by
  obtain ⟨function, hfunction⟩ := Option.isSome_iff_exists.1 hmessage
  refine ⟨function, p.machine.journal.add ⟨.fatal failure.message, none⟩, ?_⟩
  simp only [conclude, reportFatal, BoundLinker.show?, hfunction, Option.map_some]
  rfl

/-- **How a call ends that has a status only**: a linker that can show messages gets one if the call
failed. -/
theorem onlyStatus_conclude {b : Bindings} (r : Except Failure Unit) (p : Plugin R)
    (hmessage : (b.address .message).isSome = true) : ∃ raw journal,
      onlyStatus (conclude b (r, p)) =
        (.returned (if r.isOk = true then .ok else .failed), p.told raw journal) ∧
      (r.isOk = true → raw = p.machine.linker.raw) ∧
      (r.isOk = false → ∃ function text, raw = RawLinker.message function MessageLevel.fatal.code
        BoundLinker.messageFormat (BoundLinker.messageText text) p.machine.linker.raw) := by
  cases r with
  | ok u => exact ⟨p.machine.linker.raw, p.machine.journal, rfl, fun _ => rfl, nofun⟩
  | error failure =>
      obtain ⟨function, journal, hconclude⟩ := conclude_error (α := Unit) failure p hmessage
      rw [hconclude]
      exact ⟨_, journal, rfl, nofun, fun _ => ⟨function, failure.message, rfl⟩⟩

/-! ### Loading -/

/-- What comes before the beginning are reports. -/
theorem load_eq (entries : List Entry) (p : Plugin R) : ∃ journal,
    let tv := TransferVector.read entries
    load (some entries) p =
      onlyStatus (conclude tv.bindings (begin tv (p.withJournal journal))) := by
  obtain ⟨journal, htell⟩ :=
    forEach_tell ((TransferVector.relevant entries).filterMap Entry.notice?) p
  refine ⟨journal, ?_⟩
  simp only [load, htell]

/-- **What comes of a loading**, if the vector has a function for messages: that of the beginning of
a session, and a message if that failed. -/
theorem load_cases (entries : List Entry) (p : Plugin R)
    (hmessage : (lastFunction? entries .message).isSome = true) :
    ∃ (r : Except Failure Unit) (p₁ : Plugin R) (raw : R) (journal journal' : Log.Journal),
      begin (TransferVector.read entries) (p.withJournal journal') = (r, p₁) ∧
      Begins entries p r p₁ ∧
      load (some entries) p =
        (.returned (if r.isOk = true then .ok else .failed), p₁.told raw journal) ∧
      (r.isOk = true → raw = p₁.machine.linker.raw) ∧
      (r.isOk = false → ∃ function text, raw = RawLinker.message function MessageLevel.fatal.code
        BoundLinker.messageFormat (BoundLinker.messageText text) p₁.machine.linker.raw) := by
  obtain ⟨journal', hload⟩ := load_eq entries p
  have hbegins := begin_cases entries (p.withJournal journal')
  rw [← TransferVector.address_read (by decide)] at hmessage
  obtain ⟨raw, journal, hconclude, hquiet, htold⟩ := onlyStatus_conclude
    (begin (TransferVector.read entries) (p.withJournal journal')).1
    (begin (TransferVector.read entries) (p.withJournal journal')).2 hmessage
  exact ⟨_, _, raw, journal, journal', rfl, hbegins.of_withJournal, hload.trans hconclude, hquiet,
    htold⟩

/-- **The linker loads the bridge.**  For a vector with a function for messages, a session begins
with the functions of the vector and hooks are registered, up to the first one that is refused, if
a session can begin with it.  Otherwise nothing is registered, no directory is made, and the session
of the process stays what it is, with its functions and its records.  The linker is told that all is
well if and only if a session could begin and every hook that was registered was accepted.  If not,
it gets exactly one fatal message. -/
theorem load_accepts_usable_vectors (entries : List Entry) (p : Plugin (Watched R))
    (hmessage : (lastFunction? entries .message).isSome = true) :
    let (outcome, p') := load (some entries) p
    ∃ (made : List (Hook × Int)) (raw' : Watched R) (text : String),
      (outcome = .returned .ok ↔
        Usable entries p.machine.disk ∧ ∀ entry ∈ made, entry.2 = statusOk) ∧
      (outcome ≠ .returned .ok → outcome = .returned .failed) ∧
      (Usable entries p.machine.disk → p'.session.isSome = true ∧
        p'.machine.linker.bindings = (TransferVector.read entries).bindings ∧
        p'.machine.linker.pinned = [] ∧
        Registers (fun hook => lastFunction? entries hook.registration) registrations
          p.machine.linker.raw made raw') ∧
      (¬ Usable entries p.machine.disk → made = [] ∧ p'.session = p.session ∧
        p'.machine.disk = p.machine.disk ∧
        p'.machine.linker.bindings = p.machine.linker.bindings ∧
        p'.machine.linker.pinned = p.machine.linker.pinned) ∧
      p'.machine.linker.raw.calls = p.machine.linker.raw.calls ++
        made.map (fun entry => .register entry.1) ++
          (if outcome = .returned .ok then [] else [fatalMessage text]) := by
  obtain ⟨r, p₁, raw, journal, -, -, hbegins, hload, hquiet, htold⟩ :=
    load_cases entries p hmessage
  rw [hload]
  have hok : (Outcome.returned (if r.isOk = true then HookStatus.ok else .failed)) =
      .returned .ok ↔ r.isOk = true := by
    cases r.isOk <;> simp
  have hfailed : (Outcome.returned (if r.isOk = true then HookStatus.ok else .failed)) ≠
      .returned .ok → (Outcome.returned (if r.isOk = true then HookStatus.ok else .failed)) =
        .returned .failed := by
    cases r.isOk <;> simp
  have hcalls : ∃ text, raw.calls = p₁.machine.linker.raw.calls ++
      (if r.isOk = true then [] else [fatalMessage text]) := by
    cases hr : r.isOk with
    | true => exact ⟨"", by rw [hquiet hr, if_pos rfl, List.append_nil]⟩
    | false =>
        obtain ⟨function, text, hraw⟩ := htold hr
        rw [hraw]
        exact ⟨text, Watched.calls_eq rfl⟩
  obtain ⟨text, hcalls⟩ := hcalls
  simp only [hok] at hfailed ⊢
  cases hbegins with
  | refused hnot hr hsession hdisk hlinker =>
      refine ⟨[], p.machine.linker.raw, text, ?_, hfailed, fun h => absurd h hnot, fun _ => ?_, ?_⟩
      · simp [hr, hnot]
      · have hbindings := congrArg BoundLinker.bindings hlinker
        have hpinned := congrArg BoundLinker.pinned hlinker
        exact ⟨rfl, hsession, hdisk, hbindings, hpinned⟩
      · rw [List.map_nil, List.append_nil, ← hlinker]
        exact hcalls
  | registered made raw' husable hmade hr hsession hlinker =>
      have hbindings := congrArg BoundLinker.bindings hlinker
      have hpinned := congrArg BoundLinker.pinned hlinker
      refine ⟨made, raw', text, ?_, hfailed, fun _ => ⟨hsession, hbindings, hpinned, hmade⟩,
        fun h => absurd husable h, ?_⟩
      · simp [hr, husable]
      · rw [← hmade.calls_eq]
        exact hcalls.trans (by rw [hlinker])

/-- A vector with all functions, of which the one for messages was offered twice.  What stands
behind its end does not count. -/
def sampleVector : List Entry :=
  [⟨4, .text (.upToZero [98])⟩, ⟨11, .word 0⟩, ⟨5, .word 1⟩, ⟨6, .word 2⟩, ⟨7, .word 3⟩,
    ⟨8, .word 4⟩, ⟨28, .word 5⟩, ⟨11, .word 6⟩, ⟨0, .word 0⟩, ⟨11, .word 0⟩]

/-- A process on an empty disk, whose linker refuses the hook for the cleanup. -/
def sampleProcess : Plugin (Watched RecordedLinker) where
  machine :=
    { disk := ⟨⟨[]⟩, []⟩
      launcher := fun disk _ _ => (.error .noEntry, disk)
      linker := { raw := { raw := { statuses := [(.registerCleanup, 1)] } } }
      journal := { subscriber := .nobody } }

/-- A vector with which no session can begin. -/
def poorVector : List Entry := [⟨11, .word 7⟩, ⟨0, .word 0⟩]

/-- The session begins although a hook is refused.  A second loading cannot replace it: it goes on
with its own functions. -/
theorem load_accepts_usable_vectors_sample :
    (lastFunction? sampleVector .message).isSome = true ∧
      Usable sampleVector sampleProcess.machine.disk ∧
      (∃ text, (load (some sampleVector) sampleProcess).2.machine.linker.raw.calls =
        [.register .claimFile, .register .cleanup, fatalMessage text]) ∧
      (lastFunction? poorVector .message).isSome = true ∧
      let p := (load (some sampleVector) sampleProcess).2
      (load (some poorVector) p).2.session = p.session ∧ p.session.isSome = true ∧
        (load (some poorVector) p).2.machine.linker.bindings =
          (TransferVector.read sampleVector).bindings := by
  have hmessage : (lastFunction? sampleVector .message).isSome = true := by decide
  have husable : Usable sampleVector sampleProcess.machine.disk := by
    have hoptions : (optionValues sampleVector).map (fun option => Utf8.decode option.bytes) =
        ["b"].map Except.ok := by
      rfl
    refine ⟨⟨["b"], { backendWords := ["b"] }, hoptions, by rfl⟩, by decide, by decide,
      fun _ => ?_, ?_⟩
    · exact ⟨⟨28, .word 5⟩, by decide, ⟨3, by decide⟩, by decide⟩
    · exact ⟨_, _, rfl⟩
  have hloaded := load_accepts_usable_vectors sampleVector sampleProcess hmessage
  have hrefused : (load (some sampleVector) sampleProcess).1 ≠ .returned .ok := by decide +kernel
  generalize load (some sampleVector) sampleProcess = result at hloaded hrefused ⊢
  obtain ⟨outcome, p'⟩ := result
  obtain ⟨made, raw', text, -, -, hbegun, -, hcalls⟩ := hloaded
  obtain ⟨hsession, hbindings, -, hregisters⟩ := hbegun husable
  -- the second vector has no function for announcing symbols
  have hpoor : (lastFunction? poorVector .message).isSome = true := by decide
  have hunusable : ¬ Usable poorVector p'.machine.disk := fun h => absurd h.addSymbols (by decide)
  dsimp only
  have hagain := load_accepts_usable_vectors poorVector p' hpoor
  generalize load (some poorVector) p' = result at hagain ⊢
  obtain ⟨outcome', p''⟩ := result
  obtain ⟨_, _, _, -, -, -, hkept, -⟩ := hagain
  obtain ⟨-, hsession', -, hbindings', -⟩ := hkept hunusable
  refine ⟨hmessage, husable, ⟨text, ?_⟩, hpoor, hsession', hsession, hbindings'.trans hbindings⟩
  rw [hcalls, if_neg hrefused]
  -- the hook for the cleanup is the last one that is registered
  cases hregisters with
  | absent hnone _ => cases hnone
  | refused _ hstatus hne => exact absurd (Prod.mk.inj hstatus).1.symm hne
  | accepted _ hclaim hrest =>
      obtain rfl := (Prod.mk.inj hclaim).2
      cases hrest with
      | absent hnone _ => cases hnone
      | accepted _ hcleanup _ => exact absurd (Prod.mk.inj hcleanup).1 (by decide)
      | refused _ _ _ => rfl

end LtoBridge.Plugin
