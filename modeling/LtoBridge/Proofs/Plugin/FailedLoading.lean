/-
**What is left when loading fails.**

The session of a process begins before the hooks are registered.  If loading fails earlier, nothing
is left of it.  If the linker refuses a hook, the session stays, and so does its directory.

Main results:

* `LtoBridge.Disk.makeTemporary_eq_ok`: a temporary directory is one that was not there;
* `LtoBridge.Plugin.failed_loading_leaves_refused_sessions`: **what is left when loading fails**;
* `LtoBridge.Plugin.refused_hook_leaves_session`: a session and a directory that are left.
-/

import LtoBridge.Proofs.Plugin.Loading

set_option autoImplicit false

namespace LtoBridge

/-! ### Temporary directories -/

namespace Disk

theorem makeDirectory_eq_ok {d d' : Disk} {path : Path} (h : d.makeDirectory path = .ok d') :
    ∃ l, d.locateEntry path = .ok l ∧ d.tree.get? l = none ∧ d' = d.put l .directory := by
  obtain ⟨l, hl, h⟩ := exists_of_bind_eq_ok h
  refine ⟨l, hl, ?_⟩
  cases hnode : d.tree.get? l with
  | some n =>
      simp only [hnode] at h
      cases h
  | none =>
      simp only [hnode, ne_eq, not_true_eq_false, and_false, if_false] at h
      exact ⟨rfl, (Except.ok.inj h).symm⟩

theorem makeNumbered_eq_ok {d d' : Disk} {directory stem path : Path} {numbers : List Nat}
    (h : d.makeNumbered directory stem numbers = .ok (path, d')) :
    d.makeDirectory path = .ok d' := by
  induction numbers with
  | nil => cases h
  | cons n numbers ih =>
      rw [makeNumbered] at h
      cases hmake : d.makeDirectory (directory.join (numbered stem n)) with
      | ok made =>
          simp only [hmake] at h
          obtain ⟨hpath, hmade⟩ := Prod.mk.inj (Except.ok.inj h)
          rw [← hpath, ← hmade, hmake]
      | error e =>
          simp only [hmake] at h
          split at h
          · cases ‹Except.error e = Except.ok _›
          · exact ih h
          · cases h

/-- A temporary directory is one that was not there. -/
theorem makeTemporary_eq_ok {d d' : Disk} {parent stem path : Path}
    (h : d.makeTemporary parent stem = .ok (path, d')) :
    ∃ l, d.locateEntry path = .ok l ∧ d.tree.get? l = none ∧ d' = d.put l .directory :=
  makeDirectory_eq_ok (makeNumbered_eq_ok h)

end Disk

namespace Plugin

open TransferVector (lastFunction?)

variable {R : Type} [RawLinker R]

/-! ### The session -/

/-- Where a session can begin, it is there at the end with its directory, whatever becomes of the
hooks. -/
theorem begin_leaves_session {entries : List Entry} {p : Plugin R}
    (husable : Usable entries p.machine.disk) (hnone : p.session = none) :
    ∃ options path, p.machine.disk.makeTemporary p.machine.disk.currentPath
        Session.directoryStem =
          .ok (path, (begin (TransferVector.read entries) p).2.machine.disk) ∧
      (begin (TransferVector.read entries) p).2.session =
        some { options, temporaryDirectory := some path } := by
  obtain ⟨hoptions, hcheck, hdirectory⟩ := (usable_iff _ _).1 husable
  cases hread : readOptions (TransferVector.read entries) with
  | error failure =>
      rw [hread] at hoptions
      cases hoptions
  | ok options =>
      obtain ⟨journal, hsubscribe⟩ := subscribe_apply options.verbose p
      rcases start_cases options (p.withJournal journal).machine with
        ⟨path, disk, journal', hmake, hstart⟩ | ⟨hnever, -⟩
      · let begun : Plugin R := ⟨some { options, temporaryDirectory := some path },
          { p.machine with
            disk, journal := journal'
            linker := { p.machine.linker with
              bindings := (TransferVector.read entries).bindings, pinned := [] } }⟩
        obtain ⟨made, raw', -, hregistered, -⟩ := registers_forEach registrations begun
        have hsession : onMachine (Session.start options) (p.withJournal journal) =
            (.ok { options, temporaryDirectory := some path },
              { p with machine := { p.machine with disk, journal := journal' } }) := by
          simp only [onMachine, hstart]
          rfl
        have hinstall : install (TransferVector.read entries).bindings
            { options, temporaryDirectory := some path }
            { p with machine := { p.machine with disk, journal := journal' } } =
              (.ok (), begun) := by
          simp only [install, dropped, hnone, begun]
        have hbegin : (begin (TransferVector.read entries) p).2 = withRaw begun raw' := by
          rw [begin]
          simp only [Act.bind_apply, Act.ofResult, hread, hsubscribe, hcheck, hsession, hinstall,
            hregistered]
        rw [hbegin]
        exact ⟨options, path, hmake, rfl⟩
      · exact absurd hdirectory hnever

/-! ### Loading -/

/-- **What is left when loading fails.**  If no session could begin, there is none, and the disk is
what it was.  Otherwise the linker refused a hook.  Then the session is there although loading
failed, and so is its directory, which is the only change to the disk. -/
theorem failed_loading_leaves_refused_sessions (entries : List Entry) (p : Plugin R)
    (hmessage : (lastFunction? entries .message).isSome = true) (hnone : p.session = none)
    (hfailed : (load (some entries) p).1 = .returned .failed) :
    let p' := (load (some entries) p).2
    (¬ Usable entries p.machine.disk ∧ p'.session = none ∧ p'.machine.disk = p.machine.disk) ∨
      Usable entries p.machine.disk ∧
        (∃ made raw', Registers (fun hook => lastFunction? entries hook.registration)
          registrations p.machine.linker.raw made raw' ∧ ∃ entry ∈ made, entry.2 ≠ statusOk) ∧
        ∃ options path l, p'.session = some { options, temporaryDirectory := some path } ∧
          p.machine.disk.locateEntry path = .ok l ∧ p.machine.disk.tree.get? l = none ∧
          p'.machine.disk = p.machine.disk.put l .directory := by
  obtain ⟨r, p₁, raw, journal, journal', hbegin, hbegins, hload, -, -⟩ :=
    load_cases entries p hmessage
  rw [hload] at hfailed ⊢
  have hr : ¬ r.isOk = true := by
    intro hok
    rw [if_pos hok] at hfailed
    cases hfailed
  cases hbegins with
  | refused hnot _ hsession hdisk _ => exact .inl ⟨hnot, hsession.trans hnone, hdisk⟩
  | registered made raw' husable hmade hok _ _ =>
      obtain ⟨options, path, hmake, hsession⟩ :=
        begin_leaves_session (p := p.withJournal journal') husable hnone
      rw [hbegin] at hmake hsession
      obtain ⟨l, hl, hfree, hput⟩ := Disk.makeTemporary_eq_ok hmake
      have hrefused : ∃ entry ∈ made, entry.2 ≠ statusOk := by
        by_contra hall
        refine hr (hok.2 fun entry hentry => ?_)
        by_contra hne
        exact hall ⟨entry, hentry, hne⟩
      exact .inr ⟨husable, ⟨made, raw', hmade, hrefused⟩, options, path, l, hsession, hl, hfree,
        hput⟩

/-- The linker refuses the hook for the cleanup after it accepted the one for claiming. -/
theorem failed_loading_leaves_refused_sessions_sample :
    (lastFunction? sampleVector .message).isSome = true ∧ sampleProcess.session = none ∧
      (load (some sampleVector) sampleProcess).1 = .returned .failed ∧
      ∃ options path l, (load (some sampleVector) sampleProcess).2.session =
          some { options, temporaryDirectory := some path } ∧
        sampleProcess.machine.disk.tree.get? l = none ∧
        (load (some sampleVector) sampleProcess).2.machine.disk =
          sampleProcess.machine.disk.put l .directory := by
  have hmessage : (lastFunction? sampleVector .message).isSome = true := by decide
  have hfailed : (load (some sampleVector) sampleProcess).1 = .returned .failed := by
    decide +kernel
  have hleft : (load (some sampleVector) sampleProcess).2.session.isSome = true := by
    decide +kernel
  refine ⟨hmessage, rfl, hfailed, ?_⟩
  obtain ⟨-, hnone, -⟩ | ⟨-, -, options, path, l, hsession, -, hfree, hdisk⟩ :=
    failed_loading_leaves_refused_sessions sampleVector sampleProcess hmessage rfl hfailed
  · rw [hnone] at hleft
    cases hleft
  · exact ⟨options, path, l, hsession, hfree, hdisk⟩

/-- **A session and a directory are left by a loading that failed.** -/
theorem refused_hook_leaves_session :
    let directory : Location := [Bytes.ofString "tmp_objects000000"]
    (lastFunction? sampleVector .message).isSome = true ∧ sampleProcess.session = none ∧
      sampleProcess.machine.disk.tree.get? directory = none ∧
      (load (some sampleVector) sampleProcess).1 = .returned .failed ∧
      (load (some sampleVector) sampleProcess).2.session.isSome = true ∧
      (load (some sampleVector) sampleProcess).2.machine.disk.tree.get? directory =
        some .directory := by
  refine ⟨by decide, rfl, by decide, by decide +kernel, by decide +kernel, by decide +kernel⟩

end Plugin

end LtoBridge
