/-
**The hooks of the bridge, in any order.**

Once the bridge is loaded, the linker calls its hooks, and what it calls them with, what it answers
and what is on the disk may be anything.  Whatever happens in a call, it either succeeds quietly or
fails with one message for the user.  The first cleanup ends the session.  After that there is
nothing left to clean up, and no other hook should be called.

Main definitions:

* `LtoBridge.Plugin.HookCall`: a call of a hook;
* `LtoBridge.Plugin.Runs`: how a process goes on that has loaded the bridge;
* `LtoBridge.Plugin.Reports`: how a call ends.

Main results:

* `LtoBridge.Plugin.HookCall.run_of_session`: **one call**, while there is a session;
* `LtoBridge.Plugin.Runs.of_loaded`: the session lives until the first cleanup;
* `LtoBridge.Plugin.hooks_report_failures`: **every call in every order**.
-/

import LtoBridge.Plugin
import LtoBridge.Proofs.Linker.Answered
import LtoBridge.Proofs.Plugin.Loading
import LtoBridge.Proofs.Session.History
import LtoBridge.Proofs.Session.Surroundings
import Mathlib.Data.List.TakeWhile

set_option autoImplicit false

namespace LtoBridge.Plugin

open TransferVector (lastFunction?)

variable {R α β : Type} [RawLinker R]

/-! ### Calls of hooks -/

/-- **A call of a hook.** -/
inductive HookCall
  | claimFile (place : Option Int) (record : Option InputRecord)
  | allSymbolsRead
  | cleanup

namespace HookCall

/-- What a hook does with the session. -/
def work : HookCall → Act (Live (Machine (BoundLinker R))) Unit
  | claimFile _ record => do let _ ← offer record
  | allSymbolsRead => Session.allSymbolsRead
  | cleanup => Session.cleanup

/-- **What a call returns**, and the process after it. -/
def run : HookCall → Plugin R → Outcome HookStatus × Plugin R
  | claimFile place record, p =>
      match claimFileInto place record p with
      | (.aborted line, p) => (.aborted line, p)
      | (.returned (status, _), p) => (.returned status, p)
  | allSymbolsRead, p => Plugin.allSymbolsRead p
  | cleanup, p => Plugin.cleanup p

end HookCall

/-- **How a process goes on**, from a first state by some calls of hooks that return.  Between the
calls, the linker, the disk and everything else outside of the bridge may change. -/
inductive Runs (p₀ : Plugin R) : List HookCall → Plugin R → Prop
  | start : Runs p₀ [] p₀
  | call {calls : List HookCall} {p p' : Plugin R} {status : HookStatus} (call : HookCall) :
      Runs p₀ calls p → call.run p = (.returned status, p') → Runs p₀ (calls ++ [call]) p'
  | meanwhile {calls : List HookCall} {p : Plugin R} (machine : Machine (BoundLinker R)) :
      Runs p₀ calls p → machine.linker.bindings = p.machine.linker.bindings →
      machine.linker.pinned = p.machine.linker.pinned → Runs p₀ calls { p with machine }

/-! ### Messages -/

/-- The message that shows a text as fatal. -/
def fatalAnswer (text : NulFree) : Answer :=
  ⟨.message MessageLevel.fatal.code BoundLinker.messageFormat text, none⟩

/-- Zero bytes are shown as blanks, and nothing of a text is lost. -/
theorem bytes_messageText (text : String) : (BoundLinker.messageText text).bytes =
    (Bytes.ofString text).map fun b => if b = 0 then 32 else b := by
  have hne : ∀ b ∈ (Bytes.ofString text).map fun b => if b = 0 then 32 else b,
      (b != 0) = true := by
    intro b hb
    obtain ⟨b', -, rfl⟩ := List.mem_map.1 hb
    by_cases hzero : b' = 0
    · rw [if_pos hzero]
      rfl
    · rwa [if_neg hzero, bne_iff_ne]
  exact List.takeWhile_eq_self_iff.2 hne

/-- **How a call ends** of whose work this is the result: it succeeds and shows no message, or it
fails and shows one, which is the whole chain of the failure. -/
def Reports (r : Except Failure α) (before after : List Answer) (status : HookStatus) : Prop :=
  match r with
  | .ok _ => status = .ok ∧ after = before
  | .error failure => status = .failed ∧ ∃ text : NulFree,
      text.bytes = (Bytes.ofString (": ".intercalate failure.texts)).map
        (fun b => if b = 0 then 32 else b) ∧
      after = before ++ [fatalAnswer text]

/-- All that is told is a message, which has no status. -/
theorem Reports.told {r : Except Failure α} {before after : List Answer} {status : HookStatus}
    (h : Reports r before after status) :
    ∃ shown, after = before ++ shown ∧ ∀ a ∈ shown, a.status = none := by
  cases r with
  | ok a => exact ⟨[], by rw [h.2, List.append_nil], by simp⟩
  | error failure =>
      obtain ⟨-, text, -, hafter⟩ := h
      exact ⟨[fatalAnswer text], hafter, by simp [fatalAnswer]⟩

theorem reports_map {r : Except Failure α} {f : α → β} {before after : List Answer}
    {status : HookStatus} : Reports (r.map f) before after status ↔
      Reports r before after status := by
  cases r <;> exact Iff.rfl

/-- The calls that the linker of a process got, and its answers. -/
abbrev answers (p : Plugin (Watched R)) : List Answer := p.machine.linker.raw.answers

/-- A process with a function for messages. -/
abbrev CanShow (p : Plugin R) : Prop := (p.machine.linker.bindings.address .message).isSome = true

/-- **The end of a call**: its result or a message, and nothing else. -/
theorem reports_conclude (r : Except Failure α) (p : Plugin (Watched R)) (hshow : p.CanShow) :
    ∃ raw journal, conclude p.machine.linker.bindings (r, p) =
        (.returned r.toOption, p.told raw journal) ∧
      Reports r p.answers raw.answers (statusOf r.toOption) := by
  cases r with
  | ok a => exact ⟨p.machine.linker.raw, p.machine.journal, rfl, rfl, rfl⟩
  | error failure =>
      obtain ⟨function, journal, hconclude⟩ := conclude_error (α := α) failure p hshow
      exact ⟨_, journal, hconclude, rfl, _, bytes_messageText failure.message, rfl⟩

/-! ### One call -/

/-- What is done with an offered file goes on with the session, or fails before it begins. -/
theorem offer_eq (record : Option InputRecord) : (offer record : Act _ Bool) =
    match inputFile record with
    | .ok input => Session.claimFile (W := Machine (BoundLinker R)) input
    | .error failure => Act.ofResult (.error failure) := by
  funext live
  rw [offer, Act.bind_apply, Act.ofResult]
  cases inputFile record <;> rfl

theorem work_claimFile_apply (place : Option Int) (record : Option InputRecord)
    (live : Live (Machine (BoundLinker R))) : (HookCall.claimFile place record).work live =
      ((offer record live).1.map fun _ => (), (offer record live).2) := by
  rw [HookCall.work, Act.bind_apply]
  rcases offer record live with ⟨_ | _, _⟩ <;> rfl

/-- What is done with a session comes down to some calls of the linker's functions, and no message
is among them. -/
theorem hears_work (call : HookCall) (session : Session) (m : Machine (BoundLinker (Watched R))) :
    ∃ heard, BoundLinker.Hears m.linker heard (call.work ⟨session, m⟩).2.world.linker := by
  have hoperation : ∀ {γ : Type} {act : Act (Live (Traced (Machine (BoundLinker (Watched R))))) γ}
      {act' : Act (Live (Machine (BoundLinker (Watched R)))) γ} (op : Session.Operation),
      Act.Projects (Live.map Traced.world) act act' →
      (act ⟨session, { world := m }⟩).2 = op.after ⟨session, { world := m }⟩ →
      ∃ heard, BoundLinker.Hears m.linker heard (act' ⟨session, m⟩).2.world.linker := by
    intro γ act act' op hprojects hafter
    obtain ⟨cs, hext, -⟩ := Session.keeps_after op ⟨session, { world := m }⟩
    have hplain : act' ⟨session, m⟩ = _ := hprojects ⟨session, { world := m }⟩
    rw [hplain, hafter]
    exact ⟨_, hext.hears⟩
  cases call with
  | claimFile place record =>
      rw [work_claimFile_apply, offer_eq]
      cases inputFile record with
      | error failure => exact ⟨[], .nothing rfl rfl⟩
      | ok input =>
          exact hoperation (.offer input)
            (Session.projects_claimFile Traced.respects_world input) rfl
  | allSymbolsRead =>
      exact hoperation .allSymbolsRead (Session.projects_allSymbolsRead Traced.respects_world) rfl
  | cleanup => exact hoperation .cleanup (Session.projects_cleanup Traced.respects_world) rfl

theorem withSession_eq {p : Plugin R} {session : Session} (hsession : p.session = some session)
    (hook : Hook) (act : Act (Live (Machine (BoundLinker R))) α) :
    withSession hook act p = conclude (act ⟨session, p.machine⟩).2.world.linker.bindings
      ((act ⟨session, p.machine⟩).1,
        ⟨some (act ⟨session, p.machine⟩).2.session, (act ⟨session, p.machine⟩).2.world⟩) := by
  rw [withSession, hsession]
  rfl

/-- What an offer of a file returns, and what is left in the place for the decision. -/
theorem claimFileInto_eq {p : Plugin (Watched R)} {session : Session}
    (hsession : p.session = some session) (place : Option Int) (record : Option InputRecord)
    {r : Except Failure Bool} {live : Live (Machine (BoundLinker (Watched R)))}
    (hoffer : offer record ⟨session, p.machine⟩ = (r, live))
    (hshow : (live.world.linker.bindings.address .message).isSome = true) :
    ∃ raw journal, claimFileInto place record p =
        (.returned (statusOf r.toOption,
          place.map fun _ => if r.toOption = some true then 1 else 0),
          (⟨some live.session, live.world⟩ : Plugin (Watched R)).told raw journal) ∧
      Reports r live.world.linker.raw.answers raw.answers (statusOf r.toOption) := by
  obtain ⟨raw, journal, hconclude, hreports⟩ :=
    reports_conclude r (⟨some live.session, live.world⟩ : Plugin (Watched R)) hshow
  refine ⟨raw, journal, ?_, hreports⟩
  rw [claimFileInto, withSession_eq hsession, hoffer, hconclude]
  rcases r with failure | claimed
  · rfl
  · cases claimed <;> cases place <;> rfl

/-- **One call while there is a session.**  It returns, it succeeds quietly or fails with one
message, and the session goes on unless it was cleaned up. -/
theorem HookCall.run_of_session {p : Plugin (Watched R)} {session : Session} (call : HookCall)
    (hsession : p.session = some session) (hshow : p.CanShow) :
    ∃ status p' heard, call.run p = (.returned status, p') ∧
      (∀ a ∈ heard, a.isMessage = false) ∧
      Reports (call.work ⟨session, p.machine⟩).1 (p.answers ++ heard) p'.answers status ∧
      (p'.session.isSome = true ↔ call ≠ .cleanup) ∧
      p'.machine.linker.bindings = p.machine.linker.bindings := by
  -- whatever is done, the function for messages is still there at the end
  obtain ⟨heard, hheard⟩ := hears_work call session p.machine
  rcases hwork : call.work ⟨session, p.machine⟩ with ⟨r, live⟩
  rw [hwork] at hheard
  have hshow' : (live.world.linker.bindings.address .message).isSome = true := by
    rw [hheard.bindings]
    exact hshow
  cases call with
  | claimFile place record =>
      rcases hoffer : offer record ⟨session, p.machine⟩ with ⟨claimed, live'⟩
      rw [work_claimFile_apply, hoffer] at hwork
      obtain ⟨rfl, rfl⟩ := Prod.mk.inj hwork
      obtain ⟨raw, journal, hinto, hreports⟩ :=
        claimFileInto_eq hsession place record hoffer hshow'
      rw [hheard.answers] at hreports
      refine ⟨statusOf claimed.toOption,
        (⟨some live'.session, live'.world⟩ : Plugin (Watched R)).told raw journal, heard, ?_,
        hheard.silent, reports_map.2 hreports, ⟨fun _ => nofun, fun _ => rfl⟩, hheard.bindings⟩
      rw [run, hinto]
  | allSymbolsRead =>
      have hact : Session.allSymbolsRead ⟨session, p.machine⟩ = (r, live) := hwork
      obtain ⟨raw, journal, hconclude, hreports⟩ :=
        reports_conclude r (⟨some live.session, live.world⟩ : Plugin (Watched R)) hshow'
      rw [answers, hheard.answers] at hreports
      refine ⟨statusOf r.toOption,
        (⟨some live.session, live.world⟩ : Plugin (Watched R)).told raw journal, heard, ?_,
        hheard.silent, hreports, ⟨fun _ => nofun, fun _ => rfl⟩, hheard.bindings⟩
      rw [run, Plugin.allSymbolsRead, withSession_eq hsession, hact, hconclude]
      rfl
  | cleanup =>
      have hact : Session.cleanup ⟨session, p.machine⟩ = (r, live) := hwork
      obtain ⟨raw, journal, hconclude, hreports⟩ :=
        reports_conclude r ({ machine := live.world } : Plugin (Watched R)) hshow'
      rw [answers, hheard.answers] at hreports
      let p' := ({ machine := live.world } : Plugin (Watched R)).told raw journal
      refine ⟨statusOf r.toOption, p'.withLinker { p'.machine.linker with pinned := [] }, heard, ?_,
        hheard.silent, hreports, ⟨nofun, fun hne => absurd rfl hne⟩, hheard.bindings⟩
      rw [run, Plugin.cleanup, hsession]
      simp only [hact, hconclude]
      rfl

theorem withSession_of_none {p : Plugin R} (hnone : p.session = none) (hook : Hook)
    (act : Act (Live (Machine (BoundLinker R))) α) :
    ∃ line p', withSession hook act p = (.aborted line, p') := by
  rw [withSession, hnone]
  exact ⟨_, _, rfl⟩

/-- **One call after the session has ended.**  There is nothing to be cleaned up, and anything else
ends the process. -/
theorem HookCall.run_of_no_session {p : Plugin R} (call : HookCall) (hnone : p.session = none) :
    (call = .cleanup ∧ call.run p = (.returned .ok, p)) ∨
      (call ≠ .cleanup ∧ ∃ line p', call.run p = (.aborted line, p')) := by
  cases call with
  | claimFile place record =>
      obtain ⟨line, p', haborts⟩ := withSession_of_none hnone .claimFile (offer record)
      exact .inr ⟨nofun, line, p', by rw [run, claimFileInto, haborts]⟩
  | allSymbolsRead =>
      obtain ⟨line, p', haborts⟩ := withSession_of_none hnone .allSymbolsRead Session.allSymbolsRead
      exact .inr ⟨nofun, line, p', by rw [run, Plugin.allSymbolsRead, haborts]; rfl⟩
  | cleanup => exact .inl ⟨rfl, by rw [run, Plugin.cleanup, hnone]⟩

/-! ### Runs -/

/-- **What a run keeps**: the functions of the linker, and the session until the first cleanup. -/
theorem Runs.keeps {p₀ p : Plugin (Watched R)} {calls : List HookCall} (h : Runs p₀ calls p)
    (hshow : p₀.CanShow) (hsession : p₀.session.isSome = true) :
    p.machine.linker.bindings = p₀.machine.linker.bindings ∧
      (p.session.isSome = true ↔ HookCall.cleanup ∉ calls) := by
  -- a call returns only if its failure can be shown, so that the functions have to stay as well
  induction h with
  | start => exact ⟨rfl, by simp [hsession]⟩
  | meanwhile machine _ hbindings _ ih => exact ⟨hbindings.trans ih.1, ih.2⟩
  | @call calls p p' status call _ hrun ih =>
      obtain ⟨hbindings, hlive⟩ := ih
      have hcalls : HookCall.cleanup ∉ calls ++ [call] ↔
          HookCall.cleanup ∉ calls ∧ call ≠ .cleanup := by
        rw [List.mem_append, List.mem_singleton, not_or, ne_comm]
      rw [hcalls, ← hlive]
      cases hnow : p.session with
      | none =>
          rcases call.run_of_no_session hnow with ⟨-, hsame⟩ | ⟨-, line, p'', haborts⟩
          · obtain ⟨-, rfl⟩ := Prod.mk.inj (hsame.symm.trans hrun)
            exact ⟨hbindings, by simp [hnow]⟩
          · cases haborts.symm.trans hrun
      | some session =>
          have hshow' : p.CanShow := by
            rw [CanShow, hbindings]
            exact hshow
          obtain ⟨status', p'', heard, hrun', -, -, hgoes, hbindings'⟩ :=
            call.run_of_session hnow hshow'
          obtain ⟨-, rfl⟩ := Prod.mk.inj (hrun'.symm.trans hrun)
          exact ⟨hbindings'.trans hbindings, by simpa using hgoes⟩

/-- After a loading that succeeded, there is a session, and the linker has its functions. -/
theorem loaded_of_ok {entries : List Entry} {p : Plugin R}
    (hmessage : (lastFunction? entries .message).isSome = true)
    (h : (load (some entries) p).1 = .returned .ok) :
    (load (some entries) p).2.session.isSome = true ∧
      (load (some entries) p).2.machine.linker.bindings =
        (TransferVector.read entries).bindings := by
  obtain ⟨r, p₁, raw, journal, -, -, hbegins, hload, -⟩ := load_cases entries p hmessage
  rw [hload] at h ⊢
  cases hbegins with
  | refused _ hr _ _ _ =>
      rw [hr] at h
      cases h
  | registered _ _ _ _ _ hsession hlinker =>
      have hbindings := congrArg BoundLinker.bindings hlinker
      exact ⟨hsession, hbindings⟩

/-- **After a loading that succeeded**, messages can be shown, and the session lives until the first
cleanup. -/
theorem Runs.of_loaded {entries : List Entry} {p₀ p : Plugin (Watched R)} {calls : List HookCall}
    (hruns : Runs (load (some entries) p₀).2 calls p)
    (hmessage : (lastFunction? entries .message).isSome = true)
    (hloaded : (load (some entries) p₀).1 = .returned .ok) :
    p.CanShow ∧ (p.session.isSome = true ↔ HookCall.cleanup ∉ calls) := by
  obtain ⟨hsession, hbindings⟩ := loaded_of_ok hmessage hloaded
  have hshow : (load (some entries) p₀).2.CanShow := by
    rw [CanShow, hbindings, TransferVector.address_read (by decide)]
    exact hmessage
  obtain ⟨hsame, hlive⟩ := hruns.keeps hshow hsession
  refine ⟨?_, hlive⟩
  rw [CanShow, hsame]
  exact hshow

/-- A process on an empty disk whose linker accepts everything. -/
def willingProcess : Plugin (Watched RecordedLinker) where
  machine :=
    { disk := ⟨⟨[]⟩, []⟩
      launcher := fun disk _ _ => (.error .noEntry, disk)
      linker := { raw := { raw := {} } }
      journal := { subscriber := .nobody } }

end LtoBridge.Plugin
