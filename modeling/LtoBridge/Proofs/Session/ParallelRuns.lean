/-
**Runs side by side.**

The linker does the same with two sessions, turn by turn.  They have claimed the same files, but for
the numbers of the copies, and so do they after every turn: what is seen of the second session is
what is seen of the first one, with new names in place of the old ones.

Main definitions:

* `LtoBridge.Renumbering.Indifferent`: a turn in which nothing depends on the numbers of copies;
* `LtoBridge.Renumbering.Parallel`: two sessions, on their machines, that are the same but for these
  numbers;
* `LtoBridge.Renumbering.SeenAlike`: what is seen of two sessions in a turn.

Main results:

* `LtoBridge.Renumbering.Parallel.step`: **one turn is seen alike**;
* `LtoBridge.Renumbering.Parallel.seenAlike`: every turn of a run is seen alike.
-/

import LtoBridge.Proofs.Session.RenumberedSessions
import LtoBridge.Proofs.Session.Teardown
import LtoBridge.Proofs.Session.Turns

set_option autoImplicit false

namespace LtoBridge

namespace Session

/-! ### Numbers that are used up -/

section

variable {L : Type} [Linker L] {path : Path} {directory : Location} {input : InputFile}
  {s s' : Live (Traced (Machine L))} {r : Except Failure Bool} {cs : List (Call (Machine L))}

/-- The number of the next copy goes up by one if a member is offered. -/
theorem Handled.copied_le (h : Handled input path directory s r cs s') :
    s'.session.copied ≤ s.session.copied + if input.isMember then 1 else 0 := by
  have henter : ∀ (v : Verdict) (session : Session) (kept : Path),
      (v.enter session input kept).copied = session.copied := by
    intro v session kept
    cases v <;> rfl
  cases h with
  | file found hmember hfound hdecided =>
      rw [hdecided.session, henter]
      omega
  | unplaced hmember hunplaced =>
      rw [hunplaced.session, hmember]
      exact Nat.le_refl _
  | stuck hmember hspot hstuck =>
      rw [hstuck.session, hmember]
      exact Nat.le_refl _
  | member bytes readPlan hmember hspot hbytes hdecided =>
      rw [hdecided.session, henter, hmember]
      exact Nat.le_refl _

/-- A cleanup does not make it go up. -/
theorem copied_cleanup_le (s : Live (Traced (Machine L))) :
    (cleanup s).2.session.copied ≤ s.session.copied := by
  cases hdirectory : s.session.temporaryDirectory with
  | none => exact Nat.le_of_eq (congrArg Session.copied (inert_cleanup hdirectory).session)
  | some path =>
      obtain ⟨cs, -, hteardown⟩ := yields_cleanup_teardown hdirectory
      cases hteardown with
      | stopped before tree hr hcalls hbefore htree hsession => simp [hsession]
      | kept hverbose hr hcalls hsession => simp [hsession, closed]
      | removed before arguments tree hverbose hcalls hbefore harguments htree hr hsession =>
          simp [hsession, closed]

/-- It goes up with the members that are offered. -/
theorem copied_after_le (op : Operation) (hphase : s.session.temporaryDirectory = some path ∧
    Hosts s.world.world.disk path directory ∨ s.session.IsOver) :
    (op.after s).session.copied ≤ s.session.copied + if op.offersMember then 1 else 0 := by
  cases op with
  | offer input =>
      rcases hphase with ⟨hdirectory, hhosts⟩ | hover
      · obtain ⟨cs, -, hhandled⟩ := yields_claimFile_handled hdirectory hhosts input
        exact hhandled.copied_le
      · have hsame := congrArg Session.copied (inert_offer hover input).session
        omega
  | allSymbolsRead =>
      obtain ⟨cs, -, -, registry, outputs, passThrough, -, hsession⟩ :=
        yields_allSymbolsRead_settling s
      have hcopied := congrArg Session.copied hsession
      exact Nat.le_of_eq hcopied
  | release => exact Nat.le_refl _
  | cleanup => exact copied_cleanup_le s

end

end Session

/-! ### One operation -/

namespace Comparison

open Session

variable {L : Type} [Linker L] (κ : Comparison L)

/-- Two sessions have got as far as each other: both work in the directory, or both are over. -/
inductive Accompany (s s' : Live (Traced (Machine L))) : Prop
  | working (h : κ.Lives κ.σ.IsLive κ.σ.Hosts s s')
  | ended (h : κ.Lives IsOver (fun _ => True) s s')

variable {κ} {s s' : Live (Traced (Machine L))}

/-- **An operation is carried out alike.** -/
theorem Accompany.operate (h : κ.Accompany s s') (op : Operation)
    (hoffered : ∀ input, op = .offer input → κ.σ.rename input.path = input.path)
    (hshort : op.offersMember = true → κ.σ.Short s.session.copied)
    (hpast : op = .allSymbolsRead → ∀ file, s.session.options.resolutionFile = some file →
      κ.σ.LeadsPast s.world.world.disk file) :
    Act.Matches κ.σ.renameFailure Eq (op.result s) (op.result s') ∧
      κ.Accompany (op.after s) (op.after s') := by
  have hsome : ∀ {x x' : Except Failure Bool}, Act.Matches κ.σ.renameFailure Eq x x' →
      Act.Matches κ.σ.renameFailure Eq (x.map some) (x'.map some) :=
    fun hx => hx.map fun _ _ => congrArg some
  have hnone : ∀ {x x' : Except Failure Unit}, Act.Matches κ.σ.renameFailure Eq x x' →
      Act.Matches κ.σ.renameFailure Eq (x.map fun _ => (none : Option Bool))
        (x'.map fun _ => none) :=
    fun hx => hx.map fun _ _ _ => rfl
  cases h with
  | working h =>
      cases op with
      | offer input =>
          obtain ⟨hresult, hend⟩ := h.claimFile hshort (hoffered input rfl)
          exact ⟨hsome hresult, .working hend⟩
      | allSymbolsRead =>
          obtain ⟨hresult, hend⟩ := h.allSymbolsRead_of_live (hpast rfl)
          exact ⟨hnone hresult, .working hend⟩
      | release =>
          obtain ⟨hresult, hend⟩ := accords_releaseSymbols (isAboutDirectory_isLive κ.σ) s s' h
          exact ⟨hnone hresult, .working hend⟩
      | cleanup =>
          obtain ⟨hresult, hend⟩ := h.cleanup
          exact ⟨hnone hresult, .ended hend⟩
  | ended h =>
      cases op with
      | offer input =>
          obtain ⟨hresult, hend⟩ := accords_claimFile_of_over input s s' h
          exact ⟨hsome hresult, .ended hend⟩
      | allSymbolsRead =>
          obtain ⟨hresult, hend⟩ := h.allSymbolsRead_of_over (hpast rfl)
          exact ⟨hnone hresult, .ended hend⟩
      | release =>
          obtain ⟨hresult, hend⟩ := accords_releaseSymbols isAboutDirectory_isOver s s' h
          exact ⟨hnone hresult, .ended hend⟩
      | cleanup =>
          obtain ⟨hresult, hend⟩ := accords_cleanup_of_over s s' h
          exact ⟨hnone hresult, .ended hend⟩

end Comparison

namespace Renumbering

open Session

variable {L : Type} [Linker L] (σ : Renumbering) (Q : L → L → Prop)

/-! ### Sessions side by side -/

/-- **Two sessions, on their machines, that are the same but for the numbers of the copies.**  Both
work in the directory, or both are over. -/
structure Parallel (s s' : Live (Traced (Machine L))) : Prop where
  session : σ.Sessions s.session s'.session
  machines : σ.Machines Q s.world.world s'.world.world
  phase : σ.IsLive s.session ∧ σ.Hosts s.world.world.disk ∨ s.session.IsOver

/-- **In a turn nothing depends on the numbers of copies**: neither what others do, and they leave
the session its directory, nor the name of a file that is offered. -/
structure Indifferent (turn : Turn L) : Prop where
  machines : ∀ m m', σ.Machines Q m m' → σ.Machines Q (turn.meanwhile m) (turn.meanwhile m')
  hosts : ∀ m, σ.Hosts m.disk → σ.Hosts (turn.meanwhile m).disk
  offered : ∀ input, turn.operation = .offer input → σ.rename input.path = input.path

/-- **Where resolutions are written in a turn does not depend on the numbers of copies.** -/
def WritesPast (turn : Turn L) (s : Live (Traced (Machine L))) : Prop :=
  turn.operation = .allSymbolsRead → ∀ file, s.session.options.resolutionFile = some file →
    σ.LeadsPast (turn.start s).world.world.disk file

/-- **A turn is seen alike in two sessions**: it comes out with the same result and with calls that
ask for the same, and leaves sessions and disks that hold the same, always up to the numbers of the
copies. -/
structure SeenAlike (turn : Turn L) (s s' : Live (Traced (Machine L))) : Prop where
  result : turn.result s' = σ.renameResult (turn.result s)
  calls : List.Forall₂ σ.AskAlike ((turn.calls s).map (·.effect)) ((turn.calls s').map (·.effect))
  session : σ.Sessions (turn.after s).session (turn.after s').session
  disks : σ.Disks (turn.after s).world.world.disk (turn.after s').world.world.disk

variable {σ Q} {turn : Turn L} {s s' : Live (Traced (Machine L))}

namespace Parallel

/-- **One turn is seen alike**, and leaves sessions side by side. -/
theorem step (h : σ.Parallel Q s s') (hlinkers : σ.LinkersAlike Q)
    (hturn : σ.Indifferent Q turn) (hpast : σ.WritesPast turn s)
    (hshort : turn.operation.offersMember = true → σ.Short s.session.copied) :
    σ.SeenAlike turn s s' ∧ σ.Parallel Q (turn.after s) (turn.after s') := by
  let κ : Comparison L := ⟨σ, Q, hlinkers, (turn.start s).world, (turn.start s').world⟩
  have hquiet : σ.Machines Q s.world.world.quiet s'.world.world.quiet := { h.machines with }
  have hmachines : σ.Machines Q (turn.start s).world.world (turn.start s').world.world :=
    { hturn.machines _ _ hquiet with }
  -- nothing has been called yet
  have hlives : ∀ {S : Session → Prop} {P : Disk → Prop}, S s.session →
      P (turn.start s).world.world.disk → κ.Lives S P (turn.start s) (turn.start s') :=
    fun hS hP => ⟨h.session, hS, { hmachines with readPlan := rfl, disk := hP },
      [], [], .refl _, .refl _, .nil⟩
  have hstart : κ.Accompany (turn.start s) (turn.start s') := by
    rcases h.phase with ⟨hlive, hhosts⟩ | hover
    · exact .working (hlives hlive (hturn.hosts s.world.world.quiet hhosts))
    · exact .ended (hlives hover trivial)
  obtain ⟨hresult, hend⟩ := hstart.operate turn.operation hturn.offered hshort hpast
  have hseen : ∀ {S : Session → Prop} {P : Disk → Prop},
      κ.Lives S P (turn.after s) (turn.after s') → σ.SeenAlike turn s s' := by
    intro S P hlives
    obtain ⟨cs, cs', hext, hext', halike⟩ := hlives.world.calls
    refine ⟨hresult.eq, ?_, hlives.session, hlives.world.ready.disks⟩
    rw [Turn.calls, Turn.calls, turn.operation.calls_eq hext, turn.operation.calls_eq hext']
    exact halike
  cases hend with
  | working hend =>
      exact ⟨hseen hend, hend.session, hend.world.ready.toMachines,
        .inl ⟨hend.known, hend.world.ready.disk⟩⟩
  | ended hend =>
      exact ⟨hseen hend, hend.session, hend.world.ready.toMachines, .inr hend.known⟩

/-- **Sessions side by side stay so**, turn by turn. -/
theorem play {turns : List (Turn L)} (h : σ.Parallel Q s s') (hlinkers : σ.LinkersAlike Q)
    (hturns : ∀ turn ∈ turns, σ.Indifferent Q turn)
    (hpast : ∀ earlier turn later, turns = earlier ++ turn :: later →
      σ.WritesPast turn (Session.play s earlier))
    (hshort : ∀ n < s.session.copied + memberOffers turns, σ.Short n) :
    σ.Parallel Q (Session.play s turns) (Session.play s' turns) ∧
      (Session.play s turns).session.copied ≤ s.session.copied + memberOffers turns := by
  -- on the turns, from wherever the sessions are; each turn may use up one number
  induction turns generalizing s s' with
  | nil => exact ⟨h, Nat.le_refl _⟩
  | cons turn turns ih =>
      have hindifferent := hturns turn List.mem_cons_self
      have hoffers : memberOffers (turn :: turns) =
          memberOffers turns + if turn.operation.offersMember then 1 else 0 := List.countP_cons
      have hcopied : (turn.after s).session.copied ≤
          s.session.copied + if turn.operation.offersMember then 1 else 0 :=
        copied_after_le (s := turn.start s) _ (h.phase.imp_left fun hlive =>
          ⟨hlive.1, hindifferent.hosts s.world.world.quiet hlive.2⟩)
      obtain ⟨-, hafter⟩ := h.step hlinkers hindifferent (hpast [] turn turns rfl) fun hmember => by
        refine hshort _ ?_
        rw [hoffers, if_pos hmember]
        omega
      obtain ⟨hend, hle⟩ := ih hafter (fun t ht => hturns t (List.mem_cons_of_mem _ ht))
        (fun earlier t later hsplit => hpast (turn :: earlier) t later (by rw [hsplit]; rfl))
        (fun n hn => hshort n (by omega))
      exact ⟨hend, by
        change (Session.play (turn.after s) turns).session.copied ≤ _
        omega⟩

/-- **Every turn of a run is seen alike.** -/
theorem seenAlike {turns : List (Turn L)} (h : σ.Parallel Q s s') (hlinkers : σ.LinkersAlike Q)
    (hturns : ∀ turn ∈ turns, σ.Indifferent Q turn)
    (hpast : ∀ earlier turn later, turns = earlier ++ turn :: later →
      σ.WritesPast turn (Session.play s earlier))
    (hshort : ∀ n < s.session.copied + memberOffers turns, σ.Short n)
    {earlier later : List (Turn L)} (hsplit : turns = earlier ++ turn :: later) :
    σ.SeenAlike turn (Session.play s earlier) (Session.play s' earlier) := by
  subst hsplit
  have hoffers : memberOffers (earlier ++ turn :: later) = memberOffers earlier +
      (memberOffers later + if turn.operation.offersMember then 1 else 0) := by
    simp only [memberOffers, List.countP_append, List.countP_cons]
  obtain ⟨hthen, hcopied⟩ := h.play hlinkers
    (fun t ht => hturns t (List.mem_append_left _ ht))
    (fun before t after hbefore => hpast before t (after ++ turn :: later) (by simp [hbefore]))
    (fun n hn => hshort n (by omega))
  have hindifferent := hturns turn (by simp)
  refine (hthen.step hlinkers hindifferent (hpast earlier turn later rfl) fun hmember => ?_).1
  refine hshort _ ?_
  rw [hoffers, if_pos hmember]
  omega

end Parallel

end Renumbering

end LtoBridge
