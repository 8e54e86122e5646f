/-
**Turn by turn.**

The linker does one thing after the other with a session.  Before each of them others may do
something with the machine.  What is reported goes to the journal, and nobody acts on it: two
sessions that differ in nothing but the calls and the reports so far go on in the same way.

Main definitions:

* `LtoBridge.Session.Turn`, `LtoBridge.Session.play`: what is done with a session, and what happens
  to its machine meanwhile;
* `LtoBridge.Live.quiet`: a session without the calls and the reports so far;
* `LtoBridge.Session.Turn.SeenSame`: a turn is the same in two sessions.

Main results:

* `LtoBridge.Machine.respects_quiet`: no call depends on reports;
* `LtoBridge.Session.Operation.seenSame_quiet`: nor does an operation of a session;
* `LtoBridge.Session.seenSame_play`: **every turn is the same** with other calls and reports before.
-/

import LtoBridge.Proofs.Session.History
import LtoBridge.Proofs.Session.Surroundings

set_option autoImplicit false

namespace LtoBridge

/-! ### Without reports -/

section

variable {L : Type}

/-- **The machine with an empty journal**, where nobody takes reports. -/
def Machine.quiet (m : Machine L) : Machine L := { m with journal := { subscriber := .nobody } }

/-- A call, with an empty journal. -/
abbrev Call.quiet (c : Call (Machine L)) : Call (Machine L) := c.map Machine.quiet

/-- **A session without the calls and the reports so far.** -/
def Live.quiet (s : Live (Traced (Machine L))) : Live (Traced (Machine L)) :=
  ⟨s.session, { world := s.world.world.quiet }⟩

/-- Only the calls and the reports are left out. -/
theorem Live.quiet_eq_iff {s s' : Live (Traced (Machine L))} :
    s'.quiet = s.quiet ↔
      s'.session = s.session ∧ s'.world.world.quiet = s.world.world.quiet := by
  constructor
  · intro h
    have hsession : s'.quiet.session = s.quiet.session := congrArg Live.session h
    exact ⟨hsession, congrArg (·.world.world) h⟩
  · rintro ⟨hsession, hworld⟩
    simp only [quiet, hsession, hworld]

namespace Machine

theorem onDisk_quiet (f : Disk → Except OsError Disk) (m : Machine L) :
    onDisk f m.quiet = ((onDisk f m).1, (onDisk f m).2.quiet) := by
  simp only [onDisk, quiet]
  cases f m.disk <;> rfl

theorem openFile_quiet (m : Machine L) (path : Path) :
    m.quiet.openFile path = (m.openFile path).map (Prod.map id quiet) := by
  change (m.disk.find path >>= _) = _
  unfold openFile
  cases m.disk.find path <;> rfl

variable [Linker L]

/-- **No call depends on reports.** -/
theorem respects_quiet : Platform.Respects (quiet (L := L)) where
  currentDirectory _ := rfl
  makeTemporaryDirectory parent stem m := by
    simp only [Platform.makeTemporaryDirectory, quiet]
    cases m.disk.makeTemporary parent stem <;> rfl
  removeTree _ := onDisk_quiet _
  createFile _ := onDisk_quiet _
  appendFile _ _ := onDisk_quiet _
  removeFile _ := onDisk_quiet _
  readFile _ _ := rfl
  openFile path m := by
    simp only [Platform.openFile, openFile_quiet]
    cases m.openFile path <;> rfl
  closeFile _ _ := rfl
  fileSize _ _ := rfl
  readAt _ _ _ _ := rfl
  mapFile _ _ _ := rfl
  launch _ _ _ := rfl
  addSymbols _ _ _ := rfl
  getSymbols _ _ _ := rfl
  addInputFile _ _ := rfl
  addInputLibrary _ _ := rfl
  releaseSymbols _ := rfl
  report _ _ := rfl

end Machine

end

namespace Session

/-! ### Operations -/

/-- **How an operation comes out**; an offer says whether the file is claimed. -/
def Operation.result {W : Type} [Platform W] (op : Operation) (s : Live W) :
    Except Failure (Option Bool) :=
  match op with
  | .offer input => (claimFile input s).1.map some
  | .allSymbolsRead => (Session.allSymbolsRead s).1.map fun _ => none
  | .release => (releaseSymbols s).1.map fun _ => none
  | .cleanup => (Session.cleanup s).1.map fun _ => none

/-- Is a member of an archive offered? -/
def Operation.offersMember : Operation → Bool
  | .offer input => input.isMember
  | _ => false

/-- An operation does the same in other surroundings. -/
theorem Operation.map {V W : Type} [Platform V] [Platform W] {e : V → W}
    (h : Platform.Respects e) (op : Operation) (s : Live V) :
    op.result (s.map e) = op.result s ∧ op.after (s.map e) = (op.after s).map e := by
  cases op with
  | offer input => simp only [result, after, projects_claimFile h input s, and_self]
  | allSymbolsRead => simp only [result, after, projects_allSymbolsRead h s, and_self]
  | release => simp only [result, after, projects_releaseSymbols h s, and_self]
  | cleanup => simp only [result, after, projects_cleanup h s, and_self]

variable {L : Type} [Linker L]

/-- **An operation is the same in two sessions**: it comes out the same way and makes the same
calls, on machines that are the same but for reports, and leaves the same. -/
structure Operation.SeenSame (op : Operation) (s s' : Live (Traced (Machine L))) : Prop where
  result : op.result s' = op.result s
  calls : (op.calls s').map Call.quiet = (op.calls s).map Call.quiet
  session : (op.after s').session = (op.after s).session
  machine : (op.after s').world.world.quiet = (op.after s).world.world.quiet

namespace Operation.SeenSame

variable {op : Operation} {s s' s'' : Live (Traced (Machine L))}

theorem symm (h : op.SeenSame s s') : op.SeenSame s' s :=
  ⟨h.result.symm, h.calls.symm, h.session.symm, h.machine.symm⟩

theorem trans (h : op.SeenSame s s') (h' : op.SeenSame s' s'') : op.SeenSame s s'' :=
  ⟨h'.result.trans h.result, h'.calls.trans h.calls, h'.session.trans h.session,
    h'.machine.trans h.machine⟩

theorem after (h : op.SeenSame s s') : (op.after s').quiet = (op.after s).quiet :=
  Live.quiet_eq_iff.2 ⟨h.session, h.machine⟩

end Operation.SeenSame

/-- **An operation does not depend on the calls and the reports before it.** -/
theorem Operation.seenSame_quiet (op : Operation) (s : Live (Traced (Machine L))) :
    op.SeenSame s s.quiet := by
  let plain := Traced.through (Machine.quiet (L := L)) []
  let behind := Traced.through (Machine.quiet (L := L)) (s.world.calls.map Call.quiet)
  -- the calls before are either seen as they are, or put back
  have hsame : s.quiet.map behind = s.map plain := by
    simp only [Live.map, Live.quiet, behind, plain, Traced.through, List.map_nil, List.append_nil,
      List.nil_append]
    rfl
  obtain ⟨hresult, hafter⟩ := op.map Machine.respects_quiet.through s (e := plain)
  obtain ⟨hresult', hafter'⟩ := op.map Machine.respects_quiet.through s.quiet (e := behind)
  rw [hsame] at hresult' hafter'
  have hend : (op.after s.quiet).map behind = (op.after s).map plain := hafter'.symm.trans hafter
  have hcalls : s.world.calls.map Call.quiet ++ (op.after s.quiet).world.calls.map Call.quiet =
      (op.after s).world.calls.map Call.quiet := congrArg (·.world.calls) hend
  have hsession : ((op.after s.quiet).map behind).session = ((op.after s).map plain).session :=
    congrArg Live.session hend
  refine ⟨hresult'.symm.trans hresult, ?_, hsession, congrArg (·.world.world) hend⟩
  rw [calls, calls, List.map_drop, List.map_drop, ← hcalls]
  exact (List.drop_left' (List.length_map _)).symm

/-! ### Turns -/

/-- **A turn**: others do something with the machine, reads are about to be answered in some way,
and an operation is carried out. -/
structure Turn (L : Type) where
  meanwhile : Machine L → Machine L := id
  reads : List ReadStep := []
  operation : Operation

namespace Turn

omit [Linker L] in
/-- The session when the operation begins.  What others do has nothing to do with reports. -/
def start (turn : Turn L) (s : Live (Traced (Machine L))) : Live (Traced (Machine L)) :=
  let journal := s.world.world.journal
  let m := { turn.meanwhile s.world.world.quiet with readPlan := turn.reads, journal }
  { s with world := { s.world with world := m } }

/-- The session after the turn. -/
def after (turn : Turn L) (s : Live (Traced (Machine L))) : Live (Traced (Machine L)) :=
  turn.operation.after (turn.start s)

/-- The calls of the operation. -/
def calls (turn : Turn L) (s : Live (Traced (Machine L))) : List (Call (Machine L)) :=
  turn.operation.calls (turn.start s)

/-- How the operation comes out. -/
def result (turn : Turn L) (s : Live (Traced (Machine L))) : Except Failure (Option Bool) :=
  turn.operation.result (turn.start s)

/-- **A turn is the same in two sessions**, in its result, its calls and what it leaves. -/
def SeenSame (turn : Turn L) (s s' : Live (Traced (Machine L))) : Prop :=
  turn.operation.SeenSame (turn.start s) (turn.start s')

variable {s s' : Live (Traced (Machine L))}

/-- **A turn does not depend on the calls and the reports before it.** -/
theorem seenSame_of_quiet (turn : Turn L) (h : s'.quiet = s.quiet) : turn.SeenSame s s' := by
  have hstart : (turn.start s').quiet = (turn.start s).quiet := by
    change (turn.start s'.quiet).quiet = (turn.start s.quiet).quiet
    rw [h]
  have hquiet := turn.operation.seenSame_quiet (turn.start s')
  rw [hstart] at hquiet
  exact (turn.operation.seenSame_quiet (turn.start s)).trans hquiet.symm

end Turn

/-- How often members of archives are offered. -/
def memberOffers {L : Type} (turns : List (Turn L)) : Nat := turns.countP (·.operation.offersMember)

/-- **The session after some turns.** -/
def play (s : Live (Traced (Machine L))) (turns : List (Turn L)) : Live (Traced (Machine L)) :=
  turns.foldl (fun s turn => turn.after s) s

variable {s s' : Live (Traced (Machine L))}

/-- Turn by turn, sessions go on in the same way. -/
theorem quiet_play (h : s'.quiet = s.quiet) (turns : List (Turn L)) :
    (play s' turns).quiet = (play s turns).quiet := by
  induction turns generalizing s s' with
  | nil => exact h
  | cons turn turns ih => exact ih (turn.seenSame_of_quiet h).after

/-- **Every turn is the same** in sessions that only differ in the calls and the reports so far. -/
theorem seenSame_play (h : s'.quiet = s.quiet) (turns : List (Turn L)) (turn : Turn L) :
    turn.SeenSame (play s turns) (play s' turns) :=
  turn.seenSame_of_quiet (quiet_play h turns)

end Session

end LtoBridge
