/-
**Steps of a session.**

A session works on its own state and, through its surroundings, on everything else.  These are the
rules for the steps that do the one or the other.

Main results:

* `LtoBridge.Session.yields_outside_iff`, `LtoBridge.Session.performs_outside_iff`: a step of the
  surroundings leaves the state of the session alone.
-/

import LtoBridge.Proofs.Script

set_option autoImplicit false

namespace LtoBridge.Session

variable {W α β : Type} [Platform W] {s : Live (Traced W)} {steps : List Step}

theorem yields_outside_iff {act : Act (Traced W) α}
    {Q : Except Failure α → List (Call W) → Live (Traced W) → Prop} :
    (outside act).Yields s Q ↔ act.Yields s.world fun r cs t => Q r cs { s with world := t } :=
  Iff.rfl

theorem performs_outside_iff {act : Act (Traced W) α}
    {Q : Except Failure α → List (Call W) → Live (Traced W) → Prop} :
    (outside act).Performs s steps Q ↔
      act.Performs s.world steps fun r cs t => Q r cs { s with world := t } :=
  Iff.rfl

/-- What a step of the surroundings gives and calls, it gives and calls as a step of the session. -/
theorem yields_outside {act : Act (Traced W) α}
    {Q : Except Failure α → List (Call W) → Traced W → Prop} (h : act.Yields s.world Q) :
    (outside act).Yields s fun r cs s' => Q r cs s'.world ∧ s'.session = s.session :=
  yields_outside_iff.2 (h.mono fun _ _ _ hpost => ⟨hpost, rfl⟩)

theorem yields_view_bind_iff {f : Session → α} {g : α → Act (Live (Traced W)) β}
    {Q : Except Failure β → List (Call W) → Live (Traced W) → Prop} :
    (view f >>= g).Yields s Q ↔ (g (f s.session)).Yields s Q :=
  Iff.rfl

theorem yields_update_bind_iff {f : Session → Session} {g : Unit → Act (Live (Traced W)) β}
    {Q : Except Failure β → List (Call W) → Live (Traced W) → Prop} :
    (update f >>= g).Yields s Q ↔ (g ()).Yields { s with session := f s.session } Q :=
  Iff.rfl

theorem performs_view_bind_iff {f : Session → α} {g : α → Act (Live (Traced W)) β}
    {Q : Except Failure β → List (Call W) → Live (Traced W) → Prop} :
    (view f >>= g).Performs s steps Q ↔ (g (f s.session)).Performs s steps Q :=
  Iff.rfl

theorem performs_update_bind_iff {f : Session → Session} {g : Unit → Act (Live (Traced W)) β}
    {Q : Except Failure β → List (Call W) → Live (Traced W) → Prop} :
    (update f >>= g).Performs s steps Q ↔
      (g ()).Performs { s with session := f s.session } steps Q :=
  Iff.rfl

theorem yields_update (f : Session → Session) :
    (update f).Yields s fun r cs s' =>
      r = .ok () ∧ cs = [] ∧ s' = { s with session := f s.session } :=
  ⟨[], .refl _, rfl, rfl, rfl⟩

theorem performs_update (f : Session → Session) :
    (update f).Performs s [] fun _ _ s' => s' = { s with session := f s.session } :=
  ⟨[], .refl _, .done, rfl⟩

omit [Platform W] in
theorem directory_apply (s : Live W) :
    (directory : Act (Live W) Path) s =
      match s.session.temporaryDirectory with
      | some path => (.ok path, s)
      | none => (.error ⟨.sessionOver, []⟩, s) := by
  have hview : (directory : Act (Live W) Path) s =
      (match s.session.temporaryDirectory with
        | some path => pure path
        | none => Act.fail .sessionOver : Act (Live W) Path) s := rfl
  rw [hview]
  cases s.session.temporaryDirectory <;> rfl

/-- The directory of a session that is not over. -/
theorem yields_directory_bind_iff {path : Path} {g : Path → Act (Live (Traced W)) β}
    {Q : Except Failure β → List (Call W) → Live (Traced W) → Prop}
    (h : s.session.temporaryDirectory = some path) :
    (directory >>= g).Yields s Q ↔ (g path).Yields s Q := by
  have hbind : (directory >>= g) s = g path s := by rw [Act.bind_apply, directory_apply, h]
  unfold Act.Yields
  rw [hbind]

/-- A session that is over has no directory. -/
theorem yields_directory_bind_of_none {g : Path → Act (Live (Traced W)) β}
    {Q : Except Failure β → List (Call W) → Live (Traced W) → Prop}
    (h : s.session.temporaryDirectory = none) (hQ : Q (.error ⟨.sessionOver, []⟩) [] s) :
    (directory >>= g).Yields s Q := by
  have hbind : (directory >>= g) s = (.error ⟨.sessionOver, []⟩, s) := by
    rw [Act.bind_apply, directory_apply, h]
  refine ⟨[], ?_, ?_⟩ <;> rw [hbind]
  · exact .refl _
  · exact hQ

/-- A report changes nothing. -/
theorem performs_tell (span : Span) (notice : Notice) :
    (tell span notice).Performs s [] fun _ _ s' => s'.session = s.session :=
  performs_outside_iff.2 (.say rfl)

/-- The symbols are released here and with the linker. -/
theorem yields_releaseSymbols :
    releaseSymbols.Yields s fun r cs s' =>
      r = .ok () ∧ cs = [⟨.releaseSymbols, s.world.world⟩] ∧
        s'.session = { s.session with registry := s.session.registry.release } :=
  ⟨[⟨.releaseSymbols, s.world.world⟩], .single _ _, rfl, rfl, rfl⟩

end LtoBridge.Session
