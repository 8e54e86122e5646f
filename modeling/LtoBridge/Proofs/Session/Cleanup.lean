/-
**Cleaning up.**

A cleanup either comes to the point where all symbols are released and the session is reset, or it
fails before that and leaves the registry as it is.

Main definitions:

* `LtoBridge.Effect.IsRelease`: the calls that a cleanup makes.

Main results:

* `LtoBridge.Session.yields_cleanup`: **a cleanup empties the registry or leaves it alone**.
-/

import LtoBridge.Proofs.Session.AllSymbolsRead
import LtoBridge.Proofs.Session.Claiming

set_option autoImplicit false

namespace LtoBridge

/-- Is a call not for the linker, unless it releases the symbols? -/
def Effect.IsRelease (e : Effect) : Prop := e.IsOwn ∨ e = .releaseSymbols

variable {W : Type}

theorem released_of_own {cs : List (Call W)} (hcs : ∀ c ∈ cs, c.effect.IsOwn) :
    released cs = false := by
  refine released_eq_false_iff.2 fun c hc hrelease => ?_
  have hown := hcs c hc
  rw [hrelease] at hown
  cases hown

variable [Platform W]

namespace Session

variable {s : Live (Traced W)}

/-- What happens to a registry that is cleaned up, as far as it gets. -/
def Cleans (r : Registry) (cs : List (Call W)) (r' : Registry) : Prop :=
  (∀ c ∈ cs, c.effect.IsRelease) ∧ (r' = {} ∨ r' = r ∧ released cs = false)

omit [Platform W] in
theorem Cleans.append_own {r r' : Registry} {cs cs' : List (Call W)} (h : Cleans r cs r')
    (hcs' : ∀ c ∈ cs', c.effect.IsOwn) : Cleans r (cs ++ cs') r' := by
  obtain ⟨hcs, hr'⟩ := h
  refine ⟨fun c hc => (List.mem_append.1 hc).elim (hcs c) (fun hc => .inl (hcs' c hc)), ?_⟩
  rwa [released_append, released_of_own hcs', Bool.or_false]

theorem harmless_deleteArguments (directory : Path) :
    Harmless (W := W) (deleteArguments directory) := by
  have hremove : Act.Only Effect.IsOwn (Act.answer
      (Platform.removeFile (W := Traced W) (directory.join Backend.argumentsName))) :=
    .answer (fun _ => rfl) rfl
  refine (harmless_outside hremove).bind fun answer => ?_
  split
  · exact .pure ()
  · exact .pure ()
  · exact .within _ (.fail _)

theorem harmless_removeTree (directory : Path) :
    Harmless (outside (Act.answer (Platform.removeTree (W := Traced W) directory))) :=
  harmless_outside (.answer (fun _ => rfl) rfl)

theorem harmless_abandon (directory : Path) : Harmless (W := W) (abandon directory) :=
  (harmless_removeTree directory).bind fun _ => .pure ()

/-- What the session made is deleted. -/
theorem yields_clear (directory : Path) :
    (clear directory).Yields s fun _ cs s' => Cleans s.session.registry cs s'.session.registry := by
  refine yields_view_bind_iff.2 ((Harmless.forEach harmless_delete _ _).bind ?_ ?_)
  · rintro _ cs s' ⟨hcs, hs'⟩
    refine yields_releaseSymbols.bind ?_ ?_
    · rintro _ _ s'' ⟨-, rfl, hs''⟩
      refine yields_update_bind_iff.2 (yields_view_bind_iff.2 ?_)
      have hdelete : Harmless (W := W) (if s''.session.reset.options.verbose then pure ()
          else deleteArguments directory) := by
        split
        · exact .pure ()
        · exact harmless_deleteArguments directory
      refine (hdelete _).mono ?_
      rintro r cs' s₃ ⟨hcs', hs₃⟩
      refine ⟨?_, .inl (by rw [hs₃]; rfl)⟩
      simp only [List.mem_append, List.mem_singleton]
      rintro c (hc | rfl | hc)
      · exact .inl (hcs c hc)
      · exact .inr rfl
      · exact .inl (hcs' c hc)
    · rintro _ _ _ ⟨⟨⟩, _⟩
  · rintro failure cs s' ⟨hcs, hs'⟩
    exact ⟨fun c hc => .inl (hcs c hc), .inr ⟨by rw [hs'], released_of_own hcs⟩⟩

/-- **A cleanup empties the registry or leaves it alone.** -/
theorem yields_cleanup :
    cleanup.Yields s fun _ cs s' => Cleans s.session.registry cs s'.session.registry := by
  refine yields_view_bind_iff.2 ?_
  cases hdirectory : s.session.temporaryDirectory with
  | none => exact .pure ⟨by simp, .inr ⟨rfl, rfl⟩⟩
  | some directory =>
      refine yields_update_bind_iff.2 ((yields_clear directory).attempt_bind ?_)
      intro result cs s' hclear
      have hend : ∀ {act : Act (Live (Traced W)) Unit}, Harmless act →
          act.Yields s' fun _ cs' s'' =>
            Cleans s.session.registry (cs ++ cs') s''.session.registry := by
        intro act hact
        refine (hact s').mono ?_
        rintro r cs' s'' ⟨hcs', hs''⟩
        rw [hs'']
        exact hclear.append_own hcs'
      cases result with
      | error failure => exact hend ((harmless_abandon directory).bind fun _ => .ofResult _)
      | ok _ =>
          refine yields_view_bind_iff.2 (hend ?_)
          split
          · exact harmless_outside (.change (fun _ => rfl) rfl)
          · refine (harmless_removeTree directory).bind fun answer => ?_
            split
            · exact .pure ()
            · exact .within _ (.fail _)

end Session

end LtoBridge
