/-
**Offers that come to nothing.**

If a file is not claimed, then the linker did not accept its symbols: either they were not announced
at all, or the linker refused them.

Main definitions:

* `LtoBridge.Session.Refused`: nothing that was asked of the linker was accepted.

Main results:

* `LtoBridge.Session.yields_claimFile_refused`: **only the symbols of claimed files are accepted**.
-/

import LtoBridge.Proofs.Session.Claiming

set_option autoImplicit false

namespace LtoBridge

variable {W : Type} [Platform W]

/-- Two things that are known of a step are known of the same calls. -/
theorem Act.Yields.and {σ α : Type} [HasTrace σ W] {act : Act σ α} {s : σ}
    {Q Q' : Except Failure α → List (Call W) → σ → Prop} (h : act.Yields s Q)
    (h' : act.Yields s Q') : act.Yields s fun r cs s' => Q r cs s' ∧ Q' r cs s' := by
  obtain ⟨cs, hext, hpost⟩ := h
  obtain ⟨cs', hext', hpost'⟩ := h'
  obtain rfl := hext.unique hext'
  exact ⟨cs, hext, hpost, hpost'⟩

namespace Session

/-- **Nothing that was asked of the linker was accepted**, and it was asked to take symbols only. -/
def Refused (cs : List (Call W)) : Prop :=
  ∀ c ∈ cs, c.effect.IsOwn ∨
    (∃ handle symbols, c.effect = .addSymbols handle symbols) ∧ c.succeeded = false

theorem Refused.of_own {cs : List (Call W)} (h : ∀ c ∈ cs, c.effect.IsOwn) : Refused cs :=
  fun c hc => .inl (h c hc)

theorem Refused.append {cs cs' : List (Call W)} (h : Refused cs) (h' : Refused cs') :
    Refused (cs ++ cs') :=
  fun c hc => (List.mem_append.1 hc).elim (h c) (h' c)

variable {s : Live (Traced W)}

/-- The linker refuses the symbols of a file that cannot be claimed. -/
theorem yields_claim_refused (span : Span) (input : InputFile) (path : Path) (table : SymbolTable) :
    (claim span input path table).Yields s fun r cs _ => r.isOk = true ∨ Refused cs := by
  refine (yields_tell_each span .offeredSymbol table.symbols).bind ?_ ?_
  · rintro _ cs s' ⟨-, hcs, -⟩
    let added : Call W := ⟨.addSymbols input.handle table.symbols, s'.world.world⟩
    have hadd : (outside (Platform.addSymbols input.handle table.symbols)).Yields s'
        fun r cs' _ => cs' = [added] ∧ added.succeeded = r.isOk :=
      ⟨[added], .single _ _, rfl, rfl⟩
    refine hadd.attempt_bind ?_
    rintro result _ s'' ⟨rfl, hadded⟩
    -- once the symbols are accepted, nothing can fail any more
    cases result with
    | error failure =>
        have hrefused : Refused (cs ++ [added]) := by
          refine (Refused.of_own hcs).append fun c hc => .inr ?_
          obtain rfl := List.mem_singleton.1 hc
          exact ⟨⟨_, _, rfl⟩, hadded⟩
        refine (harmless_discard input path _).bind ?_ ?_
        · rintro _ cs'' s₃ ⟨hcs'', -⟩
          refine Act.yields_within_iff.2 (.ofResult (.inr ?_))
          rw [List.append_nil, ← List.append_assoc]
          exact hrefused.append (.of_own hcs'')
        · rintro failure' cs'' s₃ ⟨hcs'', -⟩
          rw [← List.append_assoc]
          exact .inr (hrefused.append (.of_own hcs''))
    | ok _ =>
        refine (yields_tell span _).bind ?_ ?_
        · rintro _ cs'' s₃ -
          refine (yields_update _).mono ?_
          rintro _ _ _ ⟨rfl, -, -⟩
          exact .inl rfl
        · rintro _ _ _ ⟨⟨⟩, _⟩
  · rintro _ _ _ ⟨⟨⟩, _⟩

/-- **Only the symbols of claimed files are accepted.** -/
theorem yields_claimFile_refused (input : InputFile) :
    (claimFile input).Yields s fun r cs _ => r = .ok true ∨ Refused cs := by
  cases hdirectory : s.session.temporaryDirectory with
  | none => exact yields_directory_bind_of_none hdirectory (.inr (.of_own (by simp)))
  | some directory =>
      refine (yields_directory_bind_iff hdirectory).2 ((yields_load _ input).bind ?_ ?_)
      · rintro ⟨path, loaded⟩ cs s' ⟨hcs, -, -⟩
        have hloaded : Refused cs := .of_own hcs
        match loaded with
        | .ok (some table) =>
            refine (yields_claim_refused _ input path table).bind ?_ ?_
            · rintro _ cs' s'' -
              exact .pure (.inl rfl)
            · rintro failure cs' s'' (hok | hrefused)
              · cases hok
              · exact .inr (hloaded.append hrefused)
        | .ok none =>
            refine (harmless_discard input path _).bind ?_ ?_
            · rintro _ cs' s'' ⟨hcs', -⟩
              refine (yields_tell _ _).bind ?_ ?_
              · rintro _ cs'' s₃ ⟨-, hcs'', -⟩
                refine .pure (.inr (hloaded.append ?_))
                rw [List.append_nil]
                exact (Refused.of_own hcs').append (.of_own hcs'')
              · rintro _ _ _ ⟨⟨⟩, _⟩
            · rintro failure cs' s'' ⟨hcs', -⟩
              exact .inr (hloaded.append (.of_own hcs'))
        | .error failure =>
            refine (harmless_discard input path _).bind ?_ ?_
            · rintro _ cs' s'' ⟨hcs', -⟩
              refine .ofResult (.inr (hloaded.append ?_))
              rw [List.append_nil]
              exact .of_own hcs'
            · rintro failure' cs' s'' ⟨hcs', -⟩
              exact .inr (hloaded.append (.of_own hcs'))
      · rintro failure cs s' ⟨hcs, -, -⟩
        exact .inr (.of_own hcs)

end Session

end LtoBridge
