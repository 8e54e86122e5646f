/-
**What a linker answers.**

A raw linker is watched: every call that it gets is written down together with the status that it
returned.  What a session asks of its linker comes down to such calls, and none of them shows a
message to the user.

Main definitions:

* `LtoBridge.BoundLinker.Hears`: a request comes down to some calls;
* `LtoBridge.Call.heard`: what a linker hears of a call of a session.

Main results:

* `LtoBridge.Traced.Extends.hears`: **what a linker hears of a session**, and that no message is
  among that;
* `LtoBridge.Call.heard_of_announced`, `LtoBridge.Call.heard_of_refused`: symbols are accepted if
  and only if the function of the linker says so.
-/

import LtoBridge.Proofs.Linker.Pinned

set_option autoImplicit false

namespace LtoBridge

/-! ### Answers -/

/-- Was a message shown? -/
def Answer.isMessage (a : Answer) : Bool :=
  match a.call with
  | .message _ _ _ => true
  | _ => false

variable {R : Type} [RawLinker R]

/-! ### Requests -/

namespace BoundLinker

/-- **A request comes down to some calls**, none of which shows a message, and the linker has the
same functions afterwards. -/
structure Hears (l : BoundLinker (Watched R)) (new : List Answer) (l' : BoundLinker (Watched R)) :
    Prop where
  answers : l'.raw.answers = l.raw.answers ++ new
  bindings : l'.bindings = l.bindings
  silent : ∀ a ∈ new, a.isMessage = false

omit [RawLinker R] in
theorem Hears.nothing {l l' : BoundLinker (Watched R)} (hraw : l'.raw = l.raw)
    (hbindings : l'.bindings = l.bindings) : Hears l [] l' :=
  ⟨by rw [hraw, List.append_nil], hbindings, by simp⟩

/-- Symbols are announced by one call at most, and accepted if and only if its status says so. -/
theorem hears_addSymbols (handle : Handle) (symbols : List Symbol) (l : BoundLinker (Watched R)) :
    ∃ new, Hears l new (addSymbols handle symbols l).2 ∧
      ((addSymbols handle symbols l).1.isOk = true →
        new = [⟨.addSymbols handle (symbols.map Symbol.raw), some statusOk⟩]) ∧
      ((addSymbols handle symbols l).1.isOk = false → ∀ a ∈ new, a.status ≠ some statusOk) := by
  unfold addSymbols
  split
  · exact ⟨[], .nothing rfl rfl, nofun, by simp⟩
  · rename_i function _
    split
    · exact ⟨[], .nothing rfl rfl, nofun, by simp⟩
    · rename_i array hrecords
      obtain rfl := records_eq_ok hrecords
      rcases hcall : RawLinker.addSymbols function handle (symbols.map Symbol.raw) l.raw.raw with
        ⟨status, raw⟩
      have hpass : RawLinker.addSymbols function handle (symbols.map Symbol.raw) l.raw =
          (status, ⟨raw, l.raw.answers ++
            [⟨.addSymbols handle (symbols.map Symbol.raw), some status⟩]⟩) := by
        change Watched.pass _ _ _ _ = _
        simp only [Watched.pass, hcall, id]
      simp only [onRaw, hpass]
      refine ⟨[⟨.addSymbols handle (symbols.map Symbol.raw), some status⟩],
        ⟨rfl, rfl, by simp [Answer.isMessage]⟩, ?_⟩
      by_cases hstatus : status = statusOk
      · subst hstatus
        exact ⟨fun _ => rfl, nofun⟩
      · have hrefused : checkStatus .addSymbols status = .error ⟨.refused .addSymbols status, []⟩ :=
          if_neg hstatus
        rw [hrefused]
        exact ⟨nofun, by simp [hstatus]⟩

theorem hears_getSymbols (handle : Handle) (symbols : List Symbol) (l : BoundLinker (Watched R)) :
    ∃ new, Hears l new (getSymbols handle symbols l).2 := by
  unfold getSymbols
  split
  · exact ⟨[], .nothing rfl rfl⟩
  · rename_i function _
    split
    · exact ⟨[], .nothing rfl rfl⟩
    · rename_i array _
      refine ⟨[⟨.getSymbols handle (RecordedLinker.getSymbolsVersion function) array,
        some (RawLinker.getSymbols function handle array l.raw.raw).1.1⟩], ?_⟩
      have hheard : Hears l _
          { l with raw := (RawLinker.getSymbols function handle array l.raw).2 } :=
        ⟨rfl, rfl, by simp [Answer.isMessage]⟩
      dsimp only [onRaw]
      split
      · exact hheard
      · split
        · exact hheard
        · exact hheard

omit [RawLinker R] in
theorem hears_handOver {call : LinkerCall} {preparing calling : Context} {bs : Bytes}
    {f : Address → NulFree → Watched R → Int × Watched R} (l : BoundLinker (Watched R))
    (hf : ∀ function s w, ∃ a : Answer, a.isMessage = false ∧
      (f function s w).2.answers = w.answers ++ [a]) :
    ∃ new, Hears l new (handOver call preparing calling bs f l).2 := by
  unfold handOver
  split
  · exact ⟨[], .nothing rfl rfl⟩
  · rename_i function _
    split
    · exact ⟨[], .nothing rfl rfl⟩
    · rename_i s _
      obtain ⟨a, hsilent, hanswers⟩ := hf function s l.raw
      exact ⟨[a], hanswers, rfl, by simpa using hsilent⟩

end BoundLinker

/-! ### Calls of a session -/

variable {c : Call (Machine (BoundLinker (Watched R)))}

/-- **What a linker hears of a call of a session.** -/
def Call.heard (c : Call (Machine (BoundLinker (Watched R)))) : List Answer :=
  c.after.linker.raw.answers.drop c.before.linker.raw.answers.length

theorem Call.heard_eq {new : List Answer}
    (h : BoundLinker.Hears c.before.linker new c.after.linker) : c.heard = new := by
  rw [heard, h.answers, List.drop_left]

/-- A linker hears of the calls that it gets only. -/
theorem Call.hears_of_own (hc : c.effect.IsOwn) :
    BoundLinker.Hears c.before.linker [] c.after.linker := by
  have hsame : c.after.linker = c.before.linker := Machine.linker_outcome_of_own c.before hc
  exact .nothing (by rw [hsame]) (by rw [hsame])

/-- **A call of a session comes down to some calls**, none of which shows a message. -/
theorem Call.hears (c : Call (Machine (BoundLinker (Watched R)))) :
    BoundLinker.Hears c.before.linker c.heard c.after.linker := by
  have hsome : ∃ new, BoundLinker.Hears c.before.linker new c.after.linker := by
    obtain ⟨effect, m⟩ := c
    cases hown : effect.isLinker with
    | false => exact ⟨[], hears_of_own hown⟩
    | true =>
        cases effect with
        | addSymbols handle symbols =>
            obtain ⟨new, hnew, -⟩ := BoundLinker.hears_addSymbols handle symbols m.linker
            exact ⟨new, hnew⟩
        | getSymbols handle symbols => exact BoundLinker.hears_getSymbols handle symbols m.linker
        | addInputFile path =>
            exact BoundLinker.hears_handOver (f := RawLinker.addInputFile) m.linker
              fun function s w => ⟨⟨.addInputFile s,
                some (RawLinker.addInputFile function s w.raw).1⟩, rfl, rfl⟩
        | addInputLibrary name =>
            exact BoundLinker.hears_handOver (f := RawLinker.addInputLibrary) m.linker
              fun function s w => ⟨⟨.addInputLibrary s,
                some (RawLinker.addInputLibrary function s w.raw).1⟩, rfl, rfl⟩
        | releaseSymbols => exact ⟨[], .nothing rfl rfl⟩
        | _ => cases hown
  obtain ⟨new, hnew⟩ := hsome
  exact heard_eq hnew ▸ hnew

theorem Call.heard_of_own (hc : c.effect.IsOwn) : c.heard = [] := heard_eq (hears_of_own hc)

section

variable {handle : Handle} {symbols : List Symbol}

/-- **Symbols are accepted by a call whose status says so.** -/
theorem Call.heard_of_announced (hc : c.effect = .addSymbols handle symbols)
    (hsucceeded : c.succeeded = true) :
    c.heard = [⟨.addSymbols handle (symbols.map Symbol.raw), some statusOk⟩] := by
  obtain ⟨effect, m⟩ := c
  obtain rfl : effect = .addSymbols handle symbols := hc
  obtain ⟨new, hnew, haccepted, -⟩ := BoundLinker.hears_addSymbols handle symbols m.linker
  have hheard : (Call.mk (.addSymbols handle symbols) m).heard = new := heard_eq hnew
  rw [hheard, haccepted hsucceeded]

/-- **Otherwise no status says so.** -/
theorem Call.heard_of_refused (hc : c.effect = .addSymbols handle symbols)
    (hsucceeded : c.succeeded = false) : ∀ a ∈ c.heard, a.status ≠ some statusOk := by
  obtain ⟨effect, m⟩ := c
  obtain rfl : effect = .addSymbols handle symbols := hc
  obtain ⟨new, hnew, -, hrefused⟩ := BoundLinker.hears_addSymbols handle symbols m.linker
  have hheard : (Call.mk (.addSymbols handle symbols) m).heard = new := heard_eq hnew
  rw [hheard]
  exact hrefused hsucceeded

end

/-! ### Steps of a session -/

namespace Traced.Extends

variable {t t' : Traced (Machine (BoundLinker (Watched R)))}
  {cs : List (Call (Machine (BoundLinker (Watched R))))}

/-- **What a linker hears of a session.** -/
theorem hears (h : t.Extends cs t') :
    BoundLinker.Hears t.world.linker (cs.flatMap Call.heard) t'.world.linker := by
  induction h with
  | refl => exact .nothing rfl rfl
  | record e _ ih =>
      rename_i t t' cs _
      have hlast := Call.hears ⟨e, t'.world⟩
      rw [List.flatMap_append, List.flatMap_cons, List.flatMap_nil, List.append_nil]
      refine ⟨?_, hlast.bindings.trans ih.bindings, fun a ha => ?_⟩
      · rw [← List.append_assoc, ← ih.answers]
        exact hlast.answers
      · exact (List.mem_append.1 ha).elim (ih.silent a) (hlast.silent a)

end Traced.Extends

end LtoBridge
