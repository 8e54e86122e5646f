/-
**What steps do, and which calls they make.**

A step is known by three things: its result, the state that it leaves and the calls that it makes on
the way.  `Yields` says that all three, taken together, have a property.  There is one rule for each
way to put steps together, so that the property of a composed step follows from those of its parts
without a look inside them.

Main definitions:

* `LtoBridge.Effect.isLinker`: the calls that the linker gets;
* `LtoBridge.Traced.Extends`: a trace continues another one by some calls;
* `LtoBridge.HasTrace`: the states that contain a trace;
* `LtoBridge.Act.Yields`: what a step gives, calls and leaves.

Main results:

* `LtoBridge.Traced.Extends.invariant`: what every call keeps is kept by all of them;
* `LtoBridge.Act.Yields.bind`: one step after the other.
-/

import LtoBridge.Session

set_option autoImplicit false

namespace LtoBridge

/-! ### Kinds of calls -/

/-- Does a call reach the linker? -/
def Effect.isLinker : Effect → Bool
  | addSymbols _ _ | getSymbols _ _ | addInputFile _ | addInputLibrary _ | releaseSymbols => true
  | _ => false

/-- Is a call not for the linker? -/
abbrev Effect.IsOwn (e : Effect) : Prop := e.isLinker = false

/-! ### Continued traces -/

namespace Call

variable {W : Type} [Platform W]

/-- Did the surroundings do what the call asked for? -/
def succeeded (c : Call W) : Bool := (c.effect.outcome c.before).1

/-- The surroundings after the call. -/
def after (c : Call W) : W := (c.effect.outcome c.before).2

end Call

namespace Traced

variable {W : Type} [Platform W]

/-- **The second trace continues the first one** by the given calls. -/
inductive Extends : Traced W → List (Call W) → Traced W → Prop
  | refl (t : Traced W) : Extends t [] t
  | record {t t' : Traced W} {cs : List (Call W)} (e : Effect) :
      Extends t cs t' → Extends t (cs ++ [⟨e, t'.world⟩]) (t'.record e)

theorem Extends.single (t : Traced W) (e : Effect) :
    Extends t [⟨e, t.world⟩] (t.record e) := .record e (.refl t)

theorem Extends.trans {t t' t'' : Traced W} {cs cs' : List (Call W)} (h : Extends t cs t')
    (h' : Extends t' cs' t'') : Extends t (cs ++ cs') t'' := by
  induction h' with
  | refl => simpa using h
  | record e _ ih =>
      rw [← List.append_assoc]
      exact ih.record e

theorem Extends.calls_eq {t t' : Traced W} {cs : List (Call W)} (h : Extends t cs t') :
    t'.calls = t.calls ++ cs := by
  induction h with
  | refl => rw [List.append_nil]
  | record e _ ih => rw [Traced.record, ih, List.append_assoc]

theorem Extends.subset {t t' : Traced W} {cs : List (Call W)} (h : Extends t cs t') :
    cs ⊆ t'.calls := by
  rw [h.calls_eq]
  exact List.subset_append_right _ _

/-- A trace is continued by the same calls, however that is found out. -/
theorem Extends.unique {t t' : Traced W} {cs cs' : List (Call W)} (h : Extends t cs t')
    (h' : Extends t cs' t') : cs = cs' :=
  List.append_cancel_left (h.calls_eq.symm.trans h'.calls_eq)

/-- Every call among those that continue a trace finds the surroundings as the calls before it left
them, and what follows it begins with what it left itself. -/
theorem Extends.split {t t' : Traced W} {pre post : List (Call W)} {c : Call W}
    (h : Extends t (pre ++ c :: post) t') :
    ∃ u : Traced W, Extends t pre u ∧ c.before = u.world ∧ Extends (u.record c.effect) post t' := by
  generalize hcs : pre ++ c :: post = cs at h
  induction h generalizing post with
  | refl => simp at hcs
  | @record t' cs e h ih =>
      -- the last call is either `c` itself or the last one of `post`
      obtain rfl | ⟨post, d, rfl⟩ := post.eq_nil_or_concat
      · obtain ⟨rfl, hc⟩ := List.append_inj' hcs rfl
        obtain rfl : c = ⟨e, t'.world⟩ := by simpa using hc
        exact ⟨t', h, rfl, .refl _⟩
      · rw [List.concat_eq_append, ← List.cons_append, ← List.append_assoc] at hcs
        obtain ⟨hcs, hd⟩ := List.append_inj' hcs rfl
        obtain ⟨u, hpre, hbefore, hpost⟩ := ih hcs
        obtain rfl : d = ⟨e, t'.world⟩ := by simpa using hd
        rw [List.concat_eq_append]
        exact ⟨u, hpre, hbefore, hpost.record e⟩

/-- **What every call keeps is kept by all of them.** -/
theorem Extends.invariant {P : W → Prop} {t t' : Traced W} {cs : List (Call W)}
    (h : Extends t cs t') (hkeep : ∀ c ∈ cs, P c.before → P c.after) (ht : P t.world) :
    P t'.world := by
  induction h with
  | refl => exact ht
  | @record t' cs e _ ih =>
      have hlast := hkeep ⟨e, t'.world⟩ (List.mem_append_right _ List.mem_cons_self)
      exact hlast (ih (fun c hc => hkeep c (List.mem_append_left _ hc)))

/-- What holds before the first call, and is kept by each of them, holds before every call. -/
theorem Extends.before {P : W → Prop} {t t' : Traced W} {cs : List (Call W)} (h : Extends t cs t')
    (hkeep : ∀ c ∈ cs, P c.before → P c.after) (ht : P t.world) : ∀ c ∈ cs, P c.before := by
  intro c hc
  obtain ⟨pre, post, rfl⟩ := List.append_of_mem hc
  obtain ⟨u, hpre, hbefore, -⟩ := h.split
  rw [hbefore]
  exact hpre.invariant (fun d hd => hkeep d (List.mem_append_left _ hd)) ht

/-- What calls do one by one, they do in a row, as long as something holds that they keep. -/
theorem Extends.foldl {β : Type} {P : W → Prop} {f : W → β} {g : β → Call W → β}
    {t t' : Traced W} {cs : List (Call W)} (h : Extends t cs t')
    (hstep : ∀ c ∈ cs, P c.before → P c.after ∧ f c.after = g (f c.before) c) (ht : P t.world) :
    P t'.world ∧ f t'.world = cs.foldl g (f t.world) := by
  induction h with
  | refl => exact ⟨ht, rfl⟩
  | @record t' cs e _ ih =>
      obtain ⟨hholds, hvalue⟩ := ih fun c hc => hstep c (List.mem_append_left _ hc)
      obtain ⟨hkept, hlast⟩ := hstep ⟨e, t'.world⟩ (List.mem_append_right _ List.mem_cons_self)
        hholds
      refine ⟨hkept, hlast.trans ?_⟩
      rw [List.foldl_append, ← hvalue]
      rfl

end Traced

/-- The states that contain a trace. -/
class HasTrace (σ : Type) (W : outParam Type) where
  trace : σ → Traced W

instance {W : Type} : HasTrace (Traced W) W := ⟨id⟩

instance {W : Type} : HasTrace (Live (Traced W)) W := ⟨Live.world⟩

namespace Act

variable {σ α β W : Type}

/-! ### One step after the other -/

theorem bind_apply (x : Act σ α) (f : α → Act σ β) (s : σ) :
    (x >>= f) s = match x s with
      | (.ok a, s) => f a s
      | (.error e, s) => (.error e, s) := by
  change ExceptT.bindCont f (x s).1 (x s).2 = _
  rcases x s with ⟨_ | _, _⟩ <;> rfl

variable [Platform W] [HasTrace σ W]

open HasTrace (trace)

/-- **What a step gives, calls and leaves has a property**, which is about its result, its calls and
the state after it. -/
def Yields (act : Act σ α) (s : σ) (Q : Except Failure α → List (Call W) → σ → Prop) : Prop :=
  ∃ cs, (trace s).Extends cs (trace (act s).2) ∧ Q (act s).1 cs (act s).2

variable {act : Act σ α} {s : σ} {Q Q' : Except Failure α → List (Call W) → σ → Prop}

theorem Yields.mono (h : act.Yields s Q) (hQ : ∀ r cs s', Q r cs s' → Q' r cs s') :
    act.Yields s Q' := by
  obtain ⟨cs, hext, hpost⟩ := h
  exact ⟨cs, hext, hQ _ _ _ hpost⟩

/-- **One step after the other.**  The calls of the second one follow those of the first one; the
second one is not begun if the first one fails. -/
theorem Yields.bind {x : Act σ α} {f : α → Act σ β}
    {Q' : Except Failure β → List (Call W) → σ → Prop} (hx : x.Yields s Q)
    (hok : ∀ a cs s', Q (.ok a) cs s' → (f a).Yields s' fun r cs' s'' => Q' r (cs ++ cs') s'')
    (herror : ∀ e cs s', Q (.error e) cs s' → Q' (.error e) cs s') :
    (x >>= f).Yields s Q' := by
  obtain ⟨cs, hext, hpost⟩ := hx
  rcases hxs : x s with ⟨r, s'⟩
  rw [hxs] at hext hpost
  cases r with
  | error e =>
      refine ⟨cs, ?_, ?_⟩ <;> rw [bind_apply, hxs]
      · exact hext
      · exact herror e cs s' hpost
  | ok a =>
      obtain ⟨cs', hext', hpost'⟩ := hok a cs s' hpost
      refine ⟨cs ++ cs', ?_, ?_⟩ <;> rw [bind_apply, hxs]
      · exact hext.trans hext'
      · exact hpost'

/-- A step whose failure is a result does not fail. -/
theorem Yields.attempt_bind {x : Act σ α} {f : Except Failure α → Act σ β}
    {Q' : Except Failure β → List (Call W) → σ → Prop} (hx : x.Yields s Q)
    (hf : ∀ r cs s', Q r cs s' → (f r).Yields s' fun r cs' s'' => Q' r (cs ++ cs') s'') :
    (x.attempt >>= f).Yields s Q' := by
  have hattempt : x.attempt.Yields s fun r cs s' => ∃ r', r = .ok r' ∧ Q r' cs s' := by
    obtain ⟨cs, hext, hpost⟩ := hx
    exact ⟨cs, hext, _, rfl, hpost⟩
  refine hattempt.bind ?_ ?_
  · rintro r cs s' ⟨_, ⟨⟩, hpost⟩
    exact hf r cs s' hpost
  · rintro _ _ _ ⟨_, ⟨⟩, _⟩

/-! ### Single steps -/

theorem Yields.pure {a : α} (h : Q (.ok a) [] s) : (Pure.pure a : Act σ α).Yields s Q :=
  ⟨[], .refl _, h⟩

theorem Yields.ofResult {x : Except Failure α} (h : Q x [] s) : (ofResult x).Yields s Q :=
  ⟨[], .refl _, h⟩

theorem Yields.fail {cause : Cause} (h : Q (.error ⟨cause, []⟩) [] s) :
    (Act.fail cause : Act σ α).Yields s Q :=
  ⟨[], .refl _, h⟩

theorem yields_within_iff {context : Context} :
    (act.within context).Yields s Q ↔
      act.Yields s fun r cs s' => Q (whileDoing context r) cs s' := Iff.rfl

/-- A result that has been there before, seen from further outside if it is a failure. -/
theorem Yields.check {x : Except Failure α} {context : Context} {f : α → Act σ β}
    {Q : Except Failure β → List (Call W) → σ → Prop}
    (hok : ∀ a, x = .ok a → (f a).Yields s Q)
    (herror : ∀ e, x = .error e → Q (.error (e.within context)) [] s) :
    ((Act.ofResult x).within context >>= f).Yields s Q := by
  cases x with
  | error e => exact ⟨[], .refl _, herror e rfl⟩
  | ok a => exact hok a rfl

/-- The failure that an error of the operating system is. -/
def osFailure (e : OsError) : Failure := ⟨.os e, []⟩

section Calls

variable {t : Traced W} {x : Except OsError α} {e : Effect}

/-- A call to the operating system whose error is a failure. -/
theorem Yields.ofOs {f : Traced W → Except OsError α × Traced W}
    {Q : Except Failure α → List (Call W) → Traced W → Prop} (hf : f t = (x, t.record e))
    (hQ : Q (x.mapError osFailure) [⟨e, t.world⟩] (t.record e)) : (Act.ofOs f).Yields t Q := by
  have hact : Act.ofOs f t = (x.mapError osFailure, t.record e) := by
    simp only [Act.ofOs, hf]
    cases x <;> rfl
  refine ⟨[⟨e, t.world⟩], ?_, ?_⟩ <;> rw [hact]
  · exact .single t e
  · exact hQ

/-- A call to the operating system whose error, which names a file, is a failure. -/
theorem Yields.ofOsAt {x : Except (OsError × Path) α}
    {f : Traced W → Except (OsError × Path) α × Traced W}
    {Q : Except Failure α → List (Call W) → Traced W → Prop} (hf : f t = (x, t.record e))
    (hQ : Q (x.mapError fun error => ⟨.osAt error.1 error.2, []⟩) [⟨e, t.world⟩] (t.record e)) :
    (Act.ofOsAt f).Yields t Q := by
  have hact : Act.ofOsAt f t =
      (x.mapError fun error => ⟨.osAt error.1 error.2, []⟩, t.record e) := by
    simp only [Act.ofOsAt, hf]
    cases x <;> rfl
  refine ⟨[⟨e, t.world⟩], ?_, ?_⟩ <;> rw [hact]
  · exact .single t e
  · exact hQ

/-- A call to the linker. -/
theorem Yields.ofFunction {f : Traced W → Except Failure α × Traced W} {x : Except Failure α}
    {Q : Except Failure α → List (Call W) → Traced W → Prop} (hf : f t = (x, t.record e))
    (hQ : Q x [⟨e, t.world⟩] (t.record e)) : (Act.ofFunction f).Yields t Q := by
  have hact : Act.ofFunction f t = (x, t.record e) := hf
  refine ⟨[⟨e, t.world⟩], ?_, ?_⟩ <;> rw [hact]
  · exact .single t e
  · exact hQ

/-- A call to the operating system whose answer is the result does not fail. -/
theorem Yields.answer_bind {f : Traced W → Except OsError α × Traced W}
    {g : Except OsError α → Act (Traced W) β}
    {Q : Except Failure β → List (Call W) → Traced W → Prop} (hf : f t = (x, t.record e))
    (hg : (g x).Yields (t.record e) fun r cs t' => Q r (⟨e, t.world⟩ :: cs) t') :
    (Act.answer f >>= g).Yields t Q := by
  have hact : Act.answer f t = (.ok x, t.record e) := by simp only [Act.answer, hf]
  obtain ⟨cs, hext, hpost⟩ := hg
  refine ⟨⟨e, t.world⟩ :: cs, ?_, ?_⟩ <;> rw [bind_apply, hact]
  · exact (Traced.Extends.single t e).trans hext
  · exact hpost

/-- A call without an answer. -/
theorem Yields.change {f : Traced W → Traced W}
    {Q : Except Failure Unit → List (Call W) → Traced W → Prop} (hf : f t = t.record e)
    (hQ : Q (.ok ()) [⟨e, t.world⟩] (t.record e)) : (Act.change f).Yields t Q := by
  have hact : Act.change f t = (.ok (), t.record e) := by simp only [Act.change, hf]
  refine ⟨[⟨e, t.world⟩], ?_, ?_⟩ <;> rw [hact]
  · exact .single t e
  · exact hQ

theorem Yields.change_bind {f : Traced W → Traced W} {g : Unit → Act (Traced W) β}
    {Q : Except Failure β → List (Call W) → Traced W → Prop} (hf : f t = t.record e)
    (hg : (g ()).Yields (t.record e) fun r cs t' => Q r (⟨e, t.world⟩ :: cs) t') :
    (Act.change f >>= g).Yields t Q := by
  have hact : Act.change f t = (.ok (), t.record e) := by simp only [Act.change, hf]
  obtain ⟨cs, hext, hpost⟩ := hg
  refine ⟨⟨e, t.world⟩ :: cs, ?_, ?_⟩ <;> rw [bind_apply, hact]
  · exact (Traced.Extends.single t e).trans hext
  · exact hpost

end Calls

/-! ### Steps with calls of one kind -/

/-- **All calls of a step are of one kind.** -/
def Only (P : Effect → Prop) (act : Act σ α) : Prop :=
  ∀ s, act.Yields s fun _ cs _ => ∀ c ∈ cs, P c.effect

variable {P : Effect → Prop}

theorem Only.mono {P' : Effect → Prop} (h : Only P act) (hP : ∀ e, P e → P' e) : Only P' act :=
  fun s => (h s).mono fun _ _ _ hcs c hc => hP _ (hcs c hc)

theorem Only.pure (a : α) : Only P (Pure.pure a : Act σ α) := fun _ => .pure (by simp)

theorem Only.fail (cause : Cause) : Only P (Act.fail cause : Act σ α) := fun _ => .fail (by simp)

theorem Only.bind {x : Act σ α} {f : α → Act σ β} (hx : Only P x) (hf : ∀ a, Only P (f a)) :
    Only P (x >>= f) := by
  intro s
  refine (hx s).bind ?_ fun _ _ _ h => h
  intro a cs s' hcs
  refine (hf a s').mono fun _ cs' _ hcs' c hc => ?_
  rcases List.mem_append.1 hc with hc | hc
  · exact hcs c hc
  · exact hcs' c hc

theorem Only.ofResult (x : Except Failure α) : Only P (Act.ofResult x : Act σ α) :=
  fun _ => .ofResult (by simp)

/-- A step whose failure is a result makes the same calls. -/
theorem Only.attempt (h : Only P act) : Only P act.attempt := by
  intro s
  obtain ⟨cs, hext, hcs⟩ := h s
  exact ⟨cs, hext, hcs⟩

theorem Only.within {context : Context} (h : Only P act) : Only P (act.within context) :=
  fun s => yields_within_iff.2 (h s)

theorem Only.ofOs {f : Traced W → Except OsError α × Traced W} {e : Effect}
    (hf : ∀ t, f t = ((f t).1, t.record e)) (he : P e) : Only P (Act.ofOs f) :=
  fun t => .ofOs (hf t) (by simpa using he)

theorem Only.answer {f : Traced W → Except OsError α × Traced W} {e : Effect}
    (hf : ∀ t, f t = ((f t).1, t.record e)) (he : P e) : Only P (Act.answer f) := by
  intro t
  have hact : Act.answer f t = (.ok (f t).1, t.record e) := by
    unfold Act.answer
    rw [hf t]
  refine ⟨[⟨e, t.world⟩], ?_, fun c hc => ?_⟩
  · rw [hact]
    exact .single t e
  · rw [List.mem_singleton.1 hc]
    exact he

theorem Only.change {f : Traced W → Traced W} {e : Effect} (hf : ∀ t, f t = t.record e)
    (he : P e) : Only P (Act.change f) :=
  fun t => .change (hf t) (by simpa using he)

end Act

end LtoBridge
