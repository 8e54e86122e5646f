/-
**Scripts of calls.**

What a part of a session has to do can be written down as a script: a list of calls and of
conditions that must hold in between.  The part follows its script if it makes these calls in this
order, stops at the first one that fails or at the first condition that does not hold, and succeeds
exactly if there is no such step.

Main definitions:

* `LtoBridge.Effect.visible`, `LtoBridge.visible`: the calls that can be noticed outside;
* `LtoBridge.Step`, `LtoBridge.Follows`: scripts and what it is to follow them;
* `LtoBridge.Act.Performs`, `LtoBridge.Act.PerformsSome`: a step of the session follows a script.

Main results:

* `LtoBridge.Follows.isPrefix`: the calls are the first ones of the script;
* `LtoBridge.Follows.succeeds_iff`: **success means that the whole script was carried out**;
* `LtoBridge.Act.Performs.bind`, `LtoBridge.Act.Performs.forEach`: one script after the other.
-/

import LtoBridge.Proofs.Act

set_option autoImplicit false

namespace LtoBridge

/-! ### Calls that can be noticed -/

/-- Does a call reach the linker, run a program or change files?  The other calls look at files or
report events. -/
def Effect.visible : Effect → Bool
  | makeTemporaryDirectory _ _ | removeTree _ | createFile _ | appendFile _ _ | removeFile _
  | launch _ _ | addSymbols _ _ | getSymbols _ _ | addInputFile _ | addInputLibrary _
  | releaseSymbols => true
  | currentDirectory | readFile _ | openFile _ | closeFile _ | fileSize _ | readAt _ _ _
  | mapFile _ _ | report _ => false

variable {W : Type}

/-- The calls that can be noticed. -/
def visible (cs : List (Call W)) : List (Call W) := cs.filter (·.effect.visible)

@[simp] theorem visible_append (cs cs' : List (Call W)) :
    visible (cs ++ cs') = visible cs ++ visible cs' := List.filter_append ..

theorem visible_single {c : Call W} (h : c.effect.visible = true) : visible [c] = [c] := by
  simp [visible, h]

theorem hidden_single {c : Call W} (h : c.effect.visible = false) : visible [c] = [] := by
  simp [visible, h]

/-- A call that can be noticed comes after those that were noticed before it, and before those that
were noticed after it. -/
theorem visible_split {cs before after : List (Call W)} {c : Call W}
    (h : visible cs = before ++ c :: after) :
    ∃ pre post, cs = pre ++ c :: post ∧ visible pre = before ∧ visible post = after := by
  obtain ⟨pre, rest, rfl, hpre, hrest⟩ := List.filter_eq_append_iff.1 h
  obtain ⟨hidden, post, rfl, hhidden, -, hpost⟩ := List.filter_eq_cons_iff.1 hrest
  refine ⟨pre ++ hidden, post, by simp, ?_, hpost⟩
  rw [visible_append, show visible pre = before from hpre, visible,
    List.filter_eq_nil_iff.2 hhidden, List.append_nil]

/-! ### Scripts -/

/-- A step of a script: a call to make, or a condition that must hold. -/
inductive Step
  | call (effect : Effect)
  | require (holds : Bool)

/-- The call of a step, if it is one. -/
def Step.effect? : Step → Option Effect
  | call effect => some effect
  | require _ => none

@[simp] theorem filterMap_call (effect : Effect) (steps : List Step) :
    (Step.call effect :: steps).filterMap Step.effect? =
      effect :: steps.filterMap Step.effect? := rfl

@[simp] theorem filterMap_require (holds : Bool) (steps : List Step) :
    (Step.require holds :: steps).filterMap Step.effect? = steps.filterMap Step.effect? := rfl

/-- Is a step no condition that fails to hold? -/
def Step.holds : Step → Bool
  | call _ => true
  | require holds => holds

variable [Platform W]

/-- **The calls are those of the script up to its first step that fails**, and the last argument
says that there is no such step. -/
inductive Follows : List Step → List (Call W) → Bool → Prop
  | done : Follows [] [] true
  | call {c : Call W} {cs : List (Call W)} {rest : List Step} {ok : Bool} :
      c.succeeded = true → Follows rest cs ok → Follows (.call c.effect :: rest) (c :: cs) ok
  | failed {c : Call W} {rest : List Step} :
      c.succeeded = false → Follows (.call c.effect :: rest) [c] false
  | holds {cs : List (Call W)} {rest : List Step} {ok : Bool} :
      Follows rest cs ok → Follows (.require true :: rest) cs ok
  | violated {rest : List Step} : Follows (.require false :: rest) [] false

namespace Follows

variable {steps steps' : List Step} {cs cs' : List (Call W)} {ok : Bool}

/-- **The calls are the first ones of the script**, in its order. -/
theorem isPrefix (h : Follows steps cs ok) :
    cs.map (·.effect) <+: steps.filterMap Step.effect? := by
  induction h with
  | done => exact List.nil_prefix
  | call _ _ ih => simpa using ih
  | failed _ => simp
  | holds _ ih => simpa using ih
  | violated => exact List.nil_prefix

/-- **Success means that the whole script was carried out**: all of its calls were made and
succeeded, and all of its conditions hold. -/
theorem succeeds_iff (h : Follows steps cs ok) :
    ok = true ↔ cs.map (·.effect) = steps.filterMap Step.effect? ∧
      (∀ c ∈ cs, c.succeeded = true) ∧ ∀ step ∈ steps, step.holds = true := by
  induction h with
  | done => simp
  | call hc _ ih => simp [Step.holds, hc, ih]
  | failed hc => simp [hc]
  | holds _ ih => simp [Step.holds, ih]
  | violated => simp [Step.holds]

/-- One script after the other. -/
theorem append (h : Follows steps cs true) (h' : Follows steps' cs' ok) :
    Follows (steps ++ steps') (cs ++ cs') ok := by
  generalize hok : true = b at h
  induction h with
  | done => exact h'
  | call hc _ ih => exact .call hc (ih hok)
  | failed _ => cases hok
  | holds _ ih => exact .holds (ih hok)
  | violated => cases hok

/-- A script that failed is not gone on with. -/
theorem append_of_failed (h : Follows steps cs false) : Follows (steps ++ steps') cs false := by
  generalize hok : false = b at h
  induction h with
  | done => cases hok
  | call hc _ ih => exact .call hc (ih hok)
  | failed hc => exact .failed hc
  | holds _ ih => exact .holds (ih hok)
  | violated => exact .violated

/-- A single call. -/
theorem single (c : Call W) : Follows [.call c.effect] [c] c.succeeded := by
  cases h : c.succeeded with
  | false => exact .failed h
  | true => exact .call h .done

/-- Every call belongs to the script. -/
theorem effect_mem (h : Follows steps cs ok) {c : Call W} (hc : c ∈ cs) :
    Step.call c.effect ∈ steps := by
  have hmem := h.isPrefix.subset (List.mem_map_of_mem hc)
  obtain ⟨step, hstep, heffect⟩ := List.mem_filterMap.1 hmem
  cases step with
  | call effect =>
      cases heffect
      exact hstep
  | require _ => cases heffect

/-- What comes before a call of the first script belongs to the first script. -/
theorem mem_of_append {c : Call W} (h : Follows (steps ++ steps') (cs ++ c :: cs') ok)
    (hc : Step.call c.effect ∉ steps') : ∀ d ∈ cs, Step.call d.effect ∈ steps := by
  generalize hall : cs ++ c :: cs' = all at h
  induction steps generalizing cs all with
  | nil =>
      have hmem : c ∈ all := by rw [← hall]; simp
      exact absurd (h.effect_mem hmem) hc
  | cons step steps ih =>
      intro d hd
      cases h with
      | @call e es _ _ _ hrest =>
          cases cs with
          | nil => cases hd
          | cons _ cs =>
              obtain ⟨rfl, hes⟩ := List.cons.inj hall
              obtain rfl | hd := List.mem_cons.1 hd
              · exact List.mem_cons_self
              · exact List.mem_cons_of_mem _ (ih _ hes hrest d hd)
      | failed _ =>
          cases cs with
          | nil => cases hd
          | cons _ cs => simp at hall
      | holds hrest => exact List.mem_cons_of_mem _ (ih _ hall hrest d hd)
      | violated => simp at hall

/-- A script that begins with a call is followed by making it, and by stopping if it fails. -/
theorem of_call {e : Effect} (h : Follows (.call e :: steps) cs ok) :
    ∃ c rest, cs = c :: rest ∧ c.effect = e ∧
      (c.succeeded = true ∧ Follows steps rest ok ∨
        c.succeeded = false ∧ rest = [] ∧ ok = false) := by
  generalize hsteps : Step.call e :: steps = all at h
  cases h with
  | call hc hrest =>
      obtain ⟨he, rfl⟩ := List.cons.inj hsteps
      exact ⟨_, _, rfl, (Step.call.inj he).symm, .inl ⟨hc, hrest⟩⟩
  | failed hc =>
      exact ⟨_, _, rfl, (Step.call.inj (List.cons.inj hsteps).1).symm, .inr ⟨hc, rfl, rfl⟩⟩
  | done | holds | violated => cases hsteps

/-- **Two scripts, one after the other**: the first one fails, or the second one follows it. -/
theorem split (h : Follows (steps ++ steps') cs ok) :
    Follows steps cs false ∧ ok = false ∨
      ∃ before after, cs = before ++ after ∧ Follows steps before true ∧
        Follows steps' after ok := by
  induction steps generalizing cs with
  | nil => exact .inr ⟨[], cs, rfl, .done, h⟩
  | cons step steps ih =>
      cases h with
      | call hd hrest =>
          obtain ⟨hfirst, hok⟩ | ⟨before, after, rfl, hbefore, hafter⟩ := ih hrest
          · exact .inl ⟨.call hd hfirst, hok⟩
          · exact .inr ⟨_ :: before, after, rfl, .call hd hbefore, hafter⟩
      | failed hd => exact .inl ⟨.failed hd, rfl⟩
      | holds hrest =>
          obtain ⟨hfirst, hok⟩ | ⟨before, after, rfl, hbefore, hafter⟩ := ih hrest
          · exact .inl ⟨hfirst.holds, hok⟩
          · exact .inr ⟨before, after, rfl, hbefore.holds, hafter⟩
      | violated => exact .inl ⟨.violated, rfl⟩

/-- A call that does not belong to the first script is made after all of that script. -/
theorem mem_right {c : Call W} (h : Follows (steps ++ steps') cs ok) (hc : c ∈ cs)
    (hsteps : Step.call c.effect ∉ steps) :
    ∃ before after, cs = before ++ after ∧ Follows steps before true ∧ Follows steps' after ok ∧
      c ∈ after := by
  obtain ⟨hfirst, -⟩ | ⟨before, after, rfl, hbefore, hafter⟩ := h.split
  · exact absurd (hfirst.effect_mem hc) hsteps
  · have hmem : c ∈ after :=
      (List.mem_append.1 hc).resolve_left fun hc => hsteps (hbefore.effect_mem hc)
    exact ⟨before, after, rfl, hbefore, hafter, hmem⟩

/-- Nothing is found among the calls if only calls are looked for that can be noticed and are not in
the script. -/
theorem filterMap_eq_nil {β : Type} {find : Call W → Option β} (h : Follows steps (visible cs) ok)
    (hfind : ∀ c, find c ≠ none → c.effect.visible = true ∧ Step.call c.effect ∉ steps) :
    cs.filterMap find = [] := by
  refine List.filterMap_eq_nil_iff.2 fun c hc => Classical.byContradiction fun hfound => ?_
  obtain ⟨hvisible, hsteps⟩ := hfind c hfound
  exact hsteps (h.effect_mem (List.mem_filter.2 ⟨hc, hvisible⟩))

end Follows

/-! ### Steps that follow a script -/

namespace Act

open HasTrace (trace)

variable {σ α β : Type} [HasTrace σ W]

/-- **A step follows a script**, and what it gives, calls and leaves has a property besides. -/
def Performs (act : Act σ α) (s : σ) (steps : List Step)
    (Q : Except Failure α → List (Call W) → σ → Prop) : Prop :=
  act.Yields s fun r cs s' => Follows steps (visible cs) r.isOk ∧ Q r cs s'

variable {act : Act σ α} {s : σ} {steps steps' : List Step}
  {Q Q' : Except Failure α → List (Call W) → σ → Prop}

theorem Performs.mono (h : act.Performs s steps Q) (hQ : ∀ r cs s', Q r cs s' → Q' r cs s') :
    act.Performs s steps Q' :=
  Yields.mono h fun _ _ _ hr => ⟨hr.1, hQ _ _ _ hr.2⟩

/-- **One script after the other.** -/
theorem Performs.bind {x : Act σ α} {f : α → Act σ β}
    {Q' : Except Failure β → List (Call W) → σ → Prop} (hx : x.Performs s steps Q)
    (hok : ∀ a cs s', Q (.ok a) cs s' →
      (f a).Performs s' steps' fun r cs' s'' => Q' r (cs ++ cs') s'')
    (herror : ∀ e cs s', Q (.error e) cs s' → Q' (.error e) cs s') :
    (x >>= f).Performs s (steps ++ steps') Q' := by
  refine Yields.bind hx ?_ ?_
  · rintro a cs s' ⟨hsteps, hpost⟩
    refine Yields.mono (hok a cs s' hpost) fun r cs' s'' hrest => ⟨?_, hrest.2⟩
    rw [visible_append]
    exact hsteps.append hrest.1
  · rintro e cs s' ⟨hsteps, hpost⟩
    exact ⟨hsteps.append_of_failed, herror e cs s' hpost⟩

theorem Performs.pure {a : α} (h : Q (.ok a) [] s) : (Pure.pure a : Act σ α).Performs s [] Q :=
  Yields.pure ⟨.done, h⟩

/-- A condition that fails to hold. -/
theorem Performs.fail {cause : Cause} (h : Q (.error ⟨cause, []⟩) [] s) :
    (Act.fail cause : Act σ α).Performs s (.require false :: steps) Q :=
  Yields.fail ⟨.violated, h⟩

/-- A condition that holds. -/
theorem Performs.holds (h : act.Performs s steps Q) :
    act.Performs s (.require true :: steps) Q :=
  Yields.mono h fun _ _ _ hr => ⟨hr.1.holds, hr.2⟩

theorem isOk_whileDoing (context : Context) (r : Except Failure α) :
    (whileDoing context r).isOk = r.isOk := by
  cases r <;> rfl

theorem Performs.within {context : Context} (h : act.Performs s steps Q)
    (hQ : ∀ r cs s', Q r cs s' → Q' (whileDoing context r) cs s') :
    (act.within context).Performs s steps Q' := by
  refine yields_within_iff.2 (Yields.mono h fun r cs s' hr => ⟨?_, hQ r cs s' hr.2⟩)
  rw [isOk_whileDoing]
  exact hr.1

section Calls

variable {t : Traced W} {e : Effect}

/-- A call to the operating system that can be noticed. -/
theorem Performs.ofOs {x : Except OsError α} {f : Traced W → Except OsError α × Traced W}
    {Q : Except Failure α → List (Call W) → Traced W → Prop} (hf : f t = (x, t.record e))
    (hvisible : e.visible = true) (hok : (e.outcome t.world).1 = x.isOk)
    (hQ : Q (x.mapError osFailure) [⟨e, t.world⟩] (t.record e)) :
    (Act.ofOs f).Performs t [.call e] Q := by
  refine Yields.ofOs hf ⟨?_, hQ⟩
  have h := Follows.single (⟨e, t.world⟩ : Call W)
  have hresult : (x.mapError osFailure).isOk = x.isOk := by cases x <;> rfl
  rw [visible_single hvisible, hresult, ← hok]
  exact h

/-- A call to the linker. -/
theorem Performs.ofFunction {x : Except Failure α} {f : Traced W → Except Failure α × Traced W}
    {Q : Except Failure α → List (Call W) → Traced W → Prop} (hf : f t = (x, t.record e))
    (hvisible : e.visible = true) (hok : (e.outcome t.world).1 = x.isOk)
    (hQ : Q x [⟨e, t.world⟩] (t.record e)) : (Act.ofFunction f).Performs t [.call e] Q := by
  refine Yields.ofFunction hf ⟨?_, hQ⟩
  rw [visible_single hvisible, ← hok]
  exact Follows.single (⟨e, t.world⟩ : Call W)

/-- An event that is reported cannot be noticed. -/
theorem Performs.say {span : Option Span} {notice : Notice}
    {Q : Except Failure Unit → List (Call W) → Traced W → Prop}
    (hQ : Q (.ok ()) [⟨.report ⟨notice, span⟩, t.world⟩] (t.record (.report ⟨notice, span⟩))) :
    (say span notice).Performs t [] Q := by
  refine Yields.change rfl ⟨?_, hQ⟩
  rw [hidden_single rfl]
  exact .done

end Calls

/-- **The same for each element in turn.**  The invariant is about the calls so far and the state
after them. -/
theorem Performs.forEach {f : β → Act σ Unit} {script : β → List Step}
    {I : List (Call W) → σ → Prop}
    (hf : ∀ b cs s, I cs s → (f b).Performs s (script b) fun _ cs' s' => I (cs ++ cs') s')
    (bs : List β) (cs : List (Call W)) {s : σ} (hs : I cs s) :
    (Act.forEach f bs).Performs s (bs.flatMap script) fun _ cs' s' => I (cs ++ cs') s' := by
  induction bs generalizing cs s with
  | nil => exact .pure (by rwa [List.append_nil])
  | cons b bs ih =>
      rw [List.flatMap_cons]
      refine (hf b cs s hs).bind ?_ fun _ _ _ h => h
      intro _ cs' s' h
      refine (ih (cs ++ cs') h).mono fun _ cs'' s'' h' => ?_
      rwa [← List.append_assoc]

/-! ### Scripts that depend on answers -/

/-- **A step follows some script**, and this script, what the step gives, calls and leaves have a
property. -/
def PerformsSome (act : Act σ α) (s : σ)
    (Q : List Step → Except Failure α → List (Call W) → σ → Prop) : Prop :=
  act.Yields s fun r cs s' => ∃ steps, Follows steps (visible cs) r.isOk ∧ Q steps r cs s'

theorem Performs.toSome (h : act.Performs s steps Q) :
    act.PerformsSome s fun steps' r cs s' => steps' = steps ∧ Q r cs s' :=
  Yields.mono h fun _ _ _ hr => ⟨steps, hr.1, rfl, hr.2⟩

theorem PerformsSome.mono {Q Q' : List Step → Except Failure α → List (Call W) → σ → Prop}
    (h : act.PerformsSome s Q) (hQ : ∀ steps r cs s', Q steps r cs s' → Q' steps r cs s') :
    act.PerformsSome s Q' :=
  Yields.mono h fun _ _ _ ⟨steps, hsteps, hpost⟩ => ⟨steps, hsteps, hQ _ _ _ _ hpost⟩

/-- One script after the other, where the second one may depend on what the first step gave.  If the
first step fails, the rest of the script may be anything. -/
theorem PerformsSome.bind {x : Act σ α} {f : α → Act σ β}
    {Q : List Step → Except Failure α → List (Call W) → σ → Prop}
    {Q' : List Step → Except Failure β → List (Call W) → σ → Prop} (hx : x.PerformsSome s Q)
    (hok : ∀ steps a cs s', Q steps (.ok a) cs s' → (f a).PerformsSome s'
      fun steps' r cs' s'' => Q' (steps ++ steps') r (cs ++ cs') s'')
    (herror : ∀ steps e cs s', Q steps (.error e) cs s' →
      ∃ steps', Q' (steps ++ steps') (.error e) cs s') : (x >>= f).PerformsSome s Q' := by
  refine Yields.bind hx ?_ ?_
  · rintro a cs s' ⟨steps, hsteps, hpost⟩
    refine Yields.mono (hok steps a cs s' hpost) ?_
    rintro r cs' s'' ⟨steps', hsteps', hpost'⟩
    refine ⟨steps ++ steps', ?_, hpost'⟩
    rw [visible_append]
    exact hsteps.append hsteps'
  · rintro e cs s' ⟨steps, hsteps, hpost⟩
    obtain ⟨steps', hpost'⟩ := herror steps e cs s' hpost
    exact ⟨steps ++ steps', hsteps.append_of_failed, hpost'⟩

end Act

end LtoBridge
