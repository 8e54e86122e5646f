/-
**Steps side by side.**

Two steps are compared by what they do to two states.  They keep a relation between states if, from
states that it relates, they come to states that it relates, and either both succeed, with values
that are related too, or both fail, the second one with the failure of the first one under other
names.  There is one rule for each way to put steps together.

Main definitions:

* `LtoBridge.Act.Matches`: results of two steps that correspond to each other;
* `LtoBridge.Act.Keeps`: two steps that keep a relation.

Main results:

* `LtoBridge.Act.Keeps.bind`, `LtoBridge.Act.Keeps.forEach`: one step after the other.
-/

import LtoBridge.Proofs.Act
import Mathlib.Data.List.Forall2

set_option autoImplicit false

namespace LtoBridge.Act

variable {σ α β γ : Type}

/-! ### Results -/

/-- **Results of two steps that correspond to each other**: values that are related, or a failure
and the same one under other names. -/
inductive Matches (φ : Failure → Failure) (V : α → α → Prop) :
    Except Failure α → Except Failure α → Prop
  | ok {a a' : α} (h : V a a') : Matches φ V (.ok a) (.ok a')
  | error (failure : Failure) : Matches φ V (.error failure) (.error (φ failure))

variable {φ : Failure → Failure} {V : α → α → Prop} {x x' : Except Failure α}

/-- A result that is the same for both sides, up to the names in a failure. -/
theorem matches_mapError (x : Except Failure α) : Matches φ Eq x (x.mapError φ) := by
  cases x with
  | error failure => exact .error failure
  | ok a => exact .ok rfl

theorem Matches.eq (h : Matches φ Eq x x') : x' = x.mapError φ := by
  cases h with
  | ok h => rw [h]; rfl
  | error failure => rfl

theorem Matches.map {U : β → β → Prop} {f : α → β} (h : Matches φ V x x')
    (hf : ∀ a a', V a a' → U (f a) (f a')) : Matches φ U (x.map f) (x'.map f) := by
  cases h with
  | ok h => exact .ok (hf _ _ h)
  | error failure => exact .error failure

/-- Failures that are seen from further outside, where what was being done may have other names. -/
theorem Matches.whileDoing {context context' : Context} (h : Matches φ V x x')
    (hcontext : ∀ failure, φ (failure.within context) = (φ failure).within context') :
    Matches φ V (whileDoing context x) (whileDoing context' x') := by
  cases h with
  | ok h => exact .ok h
  | error failure =>
      have hfailure : Matches φ V (.error (failure.within context)) _ := .error _
      rw [hcontext] at hfailure
      exact hfailure

/-! ### Steps -/

/-- **Two steps keep a relation between states**, and their results correspond to each other. -/
def Keeps (φ : Failure → Failure) (R : σ → σ → Prop) (V : α → α → Prop) (act act' : Act σ α) :
    Prop :=
  ∀ s s', R s s' → Matches φ V (act s).1 (act' s').1 ∧ R (act s).2 (act' s').2

variable {R : σ → σ → Prop} {act act' : Act σ α}

theorem Keeps.pure {a a' : α} (h : V a a') :
    Keeps φ R V (Pure.pure a : Act σ α) (Pure.pure a' : Act σ α) :=
  fun _ _ hs => ⟨.ok h, hs⟩

theorem Keeps.ofResult (h : Matches φ V x x') :
    Keeps φ R V (Act.ofResult x : Act σ α) (Act.ofResult x' : Act σ α) :=
  fun _ _ hs => ⟨h, hs⟩

theorem Keeps.fail {cause : Cause} (hcause : φ ⟨cause, []⟩ = ⟨cause, []⟩) :
    Keeps φ R V (Act.fail cause : Act σ α) (Act.fail cause : Act σ α) := by
  intro s s' hs
  have hfailure : Matches φ V (.error ⟨cause, []⟩) _ := .error _
  rw [hcause] at hfailure
  exact ⟨hfailure, hs⟩

/-- **One step after the other**, from states that are known. -/
theorem matches_bind {U : β → β → Prop} {R' : σ → σ → Prop} {f f' : α → Act σ β} {s s' : σ}
    (hact : Matches φ V (act s).1 (act' s').1 ∧ R (act s).2 (act' s').2)
    (hR : ∀ t t', R t t' → R' t t')
    (hf : ∀ a a' t t', V a a' → R t t' → Matches φ U (f a t).1 (f' a' t').1 ∧
      R' (f a t).2 (f' a' t').2) :
    Matches φ U ((act >>= f) s).1 ((act' >>= f') s').1 ∧
      R' ((act >>= f) s).2 ((act' >>= f') s').2 := by
  obtain ⟨hresult, hafter⟩ := hact
  rw [bind_apply, bind_apply]
  rcases hleft : act s with ⟨r, t⟩
  rcases hright : act' s' with ⟨r', t'⟩
  rw [hleft, hright] at hresult hafter
  cases hresult with
  | ok h => exact hf _ _ t t' h hafter
  | error failure => exact ⟨.error failure, hR _ _ hafter⟩

/-- **One step after the other.** -/
theorem Keeps.bind {U : β → β → Prop} {f f' : α → Act σ β} (hact : Keeps φ R V act act')
    (hf : ∀ a a', V a a' → Keeps φ R U (f a) (f' a')) : Keeps φ R U (act >>= f) (act' >>= f') :=
  fun s s' hs => matches_bind (hact s s' hs) (fun _ _ h => h) fun a a' t t' ha => hf a a' ha t t'

/-- A step whose failure is a result. -/
theorem Keeps.attempt (h : Keeps φ R V act act') :
    Keeps φ R (Matches φ V) act.attempt act'.attempt :=
  fun s s' hs => ⟨.ok (h s s' hs).1, (h s s' hs).2⟩

theorem Keeps.within {context context' : Context} (h : Keeps φ R V act act')
    (hcontext : ∀ failure, φ (failure.within context) = (φ failure).within context') :
    Keeps φ R V (act.within context) (act'.within context') :=
  fun s s' hs => ⟨(h s s' hs).1.whileDoing hcontext, (h s s' hs).2⟩

/-- **The same for each element of two lists.** -/
theorem Keeps.forEach {B : β → β → Prop} {f f' : β → Act σ Unit} {bs bs' : List β}
    (hbs : List.Forall₂ B bs bs') (hf : ∀ b b', B b b' → Keeps φ R Eq (f b) (f' b')) :
    Keeps φ R Eq (Act.forEach f bs) (Act.forEach f' bs') := by
  induction hbs with
  | nil => exact .pure rfl
  | cons hb _ ih => exact .bind (hf _ _ hb) fun _ _ _ => ih

end LtoBridge.Act
