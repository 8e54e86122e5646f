/-
**What a transfer vector offers.**

A vector may name a function several times, also to take it back, and it may hold any number of
entries that mean nothing.  Of the entries up to the end of the vector, the last one for a function
counts; the function for resolutions is there if any of its versions was ever offered.

Main definitions:

* `LtoBridge.TransferVector.lastFunction?`: the function of the last entry for a call;
* `LtoBridge.TransferVector.OffersGetSymbols`: a version of the function for resolutions is offered;
* `LtoBridge.TransferVector.optionValues`: the options of a vector.

Main results:

* `LtoBridge.TransferVector.options_read`, `LtoBridge.TransferVector.address_read`,
  `LtoBridge.TransferVector.getSymbols_read`: **what a list of entries offers**.
-/

import LtoBridge.Linker.TransferVector
import Mathlib.Data.List.Induction

set_option autoImplicit false

namespace LtoBridge

/-! ### Single entries -/

/-- The function that an entry has for a call, if it is an entry for that call at all. -/
def Entry.provided? (call : LinkerCall) (e : Entry) : Option (Option Address) :=
  if e.meaning = .provides call then some e.value.function? else none

/-- The option that an entry holds, if it holds one. -/
def Entry.option? (e : Entry) : Option NulFree :=
  if e.meaning = .option then e.value.text? else none

/-- The meaning of an entry is one of the table. -/
theorem Entry.meaning_mem (e : Entry) : e.meaning ∈ tagMeanings ∨ e.meaning = .unknown := by
  rw [Entry.meaning, List.getD_eq_getElem?_getD]
  cases h : tagMeanings[e.tag.toNat]? with
  | none => exact .inr rfl
  | some meaning => exact .inl (List.mem_of_getElem? h)

/-- The function for resolutions is only offered in versions. -/
theorem Entry.ne_getSymbols {e : Entry} {call : LinkerCall} (h : e.meaning = .provides call) :
    call ≠ .getSymbols := by
  have htable : ∀ m ∈ tagMeanings, m ≠ .provides .getSymbols := by decide
  rintro rfl
  obtain hmem | hunknown := e.meaning_mem
  · exact htable _ hmem h
  · rw [h] at hunknown
    cases hunknown

/-- Versions are counted from 1 on. -/
theorem Entry.version_pos {e : Entry} {version : Nat}
    (h : e.meaning = .providesGetSymbols version) :
    0 < version := by
  have htable : ∀ m ∈ tagMeanings, m ≠ .providesGetSymbols 0 := by decide
  refine Nat.pos_of_ne_zero ?_
  rintro rfl
  obtain hmem | hunknown := e.meaning_mem
  · exact htable _ hmem h
  · rw [h] at hunknown
    cases hunknown

namespace TransferVector

/-! ### Whole vectors -/

/-- **The function of the last entry for a call**, up to the end of the vector. -/
def lastFunction? (entries : List Entry) (call : LinkerCall) : Option Address :=
  ((relevant entries).filterMap (Entry.provided? call)).getLast?.join

/-- **A version of the function for resolutions is offered** before the end of the vector. -/
def OffersGetSymbols (entries : List Entry) : Prop :=
  ∃ e ∈ relevant entries, (∃ version, e.meaning = .providesGetSymbols version) ∧
    e.value.function?.isSome = true

/-- **The options of a vector**, up to its end. -/
def optionValues (entries : List Entry) : List NulFree := (relevant entries).filterMap Entry.option?

theorem options_foldl (entries : List Entry) :
    (entries.foldl add {}).options = entries.filterMap Entry.option? := by
  induction entries using List.reverseRecOn with
  | nil => rfl
  | append_singleton entries e ih =>
      rw [List.foldl_append, List.foldl_cons, List.foldl_nil, List.filterMap_append, ← ih]
      simp only [List.filterMap_cons, List.filterMap_nil, Entry.option?, add]
      cases e.meaning with
      | option => cases e.value.text? <;> simp
      | _ => simp

theorem address_foldl {call : LinkerCall} (hcall : call ≠ .getSymbols) (entries : List Entry) :
    (entries.foldl add {}).bindings.address call =
      (entries.filterMap (Entry.provided? call)).getLast?.join := by
  induction entries using List.reverseRecOn with
  | nil => rfl
  | append_singleton entries e ih =>
      rw [List.foldl_append, List.foldl_cons, List.foldl_nil, List.filterMap_append]
      generalize entries.foldl add {} = t at ih ⊢
      simp only [List.filterMap_cons, List.filterMap_nil, Entry.provided?, add]
      cases hmeaning : e.meaning with
      | provides call' =>
          by_cases hsame : call' = call
          · subst hsame
            simp
          · simp [ih, hsame, Ne.symm hsame]
      | providesGetSymbols version =>
          -- another function is not touched
          simp only [Bindings.offerGetSymbols]
          split <;> simp [ih, hcall]
      | _ => simp [ih]

/-- The function for resolutions is there if it has a version, and if it was offered. -/
theorem getSymbols_foldl (entries : List Entry) :
    let b := (entries.foldl add {}).bindings
    ((b.address .getSymbols).isSome = true ↔ 0 < b.getSymbolsVersion) ∧
      ((b.address .getSymbols).isSome = true ↔ ∃ e ∈ entries,
        (∃ version, e.meaning = .providesGetSymbols version) ∧
          e.value.function?.isSome = true) := by
  induction entries using List.reverseRecOn with
  | nil => simp
  | append_singleton entries e ih =>
      rw [List.foldl_append, List.foldl_cons, List.foldl_nil]
      generalize entries.foldl add {} = t at ih ⊢
      obtain ⟨hversion, hoffered⟩ := ih
      simp only [List.mem_append, List.mem_singleton, or_and_right, exists_or, exists_eq_left,
        ← hoffered]
      simp only [add]
      cases hmeaning : e.meaning with
      | providesGetSymbols version =>
          have hpos := e.version_pos hmeaning
          simp only [Bindings.offerGetSymbols]
          split
          · rename_i hnew
            simp [hnew.2, hpos]
          · -- there is a version that is at least as new
            rename_i hold
            refine ⟨hversion, (or_iff_left_of_imp ?_).symm⟩
            rintro ⟨-, hfunction⟩
            refine hversion.2 (Nat.lt_of_lt_of_le hpos (Nat.not_lt.1 fun hnew => ?_))
            exact hold ⟨hnew, hfunction⟩
      | provides call =>
          have hother := e.ne_getSymbols hmeaning
          simp [hversion, hother.symm, Bindings.bind]
      | _ => simp [hversion]

/-- The options are those of the entries that hold options. -/
theorem options_read (entries : List Entry) : (read entries).options = optionValues entries :=
  options_foldl _

/-- **The last entry for a function counts.** -/
theorem address_read {call : LinkerCall} (hcall : call ≠ .getSymbols) (entries : List Entry) :
    (read entries).bindings.address call = lastFunction? entries call :=
  address_foldl hcall _

/-- **The function for resolutions is there if a version of it was offered.** -/
theorem getSymbols_read (entries : List Entry) :
    ((read entries).bindings.address .getSymbols).isSome = true ↔ OffersGetSymbols entries :=
  (getSymbols_foldl _).2

end TransferVector

end LtoBridge
