/-
**What is to be passed through.**

An option that begins with `-pass-through=` names an item, which goes to the linker as a library if
it begins with `-l`, and as a file otherwise.  The options of a session have these items, in the
order of the options, and no others.

Main definitions:

* `LtoBridge.PassThrough.effect`: the call by which an item goes to the linker;
* `LtoBridge.Options.directive?`: the call that an option asks for.

Main results:

* `LtoBridge.Options.directive?_eq_some_iff`: which options ask for which calls;
* `LtoBridge.Options.passThrough_of_parse`: **a session has the items that its options name**.
-/

import LtoBridge.Platform
import LtoBridge.Proofs.Options.Words

set_option autoImplicit false

namespace LtoBridge

/-- The call by which an item goes to the linker. -/
def PassThrough.effect : PassThrough → Effect
  | .library name => .addInputLibrary name
  | .file path => .addInputFile path

namespace Options

/-- The call that an option asks for, if it names an item to be passed through. -/
def directive? (option : String) : Option Effect :=
  (after? passThroughFlag option).map fun item => (passThroughItem item).effect

/-! ### Single options -/

/-- An item that begins with `-l` is a library. -/
theorem effect_library (name : String) :
    (passThroughItem ("-l" ++ name)).effect = .addInputLibrary name := by
  rw [passThroughItem_library, PassThrough.effect]

/-- Any other item is a file. -/
theorem effect_file {item : String} (h : ∀ name, item ≠ "-l" ++ name) :
    (passThroughItem item).effect = .addInputFile (Bytes.ofString item) := by
  rw [passThroughItem_file (not_exists.2 h), PassThrough.effect]

theorem directive?_passThrough (item : String) :
    directive? ("-pass-through=" ++ item) = some (passThroughItem item).effect := by
  have hitem : after? passThroughFlag ("-pass-through=" ++ item) = some item :=
    after?_eq_some_iff.2 rfl
  rw [directive?, hitem]
  rfl

theorem directive?_eq_none {option : String} (h : ¬Field.passThrough.Takes option) :
    directive? option = none := by
  have hnone : after? passThroughFlag option = none := after?_eq_none_iff.2 (not_exists.1 h)
  rw [directive?, hnone]
  rfl

/-- **Which options ask for which calls.** -/
theorem directive?_eq_some_iff {option : String} {e : Effect} :
    directive? option = some e ↔
      (∃ name, option = "-pass-through=" ++ ("-l" ++ name) ∧ e = .addInputLibrary name) ∨
        ∃ item, option = "-pass-through=" ++ item ∧ (∀ name, item ≠ "-l" ++ name) ∧
          e = .addInputFile (Bytes.ofString item) := by
  rw [directive?, Option.map_eq_some_iff]
  constructor
  · rintro ⟨item, hitem, rfl⟩
    have hoption : option = "-pass-through=" ++ item := after?_eq_some_iff.1 hitem
    by_cases hlibrary : ∃ name, item = "-l" ++ name
    · obtain ⟨name, rfl⟩ := hlibrary
      exact .inl ⟨name, hoption, effect_library name⟩
    · have hfile : ∀ name, item ≠ "-l" ++ name := not_exists.1 hlibrary
      exact .inr ⟨item, hoption, hfile, effect_file hfile⟩
  · rintro (⟨name, hoption, rfl⟩ | ⟨item, hoption, hfile, rfl⟩)
    · exact ⟨_, after?_eq_some_iff.2 hoption, effect_library name⟩
    · exact ⟨item, after?_eq_some_iff.2 hoption, effect_file hfile⟩

/-- An option names an item, or does not change which items there are. -/
theorem word_cases {option : String} {w : Word} (h : word option = .ok w) :
    (∃ item, w = .passThrough item ∧ directive? option = some item.effect) ∨
      (∀ o : Options, (o.add w).passThrough = o.passThrough) ∧ directive? option = none := by
  have hreads := reads_word option
  rw [h] at hreads
  cases hreads with
  | verbose | bypassBackend => exact .inr ⟨fun _ => rfl, rfl⟩
  | @resolutionFile path hpath =>
      have htakes : Field.resolutionFile.Takes ("-resolution=" ++ path) := ⟨path, rfl⟩
      exact .inr ⟨fun _ => rfl, directive?_eq_none (htakes.not_of_ne (by decide))⟩
  | library name =>
      exact .inl ⟨_, rfl, by rw [directive?_passThrough, passThroughItem_library]⟩
  | file hpath hfile =>
      exact .inl ⟨_, rfl, by rw [directive?_passThrough, passThroughItem_file hfile]⟩
  | backend htakes =>
      exact .inr ⟨fun _ => rfl, directive?_eq_none (htakes.not_of_ne (by decide))⟩

/-! ### Lists of options -/

/-- **A session has the items that its options name**, in the order of the options. -/
theorem passThrough_of_parse {args : List String} {options : Options}
    (h : parse args = .ok options) :
    options.passThrough.map PassThrough.effect = args.filterMap directive? := by
  have hfold : ∀ (args : List String) (o o' : Options),
      args.foldlM (fun o option => (word option).map o.add) o = .ok o' →
      o'.passThrough.map PassThrough.effect =
        o.passThrough.map PassThrough.effect ++ args.filterMap directive? := by
    intro args
    induction args with
    | nil =>
        intro o o' hfold
        cases hfold
        rw [List.filterMap_nil, List.append_nil]
    | cons option args ih =>
        intro o o' hfold
        rw [List.foldlM_cons] at hfold
        cases hword : word option with
        | error fault =>
            rw [hword] at hfold
            cases hfold
        | ok w =>
            rw [hword] at hfold
            rw [ih (o.add w) o' hfold]
            obtain ⟨item, rfl, hdirective⟩ | ⟨hsame, hdirective⟩ := word_cases hword
            · simp [add, hdirective]
            · simp [hsame, hdirective]
  simpa using hfold args {} options h

end Options

end LtoBridge
