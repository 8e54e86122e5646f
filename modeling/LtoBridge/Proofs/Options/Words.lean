/-
**What a single option says.**

Every option counts for exactly one field of what a list of options says.  Four fields are told by
how the option begins, and all other options are for the backend.  What the option says about its
field is listed here case by case, so that the order in which the cases are tested does not matter.

Main definitions:

* `LtoBridge.Options.BeginsWith`: texts that begin with another one;
* `LtoBridge.Options.Field.Takes`: the options that count for a field;
* `LtoBridge.Options.Reads`: what a single option says.

Main results:

* `LtoBridge.Options.existsUnique_takes`: **an option counts for exactly one field**;
* `LtoBridge.Options.reads_word`: an option says what it reads as.
-/

import LtoBridge.Options
import Mathlib.Data.List.Basic

set_option autoImplicit false

namespace LtoBridge.Options

/-! ### Beginnings -/

theorem after?_eq_some_iff {beginning text rest : String} :
    after? beginning text = some rest ↔ text = beginning ++ rest := by
  rw [after?, Option.map_eq_some_iff]
  constructor
  · rintro ⟨letters, hletters, rfl⟩
    rw [List.isPrefixOf?_eq_some_iff_append_eq] at hletters
    rw [← String.toList_inj, String.toList_append, String.toList_ofList, hletters]
  · rintro rfl
    refine ⟨rest.toList, ?_, String.ofList_toList⟩
    rw [List.isPrefixOf?_eq_some_iff_append_eq, String.toList_append]

theorem after?_eq_none_iff {beginning text : String} :
    after? beginning text = none ↔ ∀ rest, text ≠ beginning ++ rest := by
  rw [Option.eq_none_iff_forall_ne_some]
  exact forall_congr' fun rest => not_congr after?_eq_some_iff

/-- Does a text begin with another one? -/
def BeginsWith (beginning text : String) : Prop := ∃ rest, text = beginning ++ rest

instance (beginning text : String) : Decidable (BeginsWith beginning text) :=
  decidable_of_iff ((after? beginning text).isSome = true)
    (Option.isSome_iff_exists.trans (exists_congr fun _ => after?_eq_some_iff))

/-! ### What an option counts for -/

/-- The fields of what a list of options says. -/
inductive Field
  | verbose
  | bypassBackend
  | resolutionFile
  | passThrough
  | backendWords
  deriving DecidableEq

/-- **The options that count for a field.** -/
def Field.Takes : Field → String → Prop
  | verbose, option => option = "-debug"
  | bypassBackend, option => option = "-nop"
  | resolutionFile, option => BeginsWith "-resolution=" option
  | passThrough, option => BeginsWith "-pass-through=" option
  | backendWords, option => option ≠ "-debug" ∧ option ≠ "-nop" ∧
      ¬BeginsWith "-resolution=" option ∧ ¬BeginsWith "-pass-through=" option

instance (field : Field) (option : String) : Decidable (field.Takes option) :=
  match field with
  | .verbose => inferInstanceAs (Decidable (option = "-debug"))
  | .bypassBackend => inferInstanceAs (Decidable (option = "-nop"))
  | .resolutionFile => inferInstanceAs (Decidable (BeginsWith "-resolution=" option))
  | .passThrough => inferInstanceAs (Decidable (BeginsWith "-pass-through=" option))
  | .backendWords => inferInstanceAs (Decidable (option ≠ "-debug" ∧ option ≠ "-nop" ∧
      ¬BeginsWith "-resolution=" option ∧ ¬BeginsWith "-pass-through=" option))

variable {option : String} {field field' : Field}

/-- The second letter of the options that count for a field, unless it takes all other options. -/
def Field.letter? : Field → Option Char
  | verbose => some 'd'
  | bypassBackend => some 'n'
  | resolutionFile => some 'r'
  | passThrough => some 'p'
  | backendWords => none

-- no two of the four fields that have a letter have the same one
theorem Field.letter?_injective (h : field.letter? = field'.letter?) : field = field' := by
  revert h
  cases field <;> cases field' <;> decide

theorem Field.Takes.letter (h : field.Takes option) (hnamed : field ≠ .backendWords) :
    option.toList[1]? = field.letter? := by
  cases field with
  | verbose | bypassBackend =>
      obtain rfl := h
      rfl
  | resolutionFile | passThrough =>
      obtain ⟨rest, rfl⟩ := h
      simp [Field.letter?]
  | backendWords => exact absurd rfl hnamed

/-- An option for the backend counts for nothing else. -/
theorem Field.Takes.eq_backendWords (h : backendWords.Takes option) (h' : field.Takes option) :
    field = .backendWords := by
  obtain ⟨hdebug, hnop, hresolution, hpass⟩ := h
  cases field with
  | verbose => exact absurd h' hdebug
  | bypassBackend => exact absurd h' hnop
  | resolutionFile => exact absurd h' hresolution
  | passThrough => exact absurd h' hpass
  | backendWords => rfl

/-- An option counts for at most one field. -/
theorem Field.Takes.eq (h : field.Takes option) (h' : field'.Takes option) : field = field' := by
  by_cases hfield : field = .backendWords
  · subst hfield
    exact (h.eq_backendWords h').symm
  by_cases hfield' : field' = .backendWords
  · subst hfield'
    exact h'.eq_backendWords h
  · exact Field.letter?_injective ((h.letter hfield).symm.trans (h'.letter hfield'))

/-- An option counts for at least one field. -/
theorem exists_takes (option : String) : ∃ field : Field, field.Takes option := by
  by_cases hdebug : Field.verbose.Takes option
  · exact ⟨_, hdebug⟩
  by_cases hnop : Field.bypassBackend.Takes option
  · exact ⟨_, hnop⟩
  by_cases hresolution : Field.resolutionFile.Takes option
  · exact ⟨_, hresolution⟩
  by_cases hpass : Field.passThrough.Takes option
  · exact ⟨_, hpass⟩
  · exact ⟨.backendWords, hdebug, hnop, hresolution, hpass⟩

/-- **An option counts for exactly one field.** -/
theorem existsUnique_takes (option : String) : ∃! field : Field, field.Takes option := by
  obtain ⟨field, h⟩ := exists_takes option
  exact ⟨field, h, fun _ h' => h'.eq h⟩

theorem Field.Takes.iff_eq (h : field.Takes option) (field' : Field) :
    field'.Takes option ↔ field' = field :=
  ⟨fun h' => h'.eq h, fun heq => heq ▸ h⟩

theorem Field.Takes.not_of_ne (h : field.Takes option) (hne : field' ≠ field) :
    ¬field'.Takes option :=
  fun h' => hne (h'.eq h)

/-! ### What a single option says -/

/-- The option that has a fault. -/
def Fault.culprit : Fault → String
  | missingResolutionPath => "-resolution="
  | missingPassThroughItem => "-pass-through="

/-- The message of a fault ends with the option that has it. -/
theorem Fault.exists_message_eq (fault : Fault) :
    ∃ words, fault.message = words ++ fault.culprit := by
  cases fault with
  | missingResolutionPath => exact ⟨"Missing path for ", rfl⟩
  | missingPassThroughItem => exact ⟨"Missing value for ", rfl⟩

/-- **What a single option says.** -/
inductive Reads : String → Except Fault Word → Prop
  | verbose : Reads "-debug" (.ok .verbose)
  | bypassBackend : Reads "-nop" (.ok .bypassBackend)
  | fault (fault : Fault) : Reads fault.culprit (.error fault)
  | resolutionFile {path : String} (hpath : path ≠ "") :
      Reads ("-resolution=" ++ path) (.ok (.resolutionFile (Bytes.ofString path)))
  | library (name : String) :
      Reads ("-pass-through=" ++ ("-l" ++ name)) (.ok (.passThrough (.library name)))
  | file {path : String} (hpath : path ≠ "") (hfile : ¬BeginsWith "-l" path) :
      Reads ("-pass-through=" ++ path) (.ok (.passThrough (.file (Bytes.ofString path))))
  | backend {option : String} (h : Field.backendWords.Takes option) :
      Reads option (.ok (.backend option))

theorem passThroughItem_library (name : String) :
    passThroughItem ("-l" ++ name) = .library name := by
  have hname : after? libraryFlag ("-l" ++ name) = some name := after?_eq_some_iff.2 rfl
  simp only [passThroughItem, hname]

theorem passThroughItem_file {path : String} (h : ¬BeginsWith "-l" path) :
    passThroughItem path = .file (Bytes.ofString path) := by
  have hpath : after? libraryFlag path = none :=
    after?_eq_none_iff.2 fun rest hrest => h ⟨rest, hrest⟩
  simp only [passThroughItem, hpath]

theorem word_resolution (path : String) :
    word ("-resolution=" ++ path) =
      if path = "" then .error .missingResolutionPath
      else .ok (.resolutionFile (Bytes.ofString path)) := by
  have htakes : Field.resolutionFile.Takes ("-resolution=" ++ path) := ⟨path, rfl⟩
  have hdebug : "-resolution=" ++ path ≠ "-debug" :=
    htakes.not_of_ne (show Field.verbose ≠ _ by decide)
  have hnop : "-resolution=" ++ path ≠ "-nop" :=
    htakes.not_of_ne (show Field.bypassBackend ≠ _ by decide)
  have hpath : after? resolutionFlag ("-resolution=" ++ path) = some path :=
    after?_eq_some_iff.2 rfl
  simp only [word, if_neg hdebug, if_neg hnop, hpath]

theorem word_passThrough (item : String) :
    word ("-pass-through=" ++ item) =
      if item = "" then .error .missingPassThroughItem
      else .ok (.passThrough (passThroughItem item)) := by
  have htakes : Field.passThrough.Takes ("-pass-through=" ++ item) := ⟨item, rfl⟩
  have hdebug : "-pass-through=" ++ item ≠ "-debug" :=
    htakes.not_of_ne (show Field.verbose ≠ _ by decide)
  have hnop : "-pass-through=" ++ item ≠ "-nop" :=
    htakes.not_of_ne (show Field.bypassBackend ≠ _ by decide)
  have hresolution : after? resolutionFlag ("-pass-through=" ++ item) = none :=
    after?_eq_none_iff.2 (not_exists.1 (htakes.not_of_ne (show Field.resolutionFile ≠ _ by decide)))
  have hitem : after? passThroughFlag ("-pass-through=" ++ item) = some item :=
    after?_eq_some_iff.2 rfl
  simp only [word, if_neg hdebug, if_neg hnop, hresolution, hitem]

theorem word_of_backendWords (h : Field.backendWords.Takes option) :
    word option = .ok (.backend option) := by
  obtain ⟨hdebug, hnop, hresolution, hpass⟩ := h
  have hnoPath : after? resolutionFlag option = none :=
    after?_eq_none_iff.2 (not_exists.1 hresolution)
  have hnoItem : after? passThroughFlag option = none :=
    after?_eq_none_iff.2 (not_exists.1 hpass)
  simp only [word, if_neg hdebug, if_neg hnop, hnoPath, hnoItem]

/-- **An option says what it reads as.** -/
theorem reads_word (option : String) : Reads option (word option) := by
  obtain ⟨field, h⟩ := exists_takes option
  cases field with
  | verbose =>
      obtain rfl := h
      exact .verbose
  | bypassBackend =>
      obtain rfl := h
      exact .bypassBackend
  | resolutionFile =>
      obtain ⟨path, rfl⟩ := h
      rw [word_resolution]
      by_cases hpath : path = ""
      · rw [if_pos hpath, hpath]
        exact .fault .missingResolutionPath
      · rw [if_neg hpath]
        exact .resolutionFile hpath
  | passThrough =>
      obtain ⟨item, rfl⟩ := h
      rw [word_passThrough]
      by_cases hitem : item = ""
      · rw [if_pos hitem, hitem]
        exact .fault .missingPassThroughItem
      rw [if_neg hitem]
      by_cases hlibrary : BeginsWith "-l" item
      · obtain ⟨name, rfl⟩ := hlibrary
        rw [passThroughItem_library]
        exact .library name
      · rw [passThroughItem_file hlibrary]
        exact .file hitem hlibrary
  | backendWords =>
      rw [word_of_backendWords h]
      exact .backend h

/-- An option has a fault exactly if it has nothing but a flag that needs a value. -/
theorem word_eq_error_iff {fault : Fault} :
    word option = .error fault ↔ option = fault.culprit := by
  constructor
  · intro h
    have hreads := reads_word option
    rw [h] at hreads
    cases hreads
    rfl
  · rintro rfl
    cases fault <;> rfl

end LtoBridge.Options
