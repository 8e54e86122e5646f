/-
**What becomes of the codes that a linker writes.**

A linker is asked for resolutions with an array of records, and writes codes into them.  These codes
are read only if the linker says that it succeeded, one after the other up to the first one that
means nothing; each of them is about the symbol at its own position.

Main definitions:

* `LtoBridge.RawSymbol.Describes`: what a record says about a symbol;
* `LtoBridge.Symbol.NamedUpTo`: the first symbols have the resolutions that codes name.

Main results:

* `LtoBridge.BoundLinker.resolutions_of_valid`, `LtoBridge.BoundLinker.resolutions_of_invalid`: all
  codes are read, or those before the first one that means nothing;
* `LtoBridge.BoundLinker.codes_name_resolutions`: **what is made of every status and all codes**.
-/

import LtoBridge.Proofs.Linker.Pinned
import Mathlib.Data.List.Forall2
import Mathlib.Tactic.IntervalCases

set_option autoImplicit false

namespace LtoBridge

/-! ### Codes -/

/-- Does a code stand for a resolution? -/
def Resolution.IsCode (code : Int) : Prop := 0 ≤ code ∧ code ≤ 9

instance (code : Int) : Decidable (Resolution.IsCode code) :=
  inferInstanceAs (Decidable (_ ∧ _))

theorem Resolution.isCode_code (r : Resolution) : IsCode r.code := by
  cases r <;> decide

/-- The codes of the resolutions are the numbers up to 9. -/
theorem Resolution.exists_ofCode?_eq {code : Int} (h : IsCode code) :
    ∃ r, ofCode? code = some r ∧ r.code = code := by
  obtain ⟨hlow, hhigh⟩ := h
  have hsome : ∃ r, ofCode? code = some r := by
    interval_cases code <;> exact ⟨_, rfl⟩
  obtain ⟨r, hr⟩ := hsome
  exact ⟨r, hr, (ofCode?_eq_some_iff.1 hr).symm⟩

theorem Resolution.ofCode?_eq_none {code : Int} (h : ¬ IsCode code) : ofCode? code = none := by
  cases hr : ofCode? code with
  | none => rfl
  | some r =>
      rw [ofCode?_eq_some_iff.1 hr] at h
      exact absurd r.isCode_code h

/-- The message of a failure without a context. -/
theorem Failure.message_of_cause (cause : Cause) : Failure.message ⟨cause, []⟩ = cause.message := by
  simp [Failure.message, Failure.texts]

/-! ### Symbols with resolutions -/

/-- **The first `n` symbols have the resolutions that codes name**, and nothing else has changed. -/
structure Symbol.NamedUpTo (n : Nat) (symbols : List Symbol) (codes : List Int)
    (symbols' : List Symbol) : Prop where
  length : symbols'.length = symbols.length
  named : ∀ i < n, ∀ symbol, symbols[i]? = some symbol → ∃ resolution : Resolution,
    codes[i]? = some resolution.code ∧ symbols'[i]? = some { symbol with resolution }
  kept : ∀ i, n ≤ i → symbols'[i]? = symbols[i]?

namespace SymbolTable

/-- A resolution is entered for the symbol at its own position. -/
theorem getElem?_assignEntries (entries : List SymbolEntry) (entered : List (Option Resolution))
    (i : Nat) :
    (assignEntries entries entered)[i]? = entries[i]?.map (·.resolved entered[i]?.join) := by
  induction entries generalizing entered i with
  | nil => cases entered <;> rfl
  | cons e entries ih =>
      rw [assignEntries_cons]
      cases i with
      | zero => cases entered <;> rfl
      | succ i =>
          rw [List.getElem?_cons_succ, List.getElem?_cons_succ, ih]
          cases entered <;> simp

theorem getElem?_symbols_assign (t : SymbolTable) (entered : List (Option Resolution)) (i : Nat) :
    (t.assign entered).symbols[i]? = t.symbols[i]?.map (·.resolved entered[i]?.join) := by
  simp only [symbols, assign, List.getElem?_map, getElem?_assignEntries, Option.map_map]
  rfl

theorem assign_nil (t : SymbolTable) : t.assign [] = t := by
  simp [assign]

/-- Resolutions that were read from valid codes are those that these codes name. -/
theorem namedUpTo_assign (t : SymbolTable) {codes before : List Int} (hbefore : before <+: codes)
    (hvalid : ∀ code ∈ before, Resolution.IsCode code) :
    Symbol.NamedUpTo before.length t.symbols codes
      (t.assign (before.map Resolution.ofCode?)).symbols := by
  refine ⟨?_, ?_, ?_⟩
  · simpa [identities] using congrArg List.length
      (t.identities_assign (before.map Resolution.ofCode?))
  · intro i hi symbol hsymbol
    obtain ⟨resolution, hresolution, hcode⟩ :=
      Resolution.exists_ofCode?_eq (hvalid before[i] (List.getElem_mem hi))
    refine ⟨resolution, ?_, ?_⟩
    · obtain ⟨rest, rfl⟩ := hbefore
      rw [hcode, List.getElem?_append_left hi, List.getElem?_eq_getElem hi]
    · have hentered : (before.map Resolution.ofCode?)[i]?.join = some resolution := by
        rw [List.getElem?_map, List.getElem?_eq_getElem hi]
        simpa using hresolution
      rw [getElem?_symbols_assign, hsymbol, hentered]
      rfl
  · intro i hi
    have hentered : (before.map Resolution.ofCode?)[i]?.join = none := by
      rw [List.getElem?_eq_none (by simpa using hi)]
      rfl
    rw [getElem?_symbols_assign, hentered]
    cases t.symbols[i]? <;> rfl

end SymbolTable

/-! ### Records -/

/-- **What a record says about a symbol**: all that is known about it, but for its resolution, which
is unknown to the linker.  The record has no key if and only if the symbol has none. -/
structure RawSymbol.Describes (record : RawSymbol) (symbol : Symbol) : Prop where
  name : record.name = symbol.name
  comdatKey : record.comdatKey = symbol.comdatKey
  definition : record.definition = symbol.kind.code
  visibility : record.visibility = symbol.visibility.code
  size : record.size = symbol.size
  resolution : record.resolution = Resolution.unknown.code

theorem Symbol.describes_raw (symbol : Symbol) : symbol.raw.Describes symbol :=
  ⟨rfl, rfl, rfl, rfl, rfl, rfl⟩

namespace BoundLinker

/-- There is one code for each record. -/
theorem length_codes (array : List RawSymbol) (entered : List Int) :
    (codes array entered).length = array.length := by
  simp only [codes, List.length_take, List.length_append, List.length_map, List.length_drop]
  omega

/-- A record has the code that was entered for it, or still its own. -/
theorem getElem?_codes {array : List RawSymbol} {i : Nat} {record : RawSymbol}
    (hrecord : array[i]? = some record) (entered : List Int) :
    (codes array entered)[i]? = some (entered[i]?.getD record.resolution) := by
  obtain ⟨hi, -⟩ := List.getElem?_eq_some_iff.1 hrecord
  rw [codes, List.getElem?_take_of_lt hi]
  rcases Nat.lt_or_ge i entered.length with hlt | hge
  · rw [List.getElem?_append_left hlt, List.getElem?_eq_getElem hlt]
    rfl
  · have hposition : entered.length + (i - entered.length) = i := by omega
    rw [List.getElem?_append_right hge, List.getElem?_map, List.getElem?_drop, hposition, hrecord,
      List.getElem?_eq_none hge]
    rfl

/-- **All codes are read** if all of them stand for resolutions. -/
theorem resolutions_of_valid {symbols : List Symbol} {codes : List Int}
    (hlength : codes.length = symbols.length) (hvalid : ∀ code ∈ codes, Resolution.IsCode code) :
    resolutions symbols codes = (.ok (), codes.map Resolution.ofCode?) := by
  induction symbols generalizing codes with
  | nil =>
      obtain rfl : codes = [] := by simpa using hlength
      rfl
  | cons symbol symbols ih =>
      cases codes with
      | nil => cases hlength
      | cons code codes =>
          rw [List.forall_mem_cons] at hvalid
          obtain ⟨resolution, hresolution, -⟩ := Resolution.exists_ofCode?_eq hvalid.1
          have hrest := ih (by simpa using hlength) hvalid.2
          simp only [resolutions, hresolution, hrest, List.map_cons]

/-- **The first code that means nothing ends the reading**, and is reported with its symbol. -/
theorem resolutions_of_invalid {symbols : List Symbol} {codes : List Int} {i : Nat} {code : Int}
    {symbol : Symbol} (hcode : codes[i]? = some code) (hsymbol : symbols[i]? = some symbol)
    (hinvalid : ¬ Resolution.IsCode code)
    (hvalid : ∀ code ∈ codes.take i, Resolution.IsCode code) :
    resolutions symbols codes = (.error ⟨.invalidResolution code symbol.name.bytes, []⟩,
      (codes.take i).map Resolution.ofCode?) := by
  induction i generalizing symbols codes with
  | zero =>
      cases symbols with
      | nil => cases hsymbol
      | cons symbol' symbols =>
          cases codes with
          | nil => cases hcode
          | cons code' codes =>
              obtain rfl := Option.some.inj hcode
              obtain rfl := Option.some.inj hsymbol
              simp only [resolutions, Resolution.ofCode?_eq_none hinvalid, List.take_zero,
                List.map_nil]
  | succ i ih =>
      cases symbols with
      | nil => cases hsymbol
      | cons symbol' symbols =>
          cases codes with
          | nil => cases hcode
          | cons code' codes =>
              rw [List.take_succ_cons, List.forall_mem_cons] at hvalid
              obtain ⟨resolution, hresolution, -⟩ := Resolution.exists_ofCode?_eq hvalid.1
              have hrest := ih (by simpa using hcode) (by simpa using hsymbol) hvalid.2
              simp only [resolutions, hresolution, hrest, List.take_succ_cons, List.map_cons]

variable {R : Type} [RawLinker R] {l : BoundLinker R} {function : Address}

/-- What is made of a status and of the codes that are in the records then. -/
def answerOf (symbols : List Symbol) (status : Int) (written : List Int) : ResolutionAnswer :=
  if status = statusNoSymbols then ⟨.ok false, []⟩
  else if status = statusOk then
    ⟨(resolutions symbols written).1.map fun _ => true, (resolutions symbols written).2⟩
  else ⟨.error ⟨.refused .getSymbols status, []⟩, []⟩

/-- **A linker that has the function is asked once**, with a record for each symbol. -/
theorem getSymbols_of_bound (hbound : l.bindings.address .getSymbols = some function)
    (handle : Handle) {symbols : List Symbol} (hcount : symbols.length < countLimit) :
    getSymbols handle symbols l =
      let array := symbols.map Symbol.raw
      let ((status, entered), raw) := RawLinker.getSymbols function handle array l.raw
      (answerOf symbols status (codes array entered), { l with raw }) := by
  rcases hcall : RawLinker.getSymbols function handle (symbols.map Symbol.raw) l.raw with
    ⟨⟨status, entered⟩, raw⟩
  simp only [getSymbols, hbound, records, if_pos hcount, onRaw, hcall, answerOf, checkStatus]
  by_cases hloaded : status = statusNoSymbols
  · rw [if_pos hloaded, if_pos hloaded]
  · rw [if_neg hloaded, if_neg hloaded]
    by_cases hstatus : status = statusOk
    · simp only [if_pos hstatus]
    · simp only [if_neg hstatus]

/-- Valid codes name the resolutions of all symbols. -/
theorem answerOf_of_valid (t : SymbolTable) {written : List Int} (hlength : written.length = t.size)
    (hvalid : ∀ code ∈ written, Resolution.IsCode code) :
    (answerOf t.symbols statusOk written).loaded = .ok true ∧
      Symbol.NamedUpTo t.size t.symbols written
        (t.assign (answerOf t.symbols statusOk written).entered).symbols := by
  have hanswer : answerOf t.symbols statusOk written =
      ⟨.ok true, written.map Resolution.ofCode?⟩ := by
    have hread := resolutions_of_valid (hlength.trans t.length_symbols.symm) hvalid
    rw [answerOf, if_neg (by decide), if_pos rfl, hread]
    rfl
  rw [hanswer]
  exact ⟨rfl, hlength ▸ t.namedUpTo_assign List.prefix_rfl hvalid⟩

/-- The first invalid code is reported with its symbol, and those before it are not lost. -/
theorem answerOf_of_invalid (t : SymbolTable) {written : List Int} {i : Nat} {code : Int}
    {symbol : Symbol} (hcode : written[i]? = some code) (hsymbol : t.symbols[i]? = some symbol)
    (hinvalid : ¬ Resolution.IsCode code)
    (hvalid : ∀ code ∈ written.take i, Resolution.IsCode code) :
    (answerOf t.symbols statusOk written).loaded =
        .error ⟨.invalidResolution code symbol.name.bytes, []⟩ ∧
      Symbol.NamedUpTo i t.symbols written
        (t.assign (answerOf t.symbols statusOk written).entered).symbols := by
  have hanswer : answerOf t.symbols statusOk written =
      ⟨.error ⟨.invalidResolution code symbol.name.bytes, []⟩,
        (written.take i).map Resolution.ofCode?⟩ := by
    rw [answerOf, if_neg (by decide), if_pos rfl,
      resolutions_of_invalid hcode hsymbol hinvalid hvalid]
    rfl
  have hlength : (written.take i).length = i := by
    obtain ⟨hi, -⟩ := List.getElem?_eq_some_iff.1 hcode
    exact List.length_take_of_le (Nat.le_of_lt hi)
  have hnamed := t.namedUpTo_assign (List.take_prefix i written) hvalid
  rw [hlength] at hnamed
  rw [hanswer]
  exact ⟨rfl, hnamed⟩

/-- Any other status is an error, whatever was written. -/
theorem answerOf_of_refused {symbols : List Symbol} {status : Int} {written : List Int}
    (hok : status ≠ statusOk) (hloaded : status ≠ statusNoSymbols) :
    answerOf symbols status written = ⟨.error ⟨.refused .getSymbols status, []⟩, []⟩ := by
  rw [answerOf, if_neg hloaded, if_neg hok]

/-- **What is made of every status and all codes.**  The linker is asked once, with one record for
each symbol, in order, whose resolution is unknown; the codes that count are those in the records
afterwards.  If the linker says that it did not load the file, no symbol changes, whatever it wrote.
If it succeeded and all codes stand for resolutions, then each symbol has the one that the code at
its position names.  The first code that stands for none is reported with its symbol; the symbols
before it have their resolutions by then, and the others are as before.  Any other status is an
error, and no symbol changes.  Slots never change. -/
theorem codes_name_resolutions (hbound : l.bindings.address .getSymbols = some function)
    (handle : Handle) (t : SymbolTable) (hcount : t.size < countLimit) :
    ∃ array : List RawSymbol, List.Forall₂ RawSymbol.Describes array t.symbols ∧
      let ((status, entered), raw) := RawLinker.getSymbols function handle array l.raw
      let (answer, l') := getSymbols handle t.symbols l
      let written := codes array entered
      let t' := t.assign answer.entered
      l' = { l with raw } ∧ t'.slots = t.slots ∧ written.length = t.size ∧
      (∀ i < t.size, written[i]? = some (entered[i]?.getD Resolution.unknown.code)) ∧
      (status = 1 → answer.loaded = .ok false ∧ t' = t) ∧
      (status = 0 → (∀ code ∈ written, Resolution.IsCode code) →
        answer.loaded = .ok true ∧ Symbol.NamedUpTo t.size t.symbols written t'.symbols) ∧
      (status = 0 → ∀ i code symbol, written[i]? = some code → t.symbols[i]? = some symbol →
        ¬ Resolution.IsCode code → (∀ code ∈ written.take i, Resolution.IsCode code) →
          Symbol.NamedUpTo i t.symbols written t'.symbols ∧
          ∃ failure, answer.loaded = .error failure ∧
            failure.message = "Linker returned invalid resolution " ++ toString code ++ " for `" ++
              Utf8.lossy symbol.name.bytes ++ "`") ∧
      (status ≠ 0 → status ≠ 1 → t' = t ∧
        ∃ failure, answer.loaded = .error failure ∧
          failure.message = "get_symbols: " ++ linkerStatusWording status) := by
  have hrecords : List.Forall₂ RawSymbol.Describes (t.symbols.map Symbol.raw) t.symbols := by
    rw [List.forall₂_map_left_iff, List.forall₂_same]
    exact fun symbol _ => symbol.describes_raw
  have hsymbols : t.symbols.length < countLimit := by rwa [t.length_symbols]
  have hasked := getSymbols_of_bound hbound handle hsymbols
  rcases hcall : RawLinker.getSymbols function handle (t.symbols.map Symbol.raw) l.raw with
    ⟨⟨status, entered⟩, raw⟩
  have hlength : (codes (t.symbols.map Symbol.raw) entered).length = t.size := by
    rw [length_codes, List.length_map, t.length_symbols]
  refine ⟨t.symbols.map Symbol.raw, hrecords, ?_⟩
  simp only [hcall] at hasked
  simp only [hasked, hcall]
  refine ⟨trivial, t.slots_assign _, hlength, ?_, ?_, ?_, ?_, ?_⟩
  · intro i hi
    rw [← t.length_symbols] at hi
    have hrecord : (t.symbols.map Symbol.raw)[i]? = some t.symbols[i].raw := by
      rw [List.getElem?_map, List.getElem?_eq_getElem hi]
      rfl
    exact getElem?_codes hrecord entered
  · rintro rfl
    exact ⟨rfl, t.assign_nil⟩
  · rintro rfl hvalid
    exact answerOf_of_valid t hlength hvalid
  · rintro rfl i code symbol hcode hsymbol hinvalid hvalid
    obtain ⟨hloaded, hnamed⟩ := answerOf_of_invalid t hcode hsymbol hinvalid hvalid
    refine ⟨hnamed, _, hloaded, ?_⟩
    rw [Failure.message_of_cause]
    rfl
  · intro hok hnone
    rw [answerOf_of_refused hok hnone]
    refine ⟨t.assign_nil, _, rfl, ?_⟩
    rw [Failure.message_of_cause]
    rfl

/-- A linker that enters a resolution for the first of two symbols, and for the second one a code
that means nothing. -/
def confusedLinker : BoundLinker RecordedLinker where
  raw := { resolutions := [(1, [2, 77])] }
  bindings := (TransferVector.read [⟨28, .word 28⟩]).bindings

/-- Two symbols, one of which is in a group. -/
def groupedTable : SymbolTable :=
  ⟨[⟨{ name := .upToZero [102], comdatKey := some (.upToZero [103]), kind := .definition,
        visibility := .default, size := 4 }, 7⟩,
    ⟨{ name := .upToZero [104], comdatKey := none, kind := .undefined, visibility := .hidden,
        size := 0 }, 8⟩]⟩

theorem codes_name_resolutions_sample :
    let answer := (getSymbols 1 groupedTable.symbols confusedLinker).1
    (∃ failure, answer.loaded = .error failure ∧
      failure.message = "Linker returned invalid resolution 77 for `h`") ∧
      Symbol.NamedUpTo 1 groupedTable.symbols [2, 77]
        (groupedTable.assign answer.entered).symbols := by
  have hbound : confusedLinker.bindings.address .getSymbols = some 28 := by decide
  obtain ⟨array, hdescribes, hread⟩ := codes_name_resolutions hbound 1 groupedTable (by decide)
  have hlength : array.length = 2 := hdescribes.length_eq
  obtain ⟨record, record', rfl⟩ := List.length_eq_two.1 hlength
  obtain ⟨-, -, -, -, -, -, hinvalid, -⟩ := hread
  obtain ⟨hnamed, failure, hloaded, hmessage⟩ := hinvalid rfl 1 77 _ rfl rfl (by decide)
    (show ∀ code ∈ [2], Resolution.IsCode code by decide)
  refine ⟨⟨failure, hloaded, ?_⟩, hnamed⟩
  rw [hmessage]
  decide

end BoundLinker

end LtoBridge
