/-
**Why data are no symbol table.**

Reading a table fails at the first record that is not whole and valid.  What is wrong with that
record can be told from the bytes from its beginning on: each fault has a form of its own, and data
that are in none of these forms begin with a record.

Main definitions:

* `LtoBridge.BeginsWithStrings`: two strings and what follows them;
* `LtoBridge.EntryFault.Explains`: **the form of the data that have a fault**, without reference to
  reading.

Main results:

* `LtoBridge.SymbolEntry.begins_or_explained`: data begin with a record, or have a fault;
* `LtoBridge.SymbolEntry.decode_eq_error_iff`: **the fault that is reported is the one they have**;
* `LtoBridge.SymbolTable.decodeEntries_eq_error_iff`: it is reported of the first record that has
  one;
* `LtoBridge.SymbolTable.faults_are_diagnosed`: both of these, for a table from its beginning.
-/

import LtoBridge.Proofs.SymbolTable.RoundTrip

set_option autoImplicit false

namespace LtoBridge

/-! ### The forms of malformed data -/

/-- Two strings, each ended by a zero byte, and what follows them. -/
def BeginsWithStrings (data rest : Bytes) : Prop :=
  ∃ name key : Bytes, 0 ∉ name ∧ 0 ∉ key ∧ data = name ++ 0 :: (key ++ 0 :: rest)

/-- **The data have the fault.**  A fault is one of the first thing in a record that is not as it
should be, and a code that is there is looked at before the numbers that follow it. -/
def EntryFault.Explains : EntryFault → Bytes → Prop
  | .unterminatedName, data => 0 ∉ data
  | .unterminatedComdatKey, data =>
      ∃ name rest : Bytes, 0 ∉ name ∧ 0 ∉ rest ∧ data = name ++ 0 :: rest
  | .truncated .codes, data => ∃ rest, BeginsWithStrings data rest ∧ rest.length < 2
  | .invalidKind kind, data =>
      ∃ visibility rest, BeginsWithStrings data (kind :: visibility :: rest) ∧ 4 < kind
  | .invalidVisibility visibility, data =>
      ∃ kind rest, BeginsWithStrings data (kind :: visibility :: rest) ∧ kind ≤ 4 ∧ 3 < visibility
  | .truncated .size, data =>
      ∃ kind visibility rest, BeginsWithStrings data (kind :: visibility :: rest) ∧ kind ≤ 4 ∧
        visibility ≤ 3 ∧ rest.length < 8
  | .truncated .slot, data =>
      ∃ kind visibility rest, BeginsWithStrings data (kind :: visibility :: rest) ∧ kind ≤ 4 ∧
        visibility ≤ 3 ∧ 8 ≤ rest.length ∧ rest.length < 12

/-! ### Reading the parts of a record -/

/-- A string without an end cannot be split off. -/
theorem NulFree.split?_eq_none_iff {data : Bytes} : split? data = none ↔ 0 ∉ data := by
  constructor
  · intro h hmem
    obtain ⟨front, rest, rfl, hfront⟩ := List.eq_append_cons_of_mem hmem
    have hsplit := split?_terminated_append ⟨front, hfront⟩ rest
    have hdata : terminated ⟨front, hfront⟩ ++ rest = front ++ 0 :: rest := by simp [terminated]
    rw [hdata, h] at hsplit
    cases hsplit
  · intro h
    cases hsplit : split? data with
    | none => rfl
    | some found =>
        have hdata := eq_terminated_append_of_split? hsplit
        rw [hdata] at h
        exact absurd (by simp [terminated]) h

/-- A field that is not there in full cannot be split off. -/
theorem FixedField.split?_eq_none (field : FixedField) {data : Bytes}
    (h : data.length < field.width) : field.split? data = none := by
  rw [FixedField.split?, if_neg]
  rw [List.length_take]
  omega

/-- A field that is there in full is followed by the rest of the data. -/
theorem FixedField.exists_eq_append (field : FixedField) {data : Bytes}
    (h : field.width ≤ data.length) :
    ∃ bs rest : Bytes, data = bs ++ rest ∧ bs.length = field.width :=
  ⟨data.take field.width, data.drop field.width, (List.take_append_drop _ _).symm,
    List.length_take_of_le h⟩

/-- The codes beyond those of kinds stand for none. -/
theorem SymbolKind.ofCode?_eq_none {code : UInt8} (h : 4 < code) : ofCode? code = none := by
  cases hkind : ofCode? code with
  | none => rfl
  | some kind =>
      obtain rfl := ofCode?_eq_some_iff.1 hkind
      revert h
      cases kind <;> decide

/-- The codes beyond those of visibilities stand for none. -/
theorem Visibility.ofCode?_eq_none {code : UInt8} (h : 3 < code) : ofCode? code = none := by
  cases hvisibility : ofCode? code with
  | none => rfl
  | some visibility =>
      obtain rfl := ofCode?_eq_some_iff.1 hvisibility
      revert h
      cases visibility <;> decide

/-- Data that begin with two strings, in the form in which strings are written. -/
theorem BeginsWithStrings.exists_terminated {data rest : Bytes} (h : BeginsWithStrings data rest) :
    ∃ name key : NulFree, data = name.terminated ++ (key.terminated ++ rest) := by
  obtain ⟨name, key, hname, hkey, rfl⟩ := h
  exact ⟨⟨name, hname⟩, ⟨key, hkey⟩, by simp [NulFree.terminated]⟩

theorem beginsWithStrings_terminated (name key : NulFree) (rest : Bytes) :
    BeginsWithStrings (name.terminated ++ (key.terminated ++ rest)) rest :=
  ⟨name.bytes, key.bytes, name.zero_not_mem, key.zero_not_mem, by simp [NulFree.terminated]⟩

namespace SymbolEntry

/-! ### Reading data with a fault -/

/-- **A fault that the data have is reported.** -/
theorem decode_of_explains {fault : EntryFault} {data : Bytes} (h : fault.Explains data) :
    decode data = .error fault := by
  have hcodes : ∀ (kind visibility : UInt8) (rest : Bytes), FixedField.codes.split?
      (kind :: visibility :: rest) = some ([kind, visibility], rest) := by
    intro kind visibility rest
    have hwidth : [kind, visibility].length = FixedField.codes.width := rfl
    exact FixedField.split?_append rest hwidth
  cases fault with
  | unterminatedName =>
      have hname := NulFree.split?_eq_none_iff.2 h
      simp [decode, hname, EntryFault.unless, bind, Except.bind]
  | unterminatedComdatKey =>
      obtain ⟨name, rest, hname, hrest, rfl⟩ := h
      have hsplit := NulFree.split?_terminated_append ⟨name, hname⟩ rest
      have hkey := NulFree.split?_eq_none_iff.2 hrest
      simp only [NulFree.terminated, List.append_assoc, List.singleton_append] at hsplit
      simp [decode, hsplit, hkey, EntryFault.unless, bind, Except.bind]
  | invalidKind kind =>
      obtain ⟨visibility, rest, hdata, hkind⟩ := h
      obtain ⟨name, key, rfl⟩ := hdata.exists_terminated
      have hnone := SymbolKind.ofCode?_eq_none hkind
      simp [decode, hcodes, hnone, EntryFault.unless, bind, Except.bind]
  | invalidVisibility visibility =>
      obtain ⟨kind, rest, hdata, hkind, hvisibility⟩ := h
      obtain ⟨name, key, rfl⟩ := hdata.exists_terminated
      obtain ⟨k, rfl⟩ := SymbolTable.exists_kind_code_eq hkind
      have hnone := Visibility.ofCode?_eq_none hvisibility
      simp [decode, hcodes, hnone, EntryFault.unless, bind, Except.bind]
  | truncated field =>
      cases field with
      | codes =>
          obtain ⟨rest, hdata, hlength⟩ := h
          obtain ⟨name, key, rfl⟩ := hdata.exists_terminated
          have hnone := FixedField.split?_eq_none .codes hlength
          simp [decode, hnone, EntryFault.unless, bind, Except.bind]
      | size =>
          obtain ⟨kind, visibility, rest, hdata, hkind, hvisibility, hlength⟩ := h
          obtain ⟨name, key, rfl⟩ := hdata.exists_terminated
          obtain ⟨k, rfl⟩ := SymbolTable.exists_kind_code_eq hkind
          obtain ⟨v, rfl⟩ := SymbolTable.exists_visibility_code_eq hvisibility
          have hnone := FixedField.split?_eq_none .size hlength
          simp [decode, hcodes, hnone, EntryFault.unless, bind, Except.bind]
      | slot =>
          obtain ⟨kind, visibility, rest, hdata, hkind, hvisibility, hsize, hlength⟩ := h
          obtain ⟨name, key, rfl⟩ := hdata.exists_terminated
          obtain ⟨k, rfl⟩ := SymbolTable.exists_kind_code_eq hkind
          obtain ⟨v, rfl⟩ := SymbolTable.exists_visibility_code_eq hvisibility
          obtain ⟨size, rest, rfl, hwidth⟩ := FixedField.exists_eq_append .size hsize
          have hthere := FixedField.split?_append rest hwidth
          have hnone : FixedField.slot.split? rest = none := by
            refine FixedField.split?_eq_none .slot ?_
            rw [List.length_append, hwidth] at hlength
            simp only [FixedField.width] at hlength ⊢
            omega
          simp [decode, hcodes, hthere, hnone, EntryFault.unless, bind, Except.bind]

/-- **Data begin with a record, or have a fault.** -/
theorem begins_or_explained (data : Bytes) :
    (∃ (e : SymbolEntry) (rest : Bytes), data = e.encode ++ rest) ∨
      ∃ fault : EntryFault, fault.Explains data := by
  cases hname : NulFree.split? data with
  | none => exact .inr ⟨.unterminatedName, NulFree.split?_eq_none_iff.1 hname⟩
  | some found =>
  obtain ⟨name, rest⟩ := found
  obtain rfl := NulFree.eq_terminated_append_of_split? hname
  cases hkey : NulFree.split? rest with
  | none =>
      refine .inr ⟨.unterminatedComdatKey, name.bytes, rest, name.zero_not_mem,
        NulFree.split?_eq_none_iff.1 hkey, ?_⟩
      simp [NulFree.terminated]
  | some found =>
  obtain ⟨key, rest⟩ := found
  obtain rfl := NulFree.eq_terminated_append_of_split? hkey
  have hstrings := beginsWithStrings_terminated name key rest
  rcases rest with _ | ⟨kind, _ | ⟨visibility, rest⟩⟩
  · exact .inr ⟨.truncated .codes, [], hstrings, by decide⟩
  · exact .inr ⟨.truncated .codes, [kind], hstrings, Nat.lt_add_one 1⟩
  rcases UInt8.lt_or_le 4 kind with hkind | hkind
  · exact .inr ⟨.invalidKind kind, visibility, rest, hstrings, hkind⟩
  rcases UInt8.lt_or_le 3 visibility with hvisibility | hvisibility
  · exact .inr ⟨.invalidVisibility visibility, kind, rest, hstrings, hkind, hvisibility⟩
  rcases Nat.lt_or_ge rest.length 8 with hsize | hsize
  · exact .inr ⟨.truncated .size, kind, visibility, rest, hstrings, hkind, hvisibility, hsize⟩
  obtain ⟨size, rest, rfl, hwidth⟩ := FixedField.exists_eq_append .size hsize
  simp only [FixedField.width] at hwidth
  rcases Nat.lt_or_ge rest.length 4 with hslot | hslot
  · refine .inr ⟨.truncated .slot, kind, visibility, size ++ rest, hstrings, hkind, hvisibility, ?_⟩
    rw [List.length_append, hwidth]
    omega
  · -- nothing is missing
    obtain ⟨slot, rest, rfl, hwidth'⟩ := FixedField.exists_eq_append .slot hslot
    obtain ⟨e, he⟩ := SymbolTable.isRecord_iff.1 (SymbolTable.IsRecord.mk name.zero_not_mem
      key.zero_not_mem hkind hvisibility hwidth hwidth')
    refine .inl ⟨e, rest, ?_⟩
    simp [he, NulFree.terminated]

/-- **The fault that is reported is the one that the data have.** -/
theorem decode_eq_error_iff {fault : EntryFault} {data : Bytes} :
    decode data = .error fault ↔ fault.Explains data := by
  refine ⟨fun h => ?_, decode_of_explains⟩
  obtain ⟨e, rest, rfl⟩ | ⟨fault', hfault'⟩ := begins_or_explained data
  · rw [decode_encode_append] at h
    cases h
  · rw [decode_of_explains hfault'] at h
    cases h
    exact hfault'

end SymbolEntry

namespace SymbolTable

/-! ### Reading a table with a fault -/

/-- Data with a fault are malformed where they begin. -/
theorem decodeEntries_of_explains (offset : Nat) {fault : EntryFault} {data : Bytes}
    (hne : data ≠ []) (h : fault.Explains data) :
    decodeEntries offset data = .error ⟨offset, fault⟩ := by
  have hdecode := SymbolEntry.decode_of_explains h
  rw [decodeEntries, if_neg hne]
  split
  · rename_i fault' hfault'
    rw [hdecode] at hfault'
    cases hfault'
    rfl
  · rename_i e rest he
    rw [hdecode] at he
    cases he

/-- **A table is malformed where the records that can be read end**, if something follows them, and
its fault is that of what follows. -/
theorem decodeEntries_eq_error_iff {offset : Nat} {data : Bytes} {m : Malformed} :
    decodeEntries offset data = .error m ↔
      ∃ (t : SymbolTable) (rest : Bytes), data = t.encode ++ rest ∧
        m.offset = offset + t.encode.length ∧ rest ≠ [] ∧ m.fault.Explains rest := by
  constructor
  · intro h
    -- on the records that are read before the malformed one
    fun_induction decodeEntries offset data with
    | case1 => cases h
    | case2 offset data hne fault hfault =>
        cases h
        exact ⟨⟨[]⟩, data, rfl, rfl, hne, SymbolEntry.decode_eq_error_iff.1 hfault⟩
    | case3 offset data hne e rest hdecode hlt ih =>
        have hrest : decodeEntries (offset + e.encode.length) rest = .error m := by
          cases hrest : decodeEntries (offset + e.encode.length) rest with
          | error m' =>
              rw [hrest] at h
              cases h
              rfl
          | ok es =>
              rw [hrest] at h
              cases h
        obtain ⟨⟨es⟩, rest', hdata, hoffset, hne', hfault⟩ := ih hrest
        have hencode : encode ⟨e :: es⟩ = e.encode ++ encode ⟨es⟩ := List.flatMap_cons
        refine ⟨⟨e :: es⟩, rest', ?_, ?_, hne', hfault⟩
        · rw [SymbolEntry.eq_encode_append_of_decode hdecode, hdata, hencode, List.append_assoc]
        · rw [hoffset, hencode, List.length_append, Nat.add_assoc]
  · rintro ⟨t, rest, rfl, hoffset, hne, hfault⟩
    rw [decodeEntries_encode_append, decodeEntries_of_explains _ hne hfault, ← hoffset]
    rfl

/-- Reading fails with the failure of reading the entries. -/
theorem decode_eq_error_iff {data : Bytes} {m : Malformed} :
    decode data = .error m ↔ decodeEntries 0 data = .error m := by
  rw [decode]
  cases decodeEntries 0 data <;> simp [Except.map]

/-- The first entry of some data is malformed if the data have a fault, and where they begin. -/
theorem decodeFirst_eq_error_iff {data : Bytes} {m : Malformed} :
    decodeFirst data = .error m ↔ m.offset = 0 ∧ m.fault.Explains data := by
  obtain ⟨offset, fault⟩ := m
  rw [← SymbolEntry.decode_eq_error_iff, decodeFirst]
  cases SymbolEntry.decode data with
  | error fault' => simp [eq_comm]
  | ok found => simp

/-- Sequences of whole records are the stored forms of tables. -/
theorem exists_encode_iff {data : Bytes} :
    (∃ t : SymbolTable, t.encode = data) ↔
      ∃ records : List Bytes, (∀ r ∈ records, IsRecord r) ∧ data = records.flatten := by
  rw [← exists_decode_iff]
  constructor
  · rintro ⟨t, rfl⟩
    exact ⟨t.stored, decode_encode t⟩
  · rintro ⟨t, ht⟩
    exact ⟨t, encode_of_decode ht⟩

/-- **Faults are diagnosed exactly.**  A table is reported to be malformed at some position with a
fault exactly if the data before this position are a sequence of whole records, the data do not end
there, and the data from there on have this fault.  The same fault is found when only the malformed
record is read, which then begins at 0. -/
theorem faults_are_diagnosed :
    (∀ (data : Bytes) (offset : Nat) (fault : EntryFault),
      decode data = .error ⟨offset, fault⟩ ↔
        (∃ records : List Bytes, (∀ r ∈ records, IsRecord r) ∧
          data.take offset = records.flatten) ∧
        offset < data.length ∧ fault.Explains (data.drop offset)) ∧
    (∀ (data : Bytes) (m : Malformed),
      decodeFirst data = .error m ↔ m.offset = 0 ∧ m.fault.Explains data) ∧
    ∀ (data : Bytes) (offset : Nat) (fault : EntryFault),
      decode data = .error ⟨offset, fault⟩ →
        decodeFirst (data.drop offset) = .error ⟨0, fault⟩ := by
  have hdiagnosed : ∀ (data : Bytes) (offset : Nat) (fault : EntryFault),
      decode data = .error ⟨offset, fault⟩ ↔
        (∃ records : List Bytes, (∀ r ∈ records, IsRecord r) ∧
          data.take offset = records.flatten) ∧
        offset < data.length ∧ fault.Explains (data.drop offset) := by
    intro data offset fault
    rw [decode_eq_error_iff, decodeEntries_eq_error_iff, ← exists_encode_iff]
    constructor
    · rintro ⟨t, rest, rfl, hoffset, hne, hfault⟩
      obtain rfl : offset = t.encode.length := by simpa using hoffset
      have hpos : 0 < rest.length := List.length_pos_iff.2 hne
      refine ⟨⟨t, (List.take_left' rfl).symm⟩, ?_, ?_⟩
      · rw [List.length_append]
        omega
      · rwa [List.drop_left' rfl]
    · rintro ⟨⟨t, ht⟩, hlt, hfault⟩
      refine ⟨t, data.drop offset, ?_, ?_, ?_, hfault⟩
      · rw [ht, List.take_append_drop]
      · rw [ht, List.length_take_of_le (Nat.le_of_lt hlt), Nat.zero_add]
      · rw [Ne, List.drop_eq_nil_iff]
        omega
  refine ⟨hdiagnosed, fun _ _ => decodeFirst_eq_error_iff, fun data offset fault h => ?_⟩
  exact decodeFirst_eq_error_iff.2 ⟨rfl, ((hdiagnosed data offset fault).1 h).2.2⟩

/-- The stored form of a record and the beginning of another one, whose kind is not valid. -/
def sampleMalformed : Bytes := singleton.encode ++ [98, 97, 100, 0, 0, 5]

theorem faults_are_diagnosed_sample :
    decode sampleMalformed = .error ⟨17, .truncated .codes⟩ ∧
      decode (sampleMalformed ++ [9]) = .error ⟨17, .invalidKind 5⟩ ∧
      decodeFirst [98, 97, 100, 0, 0, 5, 9] = .error ⟨0, .invalidKind 5⟩ := by
  have hrecords : ∃ records : List Bytes, (∀ r ∈ records, IsRecord r) ∧
      singleton.encode = records.flatten := exists_encode_iff.1 ⟨singleton, rfl⟩
  have hcut : BeginsWithStrings [98, 97, 100, 0, 0, 5] [5] :=
    ⟨[98, 97, 100], [], by decide, by decide, rfl⟩
  have hwhole : BeginsWithStrings [98, 97, 100, 0, 0, 5, 9] [5, 9] :=
    ⟨[98, 97, 100], [], by decide, by decide, rfl⟩
  have hinvalid : decode (sampleMalformed ++ [9]) = .error ⟨17, .invalidKind 5⟩ :=
    (faults_are_diagnosed.1 _ _ _).2 ⟨hrecords, by decide, 9, [], hwhole, by decide⟩
  exact ⟨(faults_are_diagnosed.1 _ _ _).2 ⟨hrecords, by decide, [5], hcut, by decide⟩, hinvalid,
    faults_are_diagnosed.2.2 _ _ _ hinvalid⟩

end SymbolTable

end LtoBridge
