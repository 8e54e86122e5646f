/-
**Reading what was written, and writing what was read.**

The stored form of a symbol table does not hold everything: a resolution is not written down, and a
comdat key without bytes cannot be told from none.  Apart from that, writing and reading are inverse
to each other, and the data that can be read are exactly the sequences of whole records.

Main definitions:

* `LtoBridge.SymbolTable.stored`: what is left of a table once it has been written;
* `LtoBridge.SymbolTable.IsRecord`: the form of a record, without reference to symbols.

Main results:

* `LtoBridge.SymbolEntry.decode_encode_append`: an entry that was written is read back, whatever
  follows it;
* `LtoBridge.SymbolTable.decodeEntries_encode_append`: so are the entries of a table;
* `LtoBridge.SymbolTable.encode_of_decode`: **a table that was read is written as it was**;
* `LtoBridge.SymbolTable.codec_bijection`: writing and reading, taken together.
-/

import LtoBridge.SymbolTable.Codec

set_option autoImplicit false

namespace LtoBridge

/-! ### What is stored -/

/-- What is left of a symbol once it has been written: its resolution is forgotten, and so is a
comdat key without bytes. -/
def Symbol.stored (s : Symbol) : Symbol :=
  { s with comdatKey := s.comdatKey.filter (·.bytes ≠ []), resolution := .unknown }

/-- What is left of an entry once it has been written. -/
def SymbolEntry.stored (e : SymbolEntry) : SymbolEntry := { e with symbol := e.symbol.stored }

/-- **What is left of a table once it has been written.** -/
def SymbolTable.stored (t : SymbolTable) : SymbolTable := ⟨t.entries.map SymbolEntry.stored⟩

/-- Nothing is lost of an entry without a resolution whose comdat key, if any, has bytes. -/
theorem SymbolEntry.stored_eq_self_iff {e : SymbolEntry} :
    e.stored = e ↔
      e.symbol.resolution = .unknown ∧ ∀ key ∈ e.symbol.comdatKey, key.bytes ≠ [] := by
  obtain ⟨⟨name, key, kind, visibility, size, resolution⟩, slot⟩ := e
  have hfilter : key.filter (·.bytes ≠ []) = key ↔ ∀ k ∈ key, k.bytes ≠ [] := by
    cases key with
    | none => simp
    | some k => by_cases hempty : k.bytes = [] <;> simp [Option.filter, hempty]
  simp only [SymbolEntry.stored, Symbol.stored, SymbolEntry.mk.injEq, Symbol.mk.injEq, true_and,
    and_true, hfilter]
  constructor
  · rintro ⟨hkey, hresolution⟩
    exact ⟨hresolution.symm, hkey⟩
  · rintro ⟨hresolution, hkey⟩
    exact ⟨hkey, hresolution.symm⟩

/-- Nothing is lost of a table exactly if nothing is lost of any of its entries. -/
theorem SymbolTable.stored_eq_self_iff {t : SymbolTable} :
    t.stored = t ↔ ∀ e ∈ t.entries, e.stored = e := by
  obtain ⟨entries⟩ := t
  simp only [SymbolTable.stored, SymbolTable.mk.injEq]
  have h := List.map_inj_left (l := entries) (f := SymbolEntry.stored) (g := id)
  rwa [List.map_id] at h

/-- What is lost when an entry is written does not show in its stored form. -/
@[simp] theorem SymbolEntry.encode_stored (e : SymbolEntry) : e.stored.encode = e.encode := by
  obtain ⟨⟨name, key, kind, visibility, size, resolution⟩, slot⟩ := e
  cases key with
  | none => rfl
  | some key =>
      by_cases hempty : key.bytes = [] <;>
        simp [SymbolEntry.encode, SymbolEntry.stored, Symbol.stored, NulFree.terminated,
          Option.filter, hempty]

/-! ### Reading what was written -/

/-- The stored form of an entry, with the empty string in place of a missing comdat key. -/
theorem SymbolEntry.encode_eq (e : SymbolEntry) :
    e.encode = e.symbol.name.terminated ++
      ((e.symbol.comdatKey.getD ⟨[], by simp⟩).terminated ++
        ([e.symbol.kind.code, e.symbol.visibility.code] ++
          (Bytes.toLittle 8 e.symbol.size.toNat ++ Bytes.toLittle 4 e.slot.toNat))) := by
  cases h : e.symbol.comdatKey <;> simp [SymbolEntry.encode, h, NulFree.terminated]

/-- **An entry that was written is read back**, whatever follows it. -/
theorem SymbolEntry.decode_encode_append (e : SymbolEntry) (rest : Bytes) :
    SymbolEntry.decode (e.encode ++ rest) = .ok (e.stored, rest) := by
  have hcodes : FixedField.codes.split? ([e.symbol.kind.code, e.symbol.visibility.code] ++
      (Bytes.toLittle 8 e.symbol.size.toNat ++ (Bytes.toLittle 4 e.slot.toNat ++ rest))) =
      some (_, _) := FixedField.split?_append _ rfl
  have hsize : FixedField.size.split? (Bytes.toLittle 8 e.symbol.size.toNat ++
      (Bytes.toLittle 4 e.slot.toNat ++ rest)) = some (_, _) :=
    FixedField.split?_append _ (Bytes.length_toLittle 8 _)
  have hslot : FixedField.slot.split? (Bytes.toLittle 4 e.slot.toNat ++ rest) = some (_, _) :=
    FixedField.split?_append _ (Bytes.length_toLittle 4 _)
  have hsizeValue : UInt64.ofNat (Bytes.ofLittle (Bytes.toLittle 8 e.symbol.size.toNat)) =
      e.symbol.size := by
    have hlt : e.symbol.size.toNat < Bytes.capacity 8 := e.symbol.size.toNat_lt
    rw [Bytes.ofLittle_toLittle, Nat.mod_eq_of_lt hlt, UInt64.ofNat_toNat]
  have hslotValue : UInt32.ofNat (Bytes.ofLittle (Bytes.toLittle 4 e.slot.toNat)) = e.slot := by
    have hlt : e.slot.toNat < Bytes.capacity 4 := e.slot.toNat_lt
    rw [Bytes.ofLittle_toLittle, Nat.mod_eq_of_lt hlt, UInt32.ofNat_toNat]
  have hkey : (if (e.symbol.comdatKey.getD ⟨[], by simp⟩).bytes = [] then none
      else some (e.symbol.comdatKey.getD ⟨[], by simp⟩)) =
      e.symbol.comdatKey.filter (·.bytes ≠ []) := by
    cases e.symbol.comdatKey with
    | none => rfl
    | some key => by_cases hempty : key.bytes = [] <;> simp [Option.filter, hempty]
  rw [SymbolEntry.encode_eq]
  simp only [List.append_assoc, SymbolEntry.decode, NulFree.split?_terminated_append,
    EntryFault.unless, hcodes, hsize, hslot, bind, Except.bind, List.headD_cons,
    List.getLastD_cons, List.getLastD_nil, SymbolKind.ofCode?_code, Visibility.ofCode?_code,
    hsizeValue, hslotValue, hkey]
  rfl

namespace SymbolTable

@[simp] theorem decodeEntries_nil (offset : Nat) : decodeEntries offset [] = .ok [] := by
  rw [decodeEntries, if_pos rfl]

/-- The written form of an entry is not empty. -/
theorem encode_entry_ne_nil (e : SymbolEntry) : e.encode ≠ [] := by
  simp [SymbolEntry.encode, NulFree.terminated]

/-- Reading goes on behind an entry that was written. -/
theorem decodeEntries_encode_entry_append (offset : Nat) (e : SymbolEntry) (rest : Bytes) :
    decodeEntries offset (e.encode ++ rest) =
      (decodeEntries (offset + e.encode.length) rest).map (e.stored :: ·) := by
  rw [decodeEntries, if_neg (by simp [encode_entry_ne_nil])]
  split
  · rename_i fault h
    rw [SymbolEntry.decode_encode_append] at h
    cases h
  · rename_i e' rest' h
    rw [SymbolEntry.decode_encode_append] at h
    cases h
    rw [SymbolEntry.encode_stored]

/-- **The entries of a table that was written are read back**, and reading goes on behind them. -/
theorem decodeEntries_encode_append (offset : Nat) (t : SymbolTable) (rest : Bytes) :
    decodeEntries offset (t.encode ++ rest) =
      (decodeEntries (offset + t.encode.length) rest).map (t.stored.entries ++ ·) := by
  obtain ⟨entries⟩ := t
  induction entries generalizing offset with
  | nil =>
      simp only [encode, stored, List.flatMap_nil, List.map_nil, List.nil_append, List.length_nil,
        Nat.add_zero]
      cases decodeEntries offset rest <;> rfl
  | cons e es ih =>
      have hes := ih (offset + e.encode.length)
      simp only [encode, stored] at hes ⊢
      rw [List.flatMap_cons, List.append_assoc, decodeEntries_encode_entry_append, hes,
        List.length_append, ← Nat.add_assoc]
      cases decodeEntries (offset + e.encode.length + (es.flatMap SymbolEntry.encode).length) rest
        <;> rfl

/-- **A table that was written is read back** as far as it was stored. -/
theorem decode_encode (t : SymbolTable) : decode t.encode = .ok t.stored := by
  have h := decodeEntries_encode_append 0 t []
  rw [List.append_nil, decodeEntries_nil] at h
  simp [decode, h, Except.map]

/-! ### Writing what was read -/

/-- Entries that were read make up the data when they are written. -/
theorem flatMap_encode_of_decodeEntries {offset : Nat} {data : Bytes} {entries : List SymbolEntry}
    (h : decodeEntries offset data = .ok entries) :
    entries.flatMap SymbolEntry.encode = data := by
  fun_induction decodeEntries offset data generalizing entries with
  | case1 => cases h; rfl
  | case2 => cases h
  | case3 offset data hne e rest hdecode hlt ih =>
      cases hrest : decodeEntries (offset + e.encode.length) rest with
      | error fault =>
          rw [hrest] at h
          cases h
      | ok es =>
          rw [hrest] at h
          cases h
          rw [List.flatMap_cons, ih hrest, ← SymbolEntry.eq_encode_append_of_decode hdecode]

/-- **A table that was read is written as it was.** -/
theorem encode_of_decode {data : Bytes} {t : SymbolTable} (h : decode data = .ok t) :
    t.encode = data := by
  cases hentries : decodeEntries 0 data with
  | error fault => simp [decode, hentries, Except.map] at h
  | ok entries =>
      simp only [decode, hentries, Except.map, Except.ok.injEq] at h
      subst h
      exact flatMap_encode_of_decodeEntries hentries

/-- What was read is stored in full. -/
theorem stored_of_decode {data : Bytes} {t : SymbolTable} (h : decode data = .ok t) :
    t.stored = t := by
  have hback := decode_encode t
  rw [encode_of_decode h, h] at hback
  exact (Except.ok.inj hback).symm

/-! ### The data that can be read -/

/-- **The form of a record**: two strings, each ended by a zero byte, the codes of a kind and of a
visibility, and two numbers of eight and four bytes. -/
inductive IsRecord : Bytes → Prop
  | mk {name key size slot : Bytes} {kind visibility : UInt8} (name_free : 0 ∉ name)
      (key_free : 0 ∉ key) (kind_le : kind ≤ 4) (visibility_le : visibility ≤ 3)
      (size_length : size.length = 8) (slot_length : slot.length = 4) :
      IsRecord (name ++ 0 :: (key ++ 0 :: kind :: visibility :: (size ++ slot)))

/-- The codes of kinds are the numbers up to 4. -/
theorem exists_kind_code_eq {c : UInt8} (h : c ≤ 4) : ∃ k : SymbolKind, k.code = c := by
  have hle : c.toNat ≤ 4 := UInt8.le_iff_toNat_le.1 h
  have hcases : c = 0 ∨ c = 1 ∨ c = 2 ∨ c = 3 ∨ c = 4 := by
    simp only [← UInt8.toNat_inj, UInt8.toNat_ofNat]
    omega
  obtain rfl | rfl | rfl | rfl | rfl := hcases
  · exact ⟨.definition, rfl⟩
  · exact ⟨.weakDefinition, rfl⟩
  · exact ⟨.undefined, rfl⟩
  · exact ⟨.weakUndefined, rfl⟩
  · exact ⟨.common, rfl⟩

/-- The codes of visibilities are the numbers up to 3. -/
theorem exists_visibility_code_eq {c : UInt8} (h : c ≤ 3) : ∃ v : Visibility, v.code = c := by
  have hle : c.toNat ≤ 3 := UInt8.le_iff_toNat_le.1 h
  have hcases : c = 0 ∨ c = 1 ∨ c = 2 ∨ c = 3 := by
    simp only [← UInt8.toNat_inj, UInt8.toNat_ofNat]
    omega
  obtain rfl | rfl | rfl | rfl := hcases
  · exact ⟨.default, rfl⟩
  · exact ⟨.nonPreemptible, rfl⟩
  · exact ⟨.internal, rfl⟩
  · exact ⟨.hidden, rfl⟩

theorem isRecord_encode (e : SymbolEntry) : IsRecord e.encode := by
  rw [SymbolEntry.encode_eq]
  have hkind : e.symbol.kind.code ≤ 4 := by cases e.symbol.kind <;> decide
  have hvisibility : e.symbol.visibility.code ≤ 3 := by cases e.symbol.visibility <;> decide
  have h := IsRecord.mk e.symbol.name.zero_not_mem
    (e.symbol.comdatKey.getD ⟨[], by simp⟩).zero_not_mem hkind hvisibility
    (Bytes.length_toLittle 8 e.symbol.size.toNat) (Bytes.length_toLittle 4 e.slot.toNat)
  simpa [NulFree.terminated] using h

/-- **The records are the stored forms of entries.** -/
theorem isRecord_iff {bs : Bytes} : IsRecord bs ↔ ∃ e : SymbolEntry, e.encode = bs := by
  constructor
  · rintro ⟨hname, hkey, hkind, hvisibility, hsize, hslot⟩
    rename_i name key size slot kind visibility
    obtain ⟨k, rfl⟩ := exists_kind_code_eq hkind
    obtain ⟨v, rfl⟩ := exists_visibility_code_eq hvisibility
    have hsizeValue := FixedField.toNat_size hsize
    have hslotValue := FixedField.toNat_slot hslot
    have hsizeBytes : Bytes.toLittle FixedField.size.width (Bytes.ofLittle size) = size :=
      FixedField.toLittle_ofLittle hsize
    have hslotBytes : Bytes.toLittle FixedField.slot.width (Bytes.ofLittle slot) = slot :=
      FixedField.toLittle_ofLittle hslot
    simp only [FixedField.width] at hsizeBytes hslotBytes
    refine ⟨⟨⟨⟨name, hname⟩, some ⟨key, hkey⟩, k, v, UInt64.ofNat (Bytes.ofLittle size),
      .unknown⟩, UInt32.ofNat (Bytes.ofLittle slot)⟩, ?_⟩
    rw [SymbolEntry.encode_eq]
    simp only [NulFree.terminated, Option.getD_some, hsizeValue, hslotValue, hsizeBytes,
      hslotBytes, List.append_assoc, List.cons_append, List.nil_append]
  · rintro ⟨e, rfl⟩
    exact isRecord_encode e

/-- **The data that can be read are the sequences of whole records.** -/
theorem exists_decode_iff {data : Bytes} :
    (∃ t, decode data = .ok t) ↔
      ∃ records : List Bytes, (∀ r ∈ records, IsRecord r) ∧ data = records.flatten := by
  constructor
  · rintro ⟨t, h⟩
    refine ⟨t.entries.map SymbolEntry.encode, ?_, ?_⟩
    · intro r hr
      obtain ⟨e, _, rfl⟩ := List.mem_map.1 hr
      exact isRecord_encode e
    · rw [← encode_of_decode h, encode, List.flatMap_def]
  · rintro ⟨records, hrecords, rfl⟩
    have hentries : ∃ es : List SymbolEntry, es.map SymbolEntry.encode = records := by
      induction records with
      | nil => exact ⟨[], rfl⟩
      | cons r rs ih =>
          obtain ⟨es, rfl⟩ := ih fun r hr => hrecords r (List.mem_cons_of_mem _ hr)
          obtain ⟨e, rfl⟩ := isRecord_iff.1 (hrecords r List.mem_cons_self)
          exact ⟨e :: es, rfl⟩
    obtain ⟨es, rfl⟩ := hentries
    refine ⟨(⟨es⟩ : SymbolTable).stored, ?_⟩
    rw [← List.flatMap_def]
    exact decode_encode ⟨es⟩

/-! ### The whole -/

/-- **Reading and writing tables.**  What was read is written as it was; what was written is read
back as far as it was stored, and in full exactly if there are only unknown resolutions and no empty
comdat keys.  So the data that can be read are the sequences of whole records, and no two of them
are read as the same table. -/
theorem codec_bijection :
    (∀ (data : Bytes) (t : SymbolTable), decode data = .ok t → t.encode = data) ∧
    (∀ t : SymbolTable, decode t.encode = .ok t.stored ∧
      (t.stored = t ↔ ∀ e ∈ t.entries,
        e.symbol.resolution = .unknown ∧ ∀ key ∈ e.symbol.comdatKey, key.bytes ≠ [])) ∧
    (∀ data : Bytes, (∃ t, decode data = .ok t) ↔
      ∃ records : List Bytes, (∀ r ∈ records, IsRecord r) ∧ data = records.flatten) ∧
    (∀ (data₁ data₂ : Bytes) (t : SymbolTable),
      decode data₁ = .ok t → decode data₂ = .ok t → data₁ = data₂) := by
  refine ⟨fun _ _ => encode_of_decode, fun t => ⟨decode_encode t, ?_⟩,
    fun _ => exists_decode_iff, ?_⟩
  · rw [stored_eq_self_iff]
    exact forall₂_congr fun _ _ => SymbolEntry.stored_eq_self_iff
  · intro data₁ data₂ t h₁ h₂
    rw [← encode_of_decode h₁, encode_of_decode h₂]

/-- One weak definition without a comdat key. -/
def singleton : SymbolTable :=
  ⟨[⟨{ name := ⟨[102], by decide⟩, comdatKey := none, kind := .weakDefinition,
       visibility := .hidden, size := 258 }, 7⟩]⟩

theorem codec_bijection_singleton :
    decode [102, 0, 0, 1, 3, 2, 1, 0, 0, 0, 0, 0, 0, 7, 0, 0, 0] = .ok singleton ∧
      singleton.encode = [102, 0, 0, 1, 3, 2, 1, 0, 0, 0, 0, 0, 0, 7, 0, 0, 0] := by
  have h : decode [102, 0, 0, 1, 3, 2, 1, 0, 0, 0, 0, 0, 0, 7, 0, 0, 0] = .ok singleton :=
    (codec_bijection.2.1 singleton).1
  exact ⟨h, codec_bijection.1 _ _ h⟩

end SymbolTable

end LtoBridge
