/-
**The stored form of a symbol table.**

A symbol table is stored as its entries one after the other, with no header and no count.  An
entry consists of the symbol's name and its comdat key, each ended by a zero byte, one byte each
for kind and visibility, eight bytes for the size and four for the slot, both little-endian.  A
symbol without a comdat key has an empty one.  The table ends where the data end.

Main definitions:

* `LtoBridge.SymbolEntry.encode`, `LtoBridge.SymbolTable.encode`: writing;
* `LtoBridge.SymbolEntry.decode`, `LtoBridge.SymbolTable.decode`: reading;
* `LtoBridge.SymbolTable.decodeFirst`: reading one entry of a table;
* `LtoBridge.SymbolTable.Malformed`: why data are no table, and where.

Main results:

* `LtoBridge.SymbolEntry.eq_encode_append_of_decode`: an entry that can be read is the beginning of
  the data.
-/

import LtoBridge.SymbolTable

set_option autoImplicit false

namespace LtoBridge

/-! ### Writing -/

/-- The stored form of an entry. -/
def SymbolEntry.encode (e : SymbolEntry) : Bytes :=
  e.symbol.name.terminated ++ (e.symbol.comdatKey.elim [0] NulFree.terminated ++
    (e.symbol.kind.code :: e.symbol.visibility.code ::
      (Bytes.toLittle 8 e.symbol.size.toNat ++ Bytes.toLittle 4 e.slot.toNat)))

/-- **The stored form of a table.** -/
def SymbolTable.encode (t : SymbolTable) : Bytes := t.entries.flatMap SymbolEntry.encode

/-! ### Reading an entry -/

/-- The fields of fixed width; kind and visibility count as one. -/
inductive FixedField
  | codes
  | size
  | slot
  deriving DecidableEq, Repr

/-- The number of bytes of a field. -/
def FixedField.width : FixedField → Nat
  | codes => 2
  | size => 8
  | slot => 4

/-- The name of a field in diagnostics. -/
def FixedField.name : FixedField → String
  | codes => "kind and visibility"
  | size => "size"
  | slot => "slot"

/-- Why data do not begin with an entry. -/
inductive EntryFault
  | unterminatedName
  | unterminatedComdatKey
  | truncated (field : FixedField)
  | invalidKind (code : UInt8)
  | invalidVisibility (code : UInt8)
  deriving DecidableEq, Repr

/-- The bytes of a field of fixed width, and what follows it. -/
def FixedField.split? (field : FixedField) (data : Bytes) : Option (Bytes × Bytes) :=
  if (data.take field.width).length = field.width then
    some (data.take field.width, data.drop field.width)
  else none

/-- The value, or the fault that its absence is. -/
def EntryFault.unless {α : Type} (fault : EntryFault) : Option α → Except EntryFault α
  | some a => .ok a
  | none => .error fault

/-- **Read one entry from the beginning of the data**; the rest of the data comes with it. -/
def SymbolEntry.decode (data : Bytes) : Except EntryFault (SymbolEntry × Bytes) := do
  let (name, data) ← EntryFault.unterminatedName.unless (NulFree.split? data)
  let (key, data) ← EntryFault.unterminatedComdatKey.unless (NulFree.split? data)
  let (codes, data) ← (EntryFault.truncated .codes).unless (FixedField.codes.split? data)
  let kindCode := codes.headD 0
  let visibilityCode := codes.getLastD 0
  let kind ← (EntryFault.invalidKind kindCode).unless (SymbolKind.ofCode? kindCode)
  let visibility ←
    (EntryFault.invalidVisibility visibilityCode).unless (Visibility.ofCode? visibilityCode)
  let (size, data) ← (EntryFault.truncated .size).unless (FixedField.size.split? data)
  let (slot, data) ← (EntryFault.truncated .slot).unless (FixedField.slot.split? data)
  let symbol : Symbol :=
    { name, kind, visibility
      comdatKey := if key.bytes = [] then none else some key
      size := UInt64.ofNat (Bytes.ofLittle size) }
  pure (⟨symbol, UInt32.ofNat (Bytes.ofLittle slot)⟩, data)

theorem EntryFault.unless_eq_ok_iff {α : Type} {fault : EntryFault} {o : Option α} {a : α} :
    fault.unless o = .ok a ↔ o = some a := by
  cases o <;> simp [EntryFault.unless]

/-- A field that can be split off is the beginning of the data, and has its width. -/
theorem FixedField.eq_append_of_split? {field : FixedField} {data bs rest : Bytes}
    (h : field.split? data = some (bs, rest)) : data = bs ++ rest ∧ bs.length = field.width := by
  unfold FixedField.split? at h
  split at h
  · rename_i hlen
    cases h
    exact ⟨(List.take_append_drop _ _).symm, hlen⟩
  · cases h

/-- A field that is there can be split off. -/
theorem FixedField.split?_append {field : FixedField} {bs : Bytes} (rest : Bytes)
    (h : bs.length = field.width) : field.split? (bs ++ rest) = some (bs, rest) := by
  simp [FixedField.split?, ← h]

/-- A computation succeeds exactly if both of its steps do. -/
theorem bind_eq_ok_iff {ε α β : Type} {x : Except ε α} {f : α → Except ε β} {b : β} :
    (x >>= f) = .ok b ↔ ∃ a, x = .ok a ∧ f a = .ok b := by
  cases x <;> simp [bind, Except.bind]

/-- The stored number of a field is the number that is read from it. -/
theorem FixedField.toLittle_ofLittle {field : FixedField} {bs : Bytes}
    (h : bs.length = field.width) : Bytes.toLittle field.width (Bytes.ofLittle bs) = bs := by
  rw [← h, Bytes.toLittle_ofLittle]

/-- The number in a stored size is not cut off when it is read. -/
theorem FixedField.toNat_size {bs : Bytes} (h : bs.length = FixedField.size.width) :
    (UInt64.ofNat (Bytes.ofLittle bs)).toNat = Bytes.ofLittle bs := by
  have hlt := Bytes.ofLittle_lt bs
  rw [h] at hlt
  exact UInt64.toNat_ofNat_of_lt' hlt

/-- The number in a stored slot is not cut off when it is read. -/
theorem FixedField.toNat_slot {bs : Bytes} (h : bs.length = FixedField.slot.width) :
    (UInt32.ofNat (Bytes.ofLittle bs)).toNat = Bytes.ofLittle bs := by
  have hlt := Bytes.ofLittle_lt bs
  rw [h] at hlt
  exact UInt32.toNat_ofNat_of_lt' hlt

/-- **An entry that can be read is the beginning of the data.** -/
theorem SymbolEntry.eq_encode_append_of_decode {data rest : Bytes} {e : SymbolEntry}
    (h : SymbolEntry.decode data = .ok (e, rest)) : data = e.encode ++ rest := by
  unfold SymbolEntry.decode at h
  simp only [bind_eq_ok_iff, EntryFault.unless_eq_ok_iff, Prod.exists] at h
  obtain ⟨name, d₁, h₁, key, d₂, h₂, codes, d₃, h₃, kind, hk, visibility, hv,
    size, d₄, h₄, slot, d₅, h₅, he⟩ := h
  cases he
  have e₁ := NulFree.eq_terminated_append_of_split? h₁
  have e₂ := NulFree.eq_terminated_append_of_split? h₂
  obtain ⟨e₃, l₃⟩ := FixedField.eq_append_of_split? h₃
  obtain ⟨e₄, l₄⟩ := FixedField.eq_append_of_split? h₄
  obtain ⟨e₅, l₅⟩ := FixedField.eq_append_of_split? h₅
  obtain ⟨k, v, rfl⟩ : ∃ k v, codes = [k, v] := by
    match codes, l₃ with
    | [k, v], _ => exact ⟨k, v, rfl⟩
  obtain rfl := SymbolKind.ofCode?_eq_some_iff.1 hk
  obtain rfl := Visibility.ofCode?_eq_some_iff.1 hv
  have hsize := FixedField.toNat_size l₄
  have hslot := FixedField.toNat_slot l₅
  have hkey : (if key.bytes = [] then none else some key : Option NulFree).elim [0]
      NulFree.terminated = key.terminated := by
    by_cases hempty : key.bytes = [] <;> simp [hempty, NulFree.terminated]
  have t₄ : Bytes.toLittle 8 (Bytes.ofLittle size) = size := FixedField.toLittle_ofLittle l₄
  have t₅ : Bytes.toLittle 4 (Bytes.ofLittle slot) = slot := FixedField.toLittle_ofLittle l₅
  rw [e₁, e₂, e₃, e₄, e₅]
  simp only [SymbolEntry.encode, hkey, hsize, hslot, t₄, t₅, List.append_assoc,
    List.cons_append, List.nil_append]

/-- An entry takes up at least one byte. -/
theorem SymbolEntry.length_lt_of_decode {data rest : Bytes} {e : SymbolEntry}
    (h : SymbolEntry.decode data = .ok (e, rest)) : rest.length < data.length := by
  rw [SymbolEntry.eq_encode_append_of_decode h]
  simp only [SymbolEntry.encode, List.length_append, List.length_cons]
  omega

/-! ### Reading a table -/

/-- Why data are no symbol table: where the first malformed entry begins and what is wrong with
it. -/
structure SymbolTable.Malformed where
  offset : Nat
  fault : EntryFault
  deriving DecidableEq, Repr

/-- Read entries until the data end; `offset` is where the data begin. -/
def SymbolTable.decodeEntries (offset : Nat) (data : Bytes) :
    Except SymbolTable.Malformed (List SymbolEntry) :=
  if data = [] then .ok []
  else match h : SymbolEntry.decode data with
    | .error fault => .error ⟨offset, fault⟩
    | .ok (e, rest) =>
        have := SymbolEntry.length_lt_of_decode h
        (decodeEntries (offset + e.encode.length) rest).map (e :: ·)
  termination_by data.length

/-- **Read a table**: the data must consist of whole entries. -/
def SymbolTable.decode (data : Bytes) : Except SymbolTable.Malformed SymbolTable :=
  (decodeEntries 0 data).map (⟨·⟩)

/-- **Read the first entry of a table**, and count the bytes that it takes up. -/
def SymbolTable.decodeFirst (data : Bytes) : Except SymbolTable.Malformed (SymbolEntry × Nat) :=
  match SymbolEntry.decode data with
  | .error fault => .error ⟨0, fault⟩
  | .ok (e, rest) => .ok (e, data.length - rest.length)

/-! ### Wording -/

/-- What is wrong with an entry. -/
def EntryFault.message : EntryFault → String
  | unterminatedName => "unterminated symbol name"
  | unterminatedComdatKey => "unterminated comdat key"
  | truncated field => s!"symbol record truncated in {field.name}"
  | invalidKind code => s!"invalid symbol kind {code}"
  | invalidVisibility code => s!"invalid symbol visibility {code}"

/-- What is wrong with a table. -/
def SymbolTable.Malformed.message (m : SymbolTable.Malformed) : String :=
  s!"{m.fault.message} in record at offset {m.offset}"

end LtoBridge
