/-
**The symbol table of one object.**

The order of the entries is the compiler's, and it matters: symbols are reported to the linker in
this order, the linker answers in this order, and resolutions are written in this order.

Main definitions:

* `LtoBridge.SymbolTable`: the symbols of an object with their slots;
* `LtoBridge.SymbolTable.assign`: enter resolutions for the first symbols.

Main results:

* `LtoBridge.SymbolTable.slots_assign`: resolutions leave the slots alone.
-/

import LtoBridge.Symbol

set_option autoImplicit false

namespace LtoBridge

/-- A symbol with its slot. -/
structure SymbolEntry where
  symbol : Symbol
  slot : Slot
  deriving DecidableEq

/-- The symbol with a new resolution, or as it is. -/
def Symbol.resolved (s : Symbol) (r : Option Resolution) : Symbol :=
  { s with resolution := r.getD s.resolution }

@[simp] theorem Symbol.identity_resolved (s : Symbol) (r : Option Resolution) :
    (s.resolved r).identity = s.identity := rfl

/-- The entry with a new resolution, or as it is. -/
def SymbolEntry.resolved (e : SymbolEntry) (r : Option Resolution) : SymbolEntry :=
  { e with symbol := e.symbol.resolved r }

/-- The symbols of an object, in the order in which its compiler wrote them.  One list of entries
stands for two parallel ones, of the symbols and of their slots: that these are equally long holds
by representation. -/
structure SymbolTable where
  entries : List SymbolEntry := []
  deriving DecidableEq

namespace SymbolTable

/-- The table with one more entry at its end. -/
def push (t : SymbolTable) (e : SymbolEntry) : SymbolTable := ⟨t.entries ++ [e]⟩

/-- The number of symbols. -/
def size (t : SymbolTable) : Nat := t.entries.length

/-- The symbols, without their slots. -/
def symbols (t : SymbolTable) : List Symbol := t.entries.map (·.symbol)

/-- The slots, in the order of the symbols. -/
def slots (t : SymbolTable) : List Slot := t.entries.map (·.slot)

/-- The number of symbols that the object itself holds. -/
def definitionCount (t : SymbolTable) : Nat := t.symbols.countP (·.kind.isDefinition)

@[simp] theorem length_symbols (t : SymbolTable) : t.symbols.length = t.size := by
  simp [symbols, size]

@[simp] theorem length_slots (t : SymbolTable) : t.slots.length = t.size := by
  simp [slots, size]

/-! ### Resolutions -/

/-- The entries with resolutions entered from the first one on, as far as there are any; entries
for which there is none stay as they are. -/
def assignEntries : List SymbolEntry → List (Option Resolution) → List SymbolEntry
  | e :: es, r :: rs => e.resolved r :: assignEntries es rs
  | es, [] => es
  | [], _ => []

/-- The table with resolutions entered from the first symbol on, as far as there are any. -/
def assign (t : SymbolTable) (rs : List (Option Resolution)) : SymbolTable :=
  ⟨assignEntries t.entries rs⟩

/-- The table with a resolution entered for one symbol, if there is such a symbol. -/
def assignAt (t : SymbolTable) (index : Nat) (r : Resolution) : SymbolTable :=
  ⟨t.entries.modify index (·.resolved (some r))⟩

@[simp] theorem assignEntries_nil (es : List SymbolEntry) : assignEntries es [] = es := by
  cases es <;> rfl

/-- Resolutions are entered from the first entry on. -/
theorem assignEntries_cons (e : SymbolEntry) (es : List SymbolEntry)
    (rs : List (Option Resolution)) :
    assignEntries (e :: es) rs =
      e.resolved rs.head?.join :: assignEntries es rs.tail := by
  cases rs with
  | nil => simp [assignEntries, SymbolEntry.resolved, Symbol.resolved]
  | cons r rs => rfl

theorem map_slot_assignEntries (es : List SymbolEntry) (rs : List (Option Resolution)) :
    (assignEntries es rs).map (·.slot) = es.map (·.slot) := by
  induction es generalizing rs with
  | nil => cases rs <;> rfl
  | cons e es ih =>
      cases rs with
      | nil => rfl
      | cons r rs => simp [assignEntries, SymbolEntry.resolved, ih]

/-- Resolutions leave the slots alone. -/
@[simp] theorem slots_assign (t : SymbolTable) (rs : List (Option Resolution)) :
    (t.assign rs).slots = t.slots :=
  map_slot_assignEntries t.entries rs

theorem map_identity_assignEntries (es : List SymbolEntry) (rs : List (Option Resolution)) :
    (assignEntries es rs).map (·.symbol.identity) = es.map (·.symbol.identity) := by
  induction es generalizing rs with
  | nil => cases rs <;> rfl
  | cons e es ih =>
      cases rs with
      | nil => rfl
      | cons r rs => simp [assignEntries, SymbolEntry.resolved, ih]

/-- What stays the same about the symbols. -/
def identities (t : SymbolTable) :
    List (NulFree × Option NulFree × SymbolKind × Visibility × UInt64) :=
  t.symbols.map Symbol.identity

/-- Resolutions leave everything else alone. -/
@[simp] theorem identities_assign (t : SymbolTable) (rs : List (Option Resolution)) :
    (t.assign rs).identities = t.identities := by
  have h := map_identity_assignEntries t.entries rs
  simpa [identities, symbols, assign, Function.comp_def] using h

end SymbolTable

end LtoBridge
