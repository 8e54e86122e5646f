/-
**Symbols of an intermediate object.**

A compiler that stores intermediate code in an object lists the symbols that the code defines and
uses.  The bridge reads that list, reports it to the linker and asks the linker later what became
of each symbol.

Main definitions:

* `LtoBridge.SymbolKind`, `LtoBridge.Visibility`: the two codes of a symbol;
* `LtoBridge.Resolution`: the linker's decision about a symbol;
* `LtoBridge.Symbol`: a symbol, without the slot that its compiler gave it.

Main results:

* `LtoBridge.SymbolKind.ofCode?_eq_some_iff`, `LtoBridge.Visibility.ofCode?_eq_some_iff`,
  `LtoBridge.Resolution.ofCode?_eq_some_iff`: the codes name what they stand for.
-/

import LtoBridge.Text.Utf8

set_option autoImplicit false

namespace LtoBridge

/-- How a symbol occurs in its object. -/
inductive SymbolKind
  | definition
  | weakDefinition
  | undefined
  | weakUndefined
  | common
  deriving DecidableEq, Repr

/-- How far a symbol can be seen outside the file that defines it, and whether a definition seen
there can be replaced by another one. -/
inductive Visibility
  | default
  | nonPreemptible
  | internal
  | hidden
  deriving DecidableEq, Repr

/-- The linker's decision about a symbol, unknown until all inputs have been read. -/
inductive Resolution
  | unknown
  | undefined
  | prevailing
  | prevailingForIrOnly
  | preemptedByRegular
  | preemptedByIr
  | resolvedInIr
  | resolvedInExecutable
  | resolvedInSharedObject
  | prevailingForIrOnlyExported
  deriving DecidableEq, Repr

/-! ### Codes and names -/

namespace SymbolKind

/-- The code in a symbol table and in the linker's interface. -/
def code : SymbolKind → UInt8
  | definition => 0
  | weakDefinition => 1
  | undefined => 2
  | weakUndefined => 3
  | common => 4

/-- The kind that a code stands for. -/
def ofCode? (code : UInt8) : Option SymbolKind :=
  if code = 0 then some definition
  else if code = 1 then some weakDefinition
  else if code = 2 then some undefined
  else if code = 3 then some weakUndefined
  else if code = 4 then some common
  else none

/-- The name of a kind in diagnostics. -/
def name : SymbolKind → String
  | definition => "Def"
  | weakDefinition => "WeakDef"
  | undefined => "Undef"
  | weakUndefined => "WeakUndef"
  | common => "Common"

/-- Does the object itself hold the symbol? -/
def isDefinition : SymbolKind → Bool
  | definition | weakDefinition | common => true
  | undefined | weakUndefined => false

@[simp] theorem ofCode?_code (k : SymbolKind) : ofCode? k.code = some k := by
  cases k <;> rfl

theorem ofCode?_eq_some_iff {c : UInt8} {k : SymbolKind} : ofCode? c = some k ↔ c = k.code := by
  constructor
  · intro h
    unfold ofCode? at h
    grind [code]
  · rintro rfl
    exact ofCode?_code k

end SymbolKind

namespace Visibility

/-- The code in a symbol table and in the linker's interface. -/
def code : Visibility → UInt8
  | default => 0
  | nonPreemptible => 1
  | internal => 2
  | hidden => 3

/-- The visibility that a code stands for. -/
def ofCode? (code : UInt8) : Option Visibility :=
  if code = 0 then some default
  else if code = 1 then some nonPreemptible
  else if code = 2 then some internal
  else if code = 3 then some hidden
  else none

/-- The name of a visibility in diagnostics. -/
def name : Visibility → String
  | default => "Default"
  | nonPreemptible => "Protected"
  | internal => "Internal"
  | hidden => "Hidden"

@[simp] theorem ofCode?_code (v : Visibility) : ofCode? v.code = some v := by
  cases v <;> rfl

theorem ofCode?_eq_some_iff {c : UInt8} {v : Visibility} : ofCode? c = some v ↔ c = v.code := by
  constructor
  · intro h
    unfold ofCode? at h
    grind [code]
  · rintro rfl
    exact ofCode?_code v

end Visibility

namespace Resolution

/-- The code in the linker's interface. -/
def code : Resolution → Int
  | unknown => 0
  | undefined => 1
  | prevailing => 2
  | prevailingForIrOnly => 3
  | preemptedByRegular => 4
  | preemptedByIr => 5
  | resolvedInIr => 6
  | resolvedInExecutable => 7
  | resolvedInSharedObject => 8
  | prevailingForIrOnlyExported => 9

/-- The resolution that a code stands for. -/
def ofCode? (code : Int) : Option Resolution :=
  if code = 0 then some unknown
  else if code = 1 then some undefined
  else if code = 2 then some prevailing
  else if code = 3 then some prevailingForIrOnly
  else if code = 4 then some preemptedByRegular
  else if code = 5 then some preemptedByIr
  else if code = 6 then some resolvedInIr
  else if code = 7 then some resolvedInExecutable
  else if code = 8 then some resolvedInSharedObject
  else if code = 9 then some prevailingForIrOnlyExported
  else none

/-- The name that the backend expects in the resolution file. -/
def name : Resolution → String
  | unknown => "UNKNOWN"
  | undefined => "UNDEF"
  | prevailing => "PREVAILING_DEF"
  | prevailingForIrOnly => "PREVAILING_DEF_IRONLY"
  | preemptedByRegular => "PREEMPTED_REG"
  | preemptedByIr => "PREEMPTED_IR"
  | resolvedInIr => "RESOLVED_IR"
  | resolvedInExecutable => "RESOLVED_EXEC"
  | resolvedInSharedObject => "RESOLVED_DYN"
  | prevailingForIrOnlyExported => "PREVAILING_DEF_IRONLY_EXP"

@[simp] theorem ofCode?_code (r : Resolution) : ofCode? r.code = some r := by
  cases r <;> rfl

theorem ofCode?_eq_some_iff {c : Int} {r : Resolution} : ofCode? c = some r ↔ c = r.code := by
  constructor
  · intro h
    unfold ofCode? at h
    repeat' split at h
    all_goals cases h <;> assumption
  · rintro rfl
    exact ofCode?_code r

end Resolution

/-! ### Symbols -/

/-- The number by which the compiler and the backend know a symbol; it means nothing else. -/
abbrev Slot := UInt32

/-- A symbol as the linker is told about it, with the resolution that it has so far. -/
structure Symbol where
  name : NulFree
  /-- The group of definitions of which the linker keeps one, if the symbol is in such a group. -/
  comdatKey : Option NulFree
  kind : SymbolKind
  visibility : Visibility
  size : UInt64
  resolution : Resolution := .unknown
  deriving DecidableEq

/-- What stays the same about a symbol. -/
def Symbol.identity (s : Symbol) : NulFree × Option NulFree × SymbolKind × Visibility × UInt64 :=
  (s.name, s.comdatKey, s.kind, s.visibility, s.size)

/-- How diagnostics show a symbol. -/
def Symbol.describe (s : Symbol) : String :=
  let comdat := match s.comdatKey with
    | some key => s!" comdat=`{Utf8.lossy key.bytes}`"
    | none => ""
  s!"`{Utf8.lossy s.name.bytes}` {s.kind.name}{comdat}"

end LtoBridge
