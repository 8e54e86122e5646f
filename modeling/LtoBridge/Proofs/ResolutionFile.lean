/-
**The resolution file read back.**

The resolution file has no marks between its files but the numbers in it: how many files there are,
and how many lines follow for the symbols of each.  A reader that goes by these numbers, and takes a
file's line apart at its last blank, gets back what was written.  Names of files can hold blanks and
digits, and can look like lines of the file; they only must not go over the end of a line.

Main definitions:

* `LtoBridge.ResolutionFile.Listing`: what the text says about a file;
* `LtoBridge.ResolutionFile.parse?`: the reader.

Main results:

* `LtoBridge.ResolutionFile.times_flatMap`: things that are read one by one are read one after the
  other;
* `LtoBridge.ResolutionFile.reads_back`: **the text says what the registry holds**, and nothing
  else.
-/

import Mathlib
import LtoBridge.Proofs.Decimal
import LtoBridge.ResolutionFile

set_option autoImplicit false

namespace LtoBridge

/-! ### Names of resolutions -/

namespace Resolution

/-- The resolutions. -/
def all : List Resolution :=
  [unknown, undefined, prevailing, prevailingForIrOnly, preemptedByRegular, preemptedByIr,
    resolvedInIr, resolvedInExecutable, resolvedInSharedObject, prevailingForIrOnlyExported]

/-- The resolution with a name. -/
def ofName? (name : Bytes) : Option Resolution :=
  all.find? fun r => Bytes.ofString r.name == name

/-- **Different resolutions have different names.** -/
@[simp] theorem ofName?_name (r : Resolution) : ofName? (Bytes.ofString r.name) = some r := by
  cases r <;> decide

end Resolution

namespace ResolutionFile

/-! ### Lines -/

/-- The first line of a text, and what follows its end. -/
def line? : Bytes → Option (Bytes × Bytes)
  | [] => none
  | b :: text =>
      if b = newline then some ([], text)
      else (line? text).map fun found => (b :: found.1, found.2)

/-- The parts of a line before and behind its last blank. -/
def parts? : Bytes → Option (Bytes × Bytes)
  | [] => none
  | b :: line =>
      match parts? line with
      | some (front, back) => some (b :: front, back)
      | none => if b = blank then some ([], line) else none

/-- The number that is written in decimal. -/
def number? (digits : Bytes) : Option Nat :=
  if digits ≠ [] ∧ ∀ b ∈ digits, 48 ≤ b ∧ b ≤ 57 then some (Bytes.value digits) else none

/-- A line ends at the first end of a line. -/
theorem line?_append {line : Bytes} (h : newline ∉ line) (text : Bytes) :
    line? (line ++ newline :: text) = some (line, text) := by
  induction line with
  | nil => simp [line?]
  | cons b line ih =>
      have hb : b ≠ newline := fun hb => h (hb ▸ List.mem_cons_self)
      rw [List.cons_append, line?, if_neg hb, ih fun hmem => h (List.mem_cons_of_mem b hmem)]
      rfl

theorem parts?_eq_none {line : Bytes} (h : blank ∉ line) : parts? line = none := by
  induction line with
  | nil => rfl
  | cons b line ih =>
      have hb : b ≠ blank := fun hb => h (hb ▸ List.mem_cons_self)
      rw [parts?, ih fun hmem => h (List.mem_cons_of_mem b hmem)]
      exact if_neg hb

/-- A line is taken apart at its last blank, whatever there is before it. -/
theorem parts?_append (front : Bytes) {back : Bytes} (h : blank ∉ back) :
    parts? (front ++ blank :: back) = some (front, back) := by
  induction front with
  | nil => simp [parts?, parts?_eq_none h]
  | cons b front ih => rw [List.cons_append, parts?, ih]

@[simp] theorem number?_decimal (n : Nat) : number? (Bytes.decimal n) = some n := by
  rw [number?, if_pos ⟨Bytes.decimal_ne_nil n, Bytes.digit_of_mem_decimal⟩, Bytes.value_decimal]

theorem newline_not_mem_decimal (n : Nat) : newline ∉ Bytes.decimal n := by
  intro h
  exact absurd (Bytes.digit_of_mem_decimal newline h).1 (by decide)

theorem blank_not_mem_decimal (n : Nat) : blank ∉ Bytes.decimal n := by
  intro h
  exact absurd (Bytes.digit_of_mem_decimal blank h).1 (by decide)

theorem newline_not_mem_name (r : Resolution) : newline ∉ Bytes.ofString r.name := by
  cases r <;> decide

theorem blank_not_mem_name (r : Resolution) : blank ∉ Bytes.ofString r.name := by
  cases r <;> decide

/-! ### Reading -/

/-- Read a number of things, one after the other. -/
def times {α : Type} (read : Bytes → Option (α × Bytes)) : Nat → Bytes → Option (List α × Bytes)
  | 0, text => some ([], text)
  | count + 1, text => do
      let (a, text) ← read text
      let (as, text) ← times read count text
      pure (a :: as, text)

/-- What the text says about a file. -/
structure Listing where
  path : Path
  /-- The symbols by their slots, with their resolutions. -/
  symbols : List (Slot × Resolution)
  deriving DecidableEq

/-- Read the line of a symbol. -/
def symbol? (text : Bytes) : Option ((Slot × Resolution) × Bytes) := do
  let (line, text) ← line? text
  let (slot, name) ← parts? line
  let number ← number? slot
  let resolution ← Resolution.ofName? name
  if number < 2 ^ 32 then pure ((UInt32.ofNat number, resolution), text) else none

/-- Read the lines of a file. -/
def file? (text : Bytes) : Option (Listing × Bytes) := do
  let (line, text) ← line? text
  let (path, digits) ← parts? line
  let count ← number? digits
  let (symbols, text) ← times symbol? count text
  pure (⟨path, symbols⟩, text)

/-- **Read a resolution file**: nothing may follow its last file. -/
def parse? (text : Bytes) : Option (List Listing) := do
  let (line, text) ← line? text
  let count ← number? line
  let (files, text) ← times file? count text
  if text = [] then pure files else none

/-! ### What is written -/

/-- How a symbol with a slot and a resolution is written. -/
def symbolText (s : Slot × Resolution) : Bytes :=
  Bytes.decimal s.1.toNat ++ blank :: Bytes.ofString s.2.name ++ [newline]

/-- **How a file is written**, by what the text says about it. -/
def Listing.text (l : Listing) : Bytes :=
  l.path ++ blank :: Bytes.decimal l.symbols.length ++ newline :: l.symbols.flatMap symbolText

/-- **What there is to be said about a file**; of symbols that were released, nothing. -/
def listing (f : ClaimedFile) : Listing :=
  ⟨f.path, (f.symbols.elim [] (·.entries)).map fun e => (e.slot, e.symbol.resolution)⟩

/-- The number in the first line of a file is that of the lines that follow it. -/
theorem length_symbols_listing (f : ClaimedFile) : (listing f).symbols.length = f.symbolCount := by
  obtain ⟨path, handle, temporary, symbols⟩ := f
  cases symbols with
  | none => rfl
  | some table => exact List.length_map _

theorem fileLines_eq (f : ClaimedFile) : fileLines f = (listing f).text := by
  rw [Listing.text, length_symbols_listing, fileLines, listing, List.flatMap_map]
  rfl

/-- The text of a registry is what there is to be said about its files. -/
theorem render_eq (r : Registry) :
    render r = Bytes.decimal (r.files.map listing).length ++
      newline :: (r.files.map listing).flatMap Listing.text := by
  have hlines : fileLines = fun f => (listing f).text := funext fileLines_eq
  rw [List.length_map, List.flatMap_map, render, Registry.size, hlines]

/-! ### Reading what was written -/

/-- **Things that are read one by one are read one after the other**, whatever follows them. -/
theorem times_flatMap {α : Type} {read : Bytes → Option (α × Bytes)} {write : α → Bytes}
    {items : List α} (h : ∀ a ∈ items, ∀ text, read (write a ++ text) = some (a, text))
    (text : Bytes) :
    times read items.length (items.flatMap write ++ text) = some (items, text) := by
  induction items with
  | nil => rfl
  | cons a items ih =>
      have hothers := ih fun b hb => h b (List.mem_cons_of_mem a hb)
      rw [List.flatMap_cons, List.append_assoc, List.length_cons, times, h a List.mem_cons_self]
      simp [hothers]

theorem symbol?_symbolText (s : Slot × Resolution) (text : Bytes) :
    symbol? (symbolText s ++ text) = some (s, text) := by
  have hline : line? (symbolText s ++ text) =
      some (Bytes.decimal s.1.toNat ++ blank :: Bytes.ofString s.2.name, text) := by
    have h : newline ∉ Bytes.decimal s.1.toNat ++ blank :: Bytes.ofString s.2.name := by
      simp only [List.mem_append, List.mem_cons, not_or]
      exact ⟨newline_not_mem_decimal _, by decide, newline_not_mem_name _⟩
    rw [symbolText, List.append_assoc, List.singleton_append, line?_append h]
  have hparts := parts?_append (Bytes.decimal s.1.toNat) (blank_not_mem_name s.2)
  have hslot : s.1.toNat < 2 ^ 32 := s.1.toNat_lt
  simp only [symbol?, hline, hparts, Option.bind_eq_bind, Option.bind_some, number?_decimal,
    Resolution.ofName?_name, if_pos hslot, UInt32.ofNat_toNat]
  rfl

theorem file?_text {l : Listing} (h : newline ∉ l.path) (text : Bytes) :
    file? (l.text ++ text) = some (l, text) := by
  have hline : line? (l.text ++ text) = some (l.path ++ blank :: Bytes.decimal l.symbols.length,
      l.symbols.flatMap symbolText ++ text) := by
    have hmem : newline ∉ l.path ++ blank :: Bytes.decimal l.symbols.length := by
      simp only [List.mem_append, List.mem_cons, not_or]
      exact ⟨h, by decide, newline_not_mem_decimal _⟩
    rw [Listing.text, List.append_assoc, List.cons_append, line?_append hmem]
  have hparts := parts?_append l.path (blank_not_mem_decimal l.symbols.length)
  have hsymbols := times_flatMap (fun s (_ : s ∈ l.symbols) => symbol?_symbolText s) text
  simp [file?, hline, hparts, hsymbols]

theorem parse?_render {r : Registry} (h : ∀ f ∈ r.files, newline ∉ f.path) :
    parse? (render r) = some (r.files.map listing) := by
  have hline := line?_append (newline_not_mem_decimal (r.files.map listing).length)
    ((r.files.map listing).flatMap Listing.text)
  have hfiles : ∀ l ∈ r.files.map listing, newline ∉ l.path := by
    intro l hl
    obtain ⟨f, hf, rfl⟩ := List.mem_map.1 hl
    exact h f hf
  have htimes := times_flatMap (fun l hl => file?_text (hfiles l hl)) []
  rw [List.append_nil] at htimes
  rw [render_eq]
  simp only [parse?, hline, Option.bind_eq_bind, Option.bind_some, number?_decimal, htimes]
  rfl

/-- **The resolution file can be read back**: if no name of a file goes over the end of a line, the
text says which files there are, in their order, and for each of them the slots and resolutions of
its symbols in their order, with none for a file whose symbols were released; and nothing is left of
the text.  So two such registries have the same text exactly if there is the same to be said about
their files. -/
theorem reads_back :
    (∀ r : Registry, (∀ f ∈ r.files, newline ∉ f.path) →
      parse? (render r) = some (r.files.map listing)) ∧
    ∀ r r' : Registry, (∀ f ∈ r.files, newline ∉ f.path) → (∀ f ∈ r'.files, newline ∉ f.path) →
      (render r = render r' ↔ r.files.map listing = r'.files.map listing) := by
  refine ⟨fun r h => parse?_render h, fun r r' h h' => ⟨fun heq => ?_, fun heq => ?_⟩⟩
  · have hread := parse?_render h
    rw [heq, parse?_render h'] at hread
    exact (Option.some.inj hread).symm
  · rw [render_eq, render_eq, heq]

/-- A symbol with a slot and a resolution. -/
def sampleEntry (slot : Slot) (resolution : Resolution) : SymbolEntry :=
  ⟨{ name := NulFree.upToZero [102], kind := .definition, visibility := .default
     comdatKey := none, size := 0, resolution }, slot⟩

/-- Files whose names look like lines of the resolution file; the symbols of one were released. -/
def sampleRegistry : Registry :=
  ⟨[⟨Bytes.ofString "7 UNDEF", 1, false,
      some ⟨[sampleEntry 7 .prevailing, sampleEntry 10 .unknown]⟩⟩,
    ⟨Bytes.ofString "a b.o 2", 2, true, none⟩, ⟨Bytes.ofString "3", 3, false, some ⟨[]⟩⟩]⟩

theorem reads_back_sample :
    render sampleRegistry =
        Bytes.ofString "3\n7 UNDEF 2\n7 PREVAILING_DEF\n10 UNKNOWN\na b.o 2 0\n3 0\n" ∧
      parse? (render sampleRegistry) =
        some [⟨Bytes.ofString "7 UNDEF", [(7, .prevailing), (10, .unknown)]⟩,
          ⟨Bytes.ofString "a b.o 2", []⟩, ⟨Bytes.ofString "3", []⟩] ∧
      render sampleRegistry =
        render ⟨sampleRegistry.files.map fun f => { f with handle := 5, temporary := true }⟩ := by
  have hlines : ∀ f ∈ sampleRegistry.files, newline ∉ f.path := by decide +kernel
  refine ⟨by decide +kernel, reads_back.1 sampleRegistry hlines, ?_⟩
  exact (reads_back.2 sampleRegistry _ hlines (by decide +kernel)).2 (by decide +kernel)

end ResolutionFile

end LtoBridge
