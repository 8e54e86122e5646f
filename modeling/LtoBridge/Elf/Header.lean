/-
**The headers of an ELF file.**

A file begins with sixteen bytes that say what it is and how its headers are written, followed by
the file header.  The file header says where the table of section headers is, how many there are,
and which of the sections holds the section names.  Numbers that do not fit the file header are
found in section header 0.

Main definitions:

* `LtoBridge.Elf.FileHeader`, `LtoBridge.Elf.FileHeader.read?`;
* `LtoBridge.Elf.Section`, `LtoBridge.Elf.Section.readTable?`.
-/

import LtoBridge.Elf.Format

set_option autoImplicit false

namespace LtoBridge.Elf

/-! ### The file header -/

/-- The file header after the identification. -/
structure FileHeader where
  type : Nat
  machine : Nat
  version : Nat
  entry : Nat
  programTable : Nat
  sectionTable : Nat
  flags : Nat
  size : Nat
  programEntrySize : Nat
  programCount : Nat
  sectionEntrySize : Nat
  sectionCount : Nat
  nameTable : Nat
  deriving DecidableEq, Repr

/-- The number of bytes of the identification. -/
def identSize : Nat := 16

/-- The four bytes that every file begins with. -/
def magic : Bytes := [0x7F, 0x45, 0x4C, 0x46]

/-- The widths of the numbers of a file header. -/
def WordSize.fileHeaderWidths (w : WordSize) : List Nat :=
  [2, 2, 4, w.bytes, w.bytes, w.bytes, 4, 2, 2, 2, 2, 2, 2]

/-- The number of bytes of a program header. -/
def WordSize.programHeaderSize : WordSize → Nat
  | bits32 => 32
  | bits64 => 56

/-- The number of bytes of an entry of a native symbol table. -/
def WordSize.symbolSize : WordSize → Nat
  | bits32 => 16
  | bits64 => 24

/-- The file header with the given numbers. -/
def FileHeader.ofNumbers? : List Nat → Option FileHeader
  | [type, machine, version, entry, programTable, sectionTable, flags, size, programEntrySize,
      programCount, sectionEntrySize, sectionCount, nameTable] =>
      some { type, machine, version, entry, programTable, sectionTable, flags, size,
             programEntrySize, programCount, sectionEntrySize, sectionCount, nameTable }
  | _ => none

/-- The class that the fifth byte of the identification stands for. -/
def WordSize.ofCode? (code : UInt8) : Option WordSize :=
  if code = 1 then some bits32 else if code = 2 then some bits64 else none

/-- The byte order that the sixth byte of the identification stands for. -/
def ByteOrder.ofCode? (code : UInt8) : Option ByteOrder :=
  if code = 1 then some little else if code = 2 then some big else none

/-- How the headers are written, from the identification.  The byte after class and byte order is
the version of the format, of which there is only one. -/
def Format.ofIdent? (ident : Bytes) : Option Format :=
  if ident.take 4 = magic then
    match ident.drop 4 with
    | word :: order :: version :: _ =>
        if version = 1 then do
          let word ← WordSize.ofCode? word
          let order ← ByteOrder.ofCode? order
          pure ⟨word, order⟩
        else none
    | _ => none
  else none

/-- The format and the file header of a file. -/
def FileHeader.read? (data : Bytes) : Option (Format × FileHeader) := do
  let ident ← data.slice? 0 identSize
  let format ← Format.ofIdent? ident
  let numbers ← format.numbers format.word.fileHeaderWidths (data.drop identSize)
  let header ← FileHeader.ofNumbers? numbers
  pure (format, header)

/-! ### Section headers -/

/-- A section header.  Flags, address, alignment and entry size do not matter here. -/
structure Section where
  name : Nat
  type : Nat
  flags : Nat
  address : Nat
  offset : Nat
  size : Nat
  link : Nat
  info : Nat
  alignment : Nat
  entrySize : Nat
  deriving DecidableEq, Repr

/-- The widths of the numbers of a section header. -/
def WordSize.sectionWidths (w : WordSize) : List Nat :=
  [4, 4, w.bytes, w.bytes, w.bytes, w.bytes, 4, 4, w.bytes, w.bytes]

/-- The number of bytes of a section header. -/
def WordSize.sectionSize : WordSize → Nat
  | bits32 => 40
  | bits64 => 64

/-- The section header with the given numbers. -/
def Section.ofNumbers? : List Nat → Option Section
  | [name, type, flags, address, offset, size, link, info, alignment, entrySize] =>
      some { name, type, flags, address, offset, size, link, info, alignment, entrySize }
  | _ => none

/-- The section header at the beginning of the data. -/
def Section.read? (f : Format) (data : Bytes) : Option Section := do
  let numbers ← f.numbers f.word.sectionWidths data
  Section.ofNumbers? numbers

/-- The given number of section headers, one after the other. -/
def Section.readTable? (f : Format) : Nat → Bytes → Option (List Section)
  | 0, _ => some []
  | count + 1, data => do
      let first ← Section.read? f data
      let others ← readTable? f count (data.drop f.word.sectionSize)
      pure (first :: others)

namespace Section

/-- The types of sections that matter. -/
def symbolsType : Nat := 2

/-- A table of strings. -/
def stringsType : Nat := 3

/-- Relocations with addends. -/
def relaType : Nat := 4

/-- A section without contents in the file. -/
def noBitsType : Nat := 8

/-- Relocations without addends. -/
def relType : Nat := 9

/-- The symbols for dynamic linking. -/
def dynamicSymbolsType : Nat := 11

/-- Section numbers of symbols that do not fit the symbol table. -/
def symbolIndexesType : Nat := 18

/-- Compact relocations. -/
def crelType : Nat := 0x40000014

/-- Does the section hold relocations? -/
def isRelocation (s : Section) : Bool :=
  s.type == relType || s.type == relaType || s.type == crelType

/-- The contents of a section.  A section of size zero has none, wherever it is. -/
def contents? (s : Section) (data : Bytes) : Option Bytes :=
  if s.type = noBitsType ∨ s.size = 0 then some [] else data.slice? s.offset s.size

/-- Can the section be read as a table of entries of the given size, in a file of the given length?
A section without contents can. -/
def isTable (s : Section) (entrySize length : Nat) : Bool :=
  s.type == noBitsType || s.size == 0 ||
    (decide (s.offset + s.size ≤ length) && s.size % entrySize == 0)

end Section

end LtoBridge.Elf
