/-
**ELF objects.**

A file is an object if its tables can be read: the program headers, the section headers, the
section names, the two native symbol tables and the relocations.  What is in the tables does not
matter beyond that.  In an object, the intermediate symbol table is the section of a certain name.

Main definitions:

* `LtoBridge.Elf.Object`, `LtoBridge.Elf.Object.read?`: the sections of an object;
* `LtoBridge.Elf.findSymbolTable?`: the contents of the intermediate symbol table.
-/

import LtoBridge.Elf.Header

set_option autoImplicit false

namespace LtoBridge.Elf

/-- The sections of an object and their names. -/
structure Object where
  format : Format
  sections : List Section
  /-- The section names, each with a zero byte after it. -/
  names : Array UInt8

/-- Positions in a file are below this bound. -/
def positionLimit : Nat := 0x10000000000000000

/-! ### Tables -/

/-- Section header 0, which holds the numbers that do not fit the file header. -/
def FileHeader.overflow? (h : FileHeader) (f : Format) (data : Bytes) : Option Section :=
  if h.sectionTable = 0 ∨ h.sectionEntrySize ≠ f.word.sectionSize then none
  else (data.slice? h.sectionTable f.word.sectionSize).bind (Section.read? f)

/-- The number of program headers. -/
def FileHeader.programCount? (h : FileHeader) (f : Format) (data : Bytes) : Option Nat :=
  if h.programCount = 0xFFFF then (h.overflow? f data).map (·.info) else some h.programCount

/-- The number of section headers. -/
def FileHeader.sectionCount? (h : FileHeader) (f : Format) (data : Bytes) : Option Nat :=
  if h.sectionTable = 0 then some 0
  else if h.sectionCount = 0 then (h.overflow? f data).map (·.size)
  else some h.sectionCount

/-- The number of the section with the section names. -/
def FileHeader.nameTable? (h : FileHeader) (f : Format) (data : Bytes) : Option Nat :=
  if h.nameTable = 0xFFFF then (h.overflow? f data).map (·.link) else some h.nameTable

/-- Can the program headers be read? -/
def FileHeader.hasProgramTable (h : FileHeader) (f : Format) (data : Bytes) : Bool :=
  h.programTable == 0 ||
    match h.programCount? f data with
    | none => false
    | some count =>
        count == 0 || (h.programEntrySize == f.word.programHeaderSize &&
          (data.slice? h.programTable (count * f.word.programHeaderSize)).isSome)

/-- The section headers. -/
def FileHeader.sections? (h : FileHeader) (f : Format) (data : Bytes) : Option (List Section) := do
  let count ← h.sectionCount? f data
  if count = 0 then some []
  else if h.sectionEntrySize ≠ f.word.sectionSize then none
  else
    let table ← data.slice? h.sectionTable (count * f.word.sectionSize)
    Section.readTable? f count table

/-- Where a section is in the file, unless its end is beyond all positions. -/
def Section.range? (s : Section) : Option (Nat × Nat) :=
  if s.offset + s.size < positionLimit then some (s.offset, s.offset + s.size) else none

/-- Where the section names are: the first byte and the one after the last. -/
def FileHeader.namesRange? (h : FileHeader) (f : Format) (data : Bytes) (sections : List Section) :
    Option (Option (Nat × Nat)) :=
  if sections = [] then some none
  else do
    let index ← h.nameTable? f data
    if index = 0 then none
    else
      let s ← sections[index]?
      if s.type = Section.noBitsType then some none else s.range?.map some

/-- The strings in some bytes, up to the last zero byte. -/
def terminated (bs : Bytes) : Bytes := (bs.reverse.dropWhile (· != 0)).reverse

/-- The section names in a range of a file.  There are none if the range is not within the file. -/
def namesIn (range : Option (Nat × Nat)) (data : Bytes) : Bytes :=
  match range with
  | some (first, last) => terminated ((data.slice? first (last - first)).getD [])
  | none => []

/-! ### Native symbols and relocations -/

/-- Is the number that of no section, or of a table of strings? -/
def isStringTable (sections : List Section) (index : Nat) : Bool :=
  index == 0 ||
    match sections[index]? with
    | some s => s.type == Section.stringsType && s.range?.isSome
    | none => false

/-- Can the first symbol table of the given type be read, if there is one, in a file of the given
length? -/
def hasSymbols (f : Format) (sections : List Section) (length type : Nat) : Bool :=
  match sections.findIdx? (·.type == type) with
  | none => true
  | some index =>
      match sections[index]? with
      | none => true
      | some s =>
          s.isTable f.word.symbolSize length && isStringTable sections s.link &&
            sections.all fun x =>
              !(x.type == Section.symbolIndexesType && x.link == index) || x.isTable 4 length

/-- Do the relocations that go with the symbol table apply to sections that have them? -/
def hasRelocations (sections : List Section) : Bool :=
  let symbols := (sections.findIdx? (·.type == Section.symbolsType)).getD 0
  let targets := sections.toArray
  sections.all fun s =>
    !(s.isRelocation && s.link == symbols && s.info != 0) ||
      match targets[s.info]? with
      | some target => !target.isRelocation
      | none => false

/-- **Read an object.** -/
def Object.read? (data : Bytes) : Option Object := do
  let (format, header) ← FileHeader.read? data
  guard (header.hasProgramTable format data)
  let sections ← header.sections? format data
  let range ← header.namesRange? format data sections
  let length := data.length
  guard (hasSymbols format sections length Section.symbolsType)
  guard (hasSymbols format sections length Section.dynamicSymbolsType)
  guard (hasRelocations sections)
  pure ⟨format, sections, (namesIn range data).toArray⟩

/-! ### The intermediate symbol table -/

/-- The name of the section with the symbols of the intermediate code. -/
def symbolTableName : Bytes := Bytes.ofString ".gnu.lto_.symtab"

/-- Is the section one with symbols of the intermediate code, going by its name?  Compilers may put
a dot and anything else after the name, so that only the byte after it matters. -/
def Object.isSymbolTable (o : Object) (s : Section) : Bool :=
  let name := (o.names.extract s.name (s.name + symbolTableName.length + 1)).toList
  name == symbolTableName ++ [0] || name == symbolTableName ++ [46]

/-- The first section after section 0 that holds intermediate symbols. -/
def Object.symbolTable? (o : Object) : Option Section := o.sections.tail.find? o.isSymbolTable

/-- **The contents of the intermediate symbol table**, if the file is an object and has one. -/
def findSymbolTable? (data : Bytes) : Option Bytes := do
  let object ← Object.read? data
  let s ← object.symbolTable?
  s.contents? data

end LtoBridge.Elf
