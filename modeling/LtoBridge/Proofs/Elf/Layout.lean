/-
**Objects, and how they are laid out in a file.**

An object is a list of named sections.  Its file consists of pieces: the file header, the table of
section headers and the contents of the sections.  Where the pieces are, and where the names of the
sections are within the section that holds them, is up to whoever writes the file.

Main definitions:

* `LtoBridge.Elf.Part`: a section, apart from where it is;
* `LtoBridge.Elf.Layout`, `LtoBridge.Elf.Layout.pieces`: the pieces of a file and their places;
* `LtoBridge.Elf.Layout.IsSound`: the numbers of a layout describe the sections;
* `LtoBridge.Elf.Layout.IsFile`: **a file with a laid out object**;
* `LtoBridge.Elf.Layout.write`: the pieces are written into a file.

Main results:

* `LtoBridge.Elf.Layout.isFile_write`: pieces that do not overlap come to lie where they belong.
-/

import LtoBridge.Elf.Object
import Mathlib.Data.List.Basic

set_option autoImplicit false

namespace LtoBridge

/-! ### Pieces of files -/

namespace Bytes

/-- The data have a piece at a position. -/
def HasAt (data : Bytes) (position : Nat) (piece : Bytes) : Prop :=
  data.slice? position piece.length = some piece

instance (data : Bytes) (position : Nat) (piece : Bytes) : Decidable (data.HasAt position piece) :=
  inferInstanceAs (Decidable (data.slice? position piece.length = some piece))

theorem hasAt_iff_drop {data piece : Bytes} {position : Nat} : data.HasAt position piece ↔
    position + piece.length ≤ data.length ∧ piece <+: data.drop position := by
  rw [HasAt, slice?_eq_some_iff, List.prefix_iff_eq_take]
  exact and_congr_right fun _ => eq_comm

theorem hasAt_iff_getElem? {data piece : Bytes} {position : Nat} : data.HasAt position piece ↔
    position + piece.length ≤ data.length ∧
      ∀ i < piece.length, data[position + i]? = piece[i]? := by
  rw [hasAt_iff_drop]
  refine and_congr_right fun _ => ?_
  rw [List.prefix_iff_getElem?]
  simp only [List.getElem?_drop]
  constructor
  · intro h i hi
    rw [h i hi, List.getElem?_eq_getElem hi]
  · intro h i hi
    rw [h i hi, List.getElem?_eq_getElem hi]

/-- What a piece begins with is at the same position. -/
theorem HasAt.left {data piece rest : Bytes} {position : Nat}
    (h : data.HasAt position (piece ++ rest)) : data.HasAt position piece := by
  rw [hasAt_iff_drop] at h ⊢
  obtain ⟨hle, hprefix⟩ := h
  rw [List.length_append] at hle
  exact ⟨by omega, (List.prefix_append _ _).trans hprefix⟩

/-- The data with a piece written over what was at a position.  What is beyond the end is lost. -/
def overlay (data : Bytes) (position : Nat) (piece : Bytes) : Bytes :=
  (data.take position ++ piece ++ data.drop (position + piece.length)).take data.length

@[simp] theorem length_overlay (data : Bytes) (position : Nat) (piece : Bytes) :
    (data.overlay position piece).length = data.length := by
  simp only [overlay, List.length_take, List.length_append, List.length_drop]
  omega

theorem getElem?_overlay_of_mem {data piece : Bytes} {position i : Nat}
    (hi : i < piece.length) (hlength : position + piece.length ≤ data.length) :
    (data.overlay position piece)[position + i]? = piece[i]? := by
  have hfront : (data.take position).length = position := by
    rw [List.length_take]
    omega
  rw [overlay, List.getElem?_take_of_lt (by omega), List.append_assoc,
    List.getElem?_append_right (by omega), hfront, Nat.add_sub_cancel_left,
    List.getElem?_append_left hi]

theorem getElem?_overlay_of_not_mem {data piece : Bytes} {position i : Nat}
    (hi : i < position ∨ position + piece.length ≤ i) :
    (data.overlay position piece)[i]? = data[i]? := by
  obtain hlt | hge := Nat.lt_or_ge i data.length
  · have hfront : (data.take position).length = min position data.length := List.length_take
    rw [overlay, List.getElem?_take_of_lt hlt, List.append_assoc]
    obtain hbefore | hafter := hi
    · rw [List.getElem?_append_left (by omega), List.getElem?_take_of_lt hbefore]
    · rw [List.getElem?_append_right (by omega), List.getElem?_append_right (by omega),
        List.getElem?_drop]
      congr 1
      omega
  · rw [List.getElem?_eq_none (by simpa using hge), List.getElem?_eq_none hge]

end Bytes

/-- Two pieces of a file do not overlap. -/
def Apart (a b : Nat × Bytes) : Prop :=
  a.1 + a.2.length ≤ b.1 ∨ b.1 + b.2.length ≤ a.1

/-- The data have pieces in their places. -/
def Holds (pieces : List (Nat × Bytes)) (data : Bytes) : Prop :=
  ∀ piece ∈ pieces, piece.2 ≠ [] → data.HasAt piece.1 piece.2

instance (pieces : List (Nat × Bytes)) (data : Bytes) : Decidable (Holds pieces data) :=
  inferInstanceAs (Decidable (∀ piece ∈ pieces, piece.2 ≠ [] → data.HasAt piece.1 piece.2))

/-- The data with pieces written over them, one after the other. -/
def assemble (pieces : List (Nat × Bytes)) (data : Bytes) : Bytes :=
  pieces.foldl (fun data piece => data.overlay piece.1 piece.2) data

@[simp] theorem length_assemble (pieces : List (Nat × Bytes)) (data : Bytes) :
    (assemble pieces data).length = data.length := by
  induction pieces generalizing data with
  | nil => rfl
  | cons piece pieces ih =>
      have hlength := ih (data.overlay piece.1 piece.2)
      rwa [Bytes.length_overlay] at hlength

/-- What is apart from all pieces stays where it is. -/
theorem hasAt_assemble_of_apart {pieces : List (Nat × Bytes)} {data : Bytes} {a : Nat × Bytes}
    (hdata : data.HasAt a.1 a.2) (hapart : ∀ piece ∈ pieces, Apart a piece) :
    (assemble pieces data).HasAt a.1 a.2 := by
  induction pieces generalizing data with
  | nil => exact hdata
  | cons piece pieces ih =>
      refine @ih (data.overlay piece.1 piece.2) ?_ fun b hb => hapart b (.tail _ hb)
      have hpiece := hapart piece List.mem_cons_self
      rw [Bytes.hasAt_iff_getElem?] at hdata ⊢
      rw [Bytes.length_overlay]
      refine ⟨hdata.1, fun i hi => ?_⟩
      rw [Bytes.getElem?_overlay_of_not_mem, hdata.2 i hi]
      rcases hpiece with hbefore | hafter
      · exact .inl (by omega)
      · exact .inr (by omega)

/-- **Pieces that do not overlap come to lie where they belong.** -/
theorem holds_assemble {pieces : List (Nat × Bytes)} {data : Bytes}
    (hapart : pieces.Pairwise Apart)
    (hwithin : ∀ piece ∈ pieces, piece.1 + piece.2.length ≤ data.length) :
    Holds pieces (assemble pieces data) := by
  induction pieces generalizing data with
  | nil => exact fun _ h => absurd h List.not_mem_nil
  | cons piece pieces ih =>
      obtain ⟨hfirst, hrest⟩ := List.pairwise_cons.1 hapart
      intro a ha hne
      rcases List.mem_cons.1 ha with rfl | ha
      · refine @hasAt_assemble_of_apart pieces (data.overlay a.1 a.2) a ?_ hfirst
        have hlength := hwithin a List.mem_cons_self
        refine Bytes.hasAt_iff_getElem?.2 ⟨by rwa [Bytes.length_overlay], fun i hi => ?_⟩
        exact Bytes.getElem?_overlay_of_mem hi hlength
      · refine @ih (data.overlay piece.1 piece.2) hrest (fun b hb => ?_) a ha hne
        rw [Bytes.length_overlay]
        exact hwithin b (.tail _ hb)

namespace Elf

/-! ### Sections -/

/-- A section of an object, apart from where it is in a file. -/
structure Part where
  name : NulFree
  type : Nat
  flags : Nat := 0
  address : Nat := 0
  contents : Bytes
  link : Nat := 0
  info : Nat := 0
  alignment : Nat := 0
  entrySize : Nat := 0

namespace Part

/-- What a file has of the contents.  Those of some sections come into being in memory only. -/
def stored (p : Part) : Bytes := if p.type = Section.noBitsType then [] else p.contents

theorem stored_ne_nil {p : Part} (h : p.stored ≠ []) :
    p.type ≠ Section.noBitsType ∧ p.stored = p.contents := by
  by_cases htype : p.type = Section.noBitsType
  · exact absurd (if_pos htype) h
  · exact ⟨htype, if_neg htype⟩

/-- Does the section hold symbols of the intermediate code?  Its name is that of the table, or goes
on with a dot after that. -/
def isSymbolTable (p : Part) : Bool :=
  p.name.bytes == symbolTableName || (symbolTableName ++ [46]).isPrefixOf p.name.bytes

/-- Does the section hold relocations? -/
def isRelocation (p : Part) : Bool :=
  p.type == Section.relType || p.type == Section.relaType || p.type == Section.crelType

end Part

/-- The section with a number.  Section 0 is none of them. -/
def numbered? (parts : List Part) : Nat → Option Part
  | 0 => none
  | number + 1 => parts[number]?

theorem numbered?_eq_some_iff {parts : List Part} {number : Nat} {p : Part} :
    numbered? parts number = some p ↔ ∃ i, number = i + 1 ∧ parts[i]? = some p := by
  cases number with
  | zero => simp [numbered?]
  | succ number => simp [numbered?]

theorem mem_of_numbered? {parts : List Part} {number : Nat} {p : Part}
    (h : numbered? parts number = some p) : p ∈ parts := by
  obtain ⟨i, -, hp⟩ := numbered?_eq_some_iff.1 h
  exact List.mem_of_getElem? hp

/-- **The native symbol tables and relocations are well formed**: tables of whole entries, whose
numbers of other sections are right. -/
structure WellFormed (w : WordSize) (parts : List Part) : Prop where
  symbols : ∀ p ∈ parts, p.type = Section.symbolsType ∨ p.type = Section.dynamicSymbolsType →
    p.contents.length % w.symbolSize = 0 ∧
      (p.link ≠ 0 → ∃ q, numbered? parts p.link = some q ∧ q.type = Section.stringsType)
  symbolIndexes : ∀ p ∈ parts, p.type = Section.symbolIndexesType → p.contents.length % 4 = 0
  relocations : ∀ p ∈ parts, p.isRelocation = true → p.info ≠ 0 →
    ∃ q, numbered? parts p.info = some q ∧ q.isRelocation = false

/-! ### Headers as bytes -/

/-- The code of a class in the identification. -/
def WordSize.code : WordSize → UInt8
  | bits32 => 1
  | bits64 => 2

/-- The code of a byte order in the identification. -/
def ByteOrder.code : ByteOrder → UInt8
  | little => 1
  | big => 2

/-- The identification of a file, with what the format leaves open. -/
def Format.ident (f : Format) (rest : Bytes) : Bytes :=
  magic ++ [f.word.code, f.order.code, 1] ++ rest

/-- The numbers of a file header, in order. -/
def FileHeader.numbers (h : FileHeader) : List Nat :=
  [h.type, h.machine, h.version, h.entry, h.programTable, h.sectionTable, h.flags, h.size,
    h.programEntrySize, h.programCount, h.sectionEntrySize, h.sectionCount, h.nameTable]

/-- The numbers of a section header, in order. -/
def Section.numbers (s : Section) : List Nat :=
  [s.name, s.type, s.flags, s.address, s.offset, s.size, s.link, s.info, s.alignment, s.entrySize]

/-- Numbers fit the widths of their fields. -/
def Fit (widths numbers : List Nat) : Prop :=
  ∀ cell ∈ widths.zip numbers, cell.2 < Bytes.capacity cell.1

instance (widths numbers : List Nat) : Decidable (Fit widths numbers) :=
  inferInstanceAs (Decidable (∀ cell ∈ widths.zip numbers, cell.2 < Bytes.capacity cell.1))

/-- A file header as bytes. -/
def FileHeader.bytes (f : Format) (h : FileHeader) : Bytes :=
  f.row (f.word.fileHeaderWidths.zip h.numbers)

/-- A section header as bytes. -/
def Section.bytes (f : Format) (s : Section) : Bytes := f.row (f.word.sectionWidths.zip s.numbers)

/-! ### Layouts -/

/-- **A layout**: the headers of a file, and where its sections and their names are. -/
structure Layout where
  /-- The identification after class, byte order and version. -/
  padding : Bytes
  header : FileHeader
  /-- Section header 0. -/
  first : Section
  /-- The number of the section with the section names. -/
  nameTable : Nat
  /-- Where the contents of the section with a number are. -/
  position : Nat → Nat
  /-- Where the name of the section with a number is, within the section with the names. -/
  nameAt : Nat → Nat

namespace Layout

variable (l : Layout) (f : Format) (parts : List Part)

/-- The header of the section with a number. -/
def entry (number : Nat) (p : Part) : Section where
  name := l.nameAt number
  type := p.type
  flags := p.flags
  address := p.address
  offset := l.position number
  size := p.contents.length
  link := p.link
  info := p.info
  alignment := p.alignment
  entrySize := p.entrySize

/-- The headers of all sections after section 0. -/
def entries : List Section := parts.mapIdx fun i p => l.entry (i + 1) p

/-- All section headers.  A file need not have any if there are no sections. -/
def sections : List Section :=
  if l.header.sectionTable = 0 then [] else l.first :: l.entries parts

/-- The headers and their places. -/
def heads : List (Nat × Bytes) :=
  [(0, f.ident l.padding ++ l.header.bytes f),
    (l.header.sectionTable, (l.sections parts).flatMap (Section.bytes f))]

/-- The contents of the sections and their places. -/
def contents : List (Nat × Bytes) := parts.mapIdx fun i p => (l.position (i + 1), p.stored)

/-- **All pieces of a file and their places.** -/
def pieces : List (Nat × Bytes) := l.heads f parts ++ l.contents parts

/-- A file with the pieces written into it, on top of what was there. -/
def write (background : Bytes) : Bytes := assemble (l.pieces f parts) background

/-- **The numbers of a layout describe the sections.**  The number of sections and the number of
the section with the names stand in the file header or, if they do not fit, in section header 0.
There are no program headers. -/
structure IsSound : Prop where
  padding : l.padding.length = 9
  header_fits : Fit f.word.fileHeaderWidths l.header.numbers
  sections_fit : ∀ s ∈ l.sections parts, Fit f.word.sectionWidths s.numbers
  noPrograms : l.header.programTable = 0 ∨ l.header.programCount = 0
  noSections : l.header.sectionTable = 0 → parts = []
  entrySize : l.header.sectionEntrySize = f.word.sectionSize
  count : l.header.sectionCount = parts.length + 1 ∨
    l.header.sectionCount = 0 ∧ l.first.size = parts.length + 1
  first_type : l.first.type = 0
  nameTable : l.header.nameTable = l.nameTable ∧ l.nameTable ≠ 0xFFFF ∨
    l.header.nameTable = 0xFFFF ∧ l.first.link = l.nameTable
  /-- Every name, with its end, is where the layout says. -/
  names : ∀ number p, numbered? parts number = some p → ∃ table,
    numbered? parts l.nameTable = some table ∧ table.type ≠ Section.noBitsType ∧
      table.contents.HasAt (l.nameAt number) p.name.terminated

/-- **A file with a laid out object**, whatever else is in the file. -/
structure IsFile (data : Bytes) : Prop where
  sound : l.IsSound f parts
  formed : WellFormed f.word parts
  holds : Holds (l.pieces f parts) data
  limit : data.length < positionLimit

variable {l f parts}

/-- **Pieces that do not overlap come to lie where they belong.** -/
theorem isFile_write {background : Bytes} (hsound : l.IsSound f parts)
    (hformed : WellFormed f.word parts) (hapart : (l.pieces f parts).Pairwise Apart)
    (hwithin : ∀ piece ∈ l.pieces f parts, piece.1 + piece.2.length ≤ background.length)
    (hlimit : background.length < positionLimit) :
    l.IsFile f parts (l.write f parts background) :=
  ⟨hsound, hformed, holds_assemble hapart hwithin, by rwa [write, length_assemble]⟩

theorem IsFile.heads {data : Bytes} (h : l.IsFile f parts data) : Holds (l.heads f parts) data :=
  fun piece hmem => h.holds piece (List.mem_append_left _ hmem)

theorem IsFile.contents {data : Bytes} (h : l.IsFile f parts data) :
    Holds (l.contents parts) data :=
  fun piece hmem => h.holds piece (List.mem_append_right _ hmem)

end Layout

end Elf

end LtoBridge
