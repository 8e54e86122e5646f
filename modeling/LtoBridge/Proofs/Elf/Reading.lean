/-
**Reading the headers of a laid out object.**

Whatever the class, the byte order and the places of the pieces, the headers that are read from a
file are those that were laid out in it.

Main results:

* `LtoBridge.Elf.read?_fileHeader`, `LtoBridge.Elf.readTable?_bytes`: headers are read as they were
  written;
* `LtoBridge.Elf.Layout.sections?_eq`, `LtoBridge.Elf.Layout.nameTable?_eq`: numbers that do not fit
  the file header are found in section header 0.
-/

import LtoBridge.Proofs.Elf.Layout
import Mathlib.Algebra.Ring.Nat

set_option autoImplicit false

namespace LtoBridge.Elf

/-! ### Rows of numbers -/

theorem Format.numbers_of_fit (f : Format) {widths numbers : List Nat} (rest : Bytes)
    (hlength : widths.length = numbers.length) (hfit : Fit widths numbers) :
    f.numbers widths (f.row (widths.zip numbers) ++ rest) = some numbers := by
  have hread := f.numbers_row (widths.zip numbers) rest hfit
  rwa [List.map_fst_zip (Nat.le_of_eq hlength), List.map_snd_zip (Nat.le_of_eq hlength.symm)]
    at hread

theorem Format.length_row (f : Format) (cells : List (Nat × Nat)) :
    (f.row cells).length = (cells.map Prod.fst).sum := by
  induction cells with
  | nil => rfl
  | cons cell cells ih =>
      have hrow : f.row (cell :: cells) = f.bytes cell.1 cell.2 ++ f.row cells := rfl
      rw [hrow, List.length_append, Format.length_bytes, ih, List.map_cons, List.sum_cons]

/-! ### The file header -/

theorem ofIdent?_ident (f : Format) (rest : Bytes) : Format.ofIdent? (f.ident rest) = some f := by
  obtain ⟨word, order⟩ := f
  cases word <;> cases order <;> rfl

theorem length_ident (f : Format) (rest : Bytes) : (f.ident rest).length = 7 + rest.length := by
  simp only [Format.ident, magic, List.length_append, List.length_cons, List.length_nil]

theorem ofNumbers?_numbers (h : FileHeader) : FileHeader.ofNumbers? h.numbers = some h := rfl

/-- **A file header is read as it was written.** -/
theorem read?_fileHeader {data padding : Bytes} {f : Format} {h : FileHeader}
    (hdata : data.HasAt 0 (f.ident padding ++ h.bytes f)) (hpadding : padding.length = 9)
    (hfit : Fit f.word.fileHeaderWidths h.numbers) : FileHeader.read? data = some (f, h) := by
  obtain ⟨-, rest, hrest⟩ := Bytes.hasAt_iff_drop.1 hdata
  rw [List.drop_zero, List.append_assoc] at hrest
  have hident : (f.ident padding).length = identSize := by
    rw [length_ident, hpadding]
    rfl
  have hslice : data.slice? 0 identSize = some (f.ident padding) := hident ▸ hdata.left
  have hdrop : data.drop identSize = h.bytes f ++ rest := by
    rw [← hrest, List.drop_left' hident]
  have hnumbers : f.numbers f.word.fileHeaderWidths (h.bytes f ++ rest) = some h.numbers :=
    f.numbers_of_fit rest rfl hfit
  simp only [FileHeader.read?, hslice, hdrop, Option.bind_eq_bind, Option.bind_some,
    ofIdent?_ident, hnumbers, ofNumbers?_numbers, Option.pure_def]

/-! ### Section headers -/

@[simp] theorem length_sectionBytes (f : Format) (s : Section) :
    (s.bytes f).length = f.word.sectionSize := by
  rw [Section.bytes, Format.length_row]
  cases f.word <;> rfl

theorem read?_sectionBytes {f : Format} {s : Section} (rest : Bytes)
    (hfit : Fit f.word.sectionWidths s.numbers) :
    Section.read? f (s.bytes f ++ rest) = some s := by
  have hnumbers : f.numbers f.word.sectionWidths (s.bytes f ++ rest) = some s.numbers :=
    f.numbers_of_fit rest rfl hfit
  simp only [Section.read?, hnumbers, Option.bind_eq_bind, Option.bind_some]
  rfl

/-- **Section headers are read as they were written.** -/
theorem readTable?_bytes {f : Format} {ss : List Section}
    (hfit : ∀ s ∈ ss, Fit f.word.sectionWidths s.numbers) :
    Section.readTable? f ss.length (ss.flatMap (Section.bytes f)) = some ss := by
  induction ss with
  | nil => rfl
  | cons s ss ih =>
      have hfirst := read?_sectionBytes (ss.flatMap (Section.bytes f)) (hfit s List.mem_cons_self)
      have hrest := ih fun s' hs' => hfit s' (.tail _ hs')
      have hdrop : (s.bytes f ++ ss.flatMap (Section.bytes f)).drop f.word.sectionSize =
          ss.flatMap (Section.bytes f) := List.drop_left' (length_sectionBytes f s)
      simp only [List.length_cons, List.flatMap_cons, Section.readTable?, hfirst, hdrop, hrest,
        Option.bind_eq_bind, Option.bind_some, Option.pure_def]

theorem length_flatMap_bytes (f : Format) (ss : List Section) :
    (ss.flatMap (Section.bytes f)).length = ss.length * f.word.sectionSize := by
  induction ss with
  | nil => simp
  | cons s ss ih =>
      rw [List.flatMap_cons, List.length_append, length_sectionBytes, ih, List.length_cons,
        Nat.succ_mul, Nat.add_comm]

namespace Layout

variable {l : Layout} {f : Format} {parts : List Part} {data : Bytes}

/-! ### The tables of a laid out object -/

theorem length_entries (l : Layout) (parts : List Part) :
    (l.entries parts).length = parts.length := List.length_mapIdx

theorem sections_of_ne_zero (h : l.header.sectionTable ≠ 0) :
    l.sections parts = l.first :: l.entries parts := if_neg h

theorem getElem?_sections (h : l.header.sectionTable ≠ 0) {number : Nat} {p : Part}
    (hp : numbered? parts number = some p) :
    (l.sections parts)[number]? = some (l.entry number p) := by
  cases number with
  | zero => cases hp
  | succ number =>
      have hpart : parts[number]? = some p := hp
      rw [sections_of_ne_zero h, List.getElem?_cons_succ, entries, List.getElem?_mapIdx, hpart]
      rfl

/-- The sections are section 0 and those of the object. -/
theorem eq_of_getElem?_sections {number : Nat} {s : Section}
    (h : (l.sections parts)[number]? = some s) :
    s = l.first ∨ ∃ p, numbered? parts number = some p ∧ s = l.entry number p := by
  by_cases htable : l.header.sectionTable = 0
  · rw [sections, if_pos htable] at h
    cases h
  · rw [sections_of_ne_zero htable] at h
    cases number with
    | zero => exact .inl (Option.some.inj h).symm
    | succ number =>
        rw [List.getElem?_cons_succ, entries, List.getElem?_mapIdx, Option.map_eq_some_iff] at h
        obtain ⟨p, hp, rfl⟩ := h
        exact .inr ⟨p, hp, rfl⟩

theorem eq_of_mem_sections {s : Section} (h : s ∈ l.sections parts) :
    s = l.first ∨ ∃ number p, numbered? parts number = some p ∧ s = l.entry number p := by
  obtain ⟨number, hs⟩ := List.mem_iff_getElem?.1 h
  obtain rfl | ⟨p, hp, rfl⟩ := eq_of_getElem?_sections hs
  · exact .inl rfl
  · exact .inr ⟨number, p, hp, rfl⟩

theorem tail_sections (h : l.IsSound f parts) : (l.sections parts).tail = l.entries parts := by
  by_cases hnone : l.header.sectionTable = 0
  · rw [sections, if_pos hnone, h.noSections hnone]
    rfl
  · rw [sections_of_ne_zero hnone]
    rfl

/-- Where there are sections, there is a table of section headers. -/
theorem sectionTable_ne_zero (h : l.IsSound f parts) {number : Nat} {p : Part}
    (hp : numbered? parts number = some p) : l.header.sectionTable ≠ 0 := by
  intro hnone
  rw [h.noSections hnone] at hp
  obtain ⟨i, -, hi⟩ := numbered?_eq_some_iff.1 hp
  cases hi

/-- **The file header is read.** -/
theorem read?_header (h : l.IsSound f parts) (hheads : Holds (l.heads f parts) data) :
    FileHeader.read? data = some (f, l.header) := by
  refine read?_fileHeader (hheads _ List.mem_cons_self fun hnil => ?_) h.padding h.header_fits
  have hlength := congrArg List.length (List.append_eq_nil_iff.1 hnil).1
  rw [length_ident, h.padding] at hlength
  cases hlength

/-- The table of section headers is where the file header says. -/
theorem hasAt_table (htable : l.header.sectionTable ≠ 0) (hheads : Holds (l.heads f parts) data) :
    data.HasAt l.header.sectionTable ((l.sections parts).flatMap (Section.bytes f)) := by
  refine hheads _ (.tail _ List.mem_cons_self) fun hnil => ?_
  have hlength := congrArg List.length hnil
  rw [length_flatMap_bytes, sections_of_ne_zero htable, List.length_cons, Nat.succ_mul] at hlength
  have hpos : 0 < f.word.sectionSize := by cases f.word <;> decide
  simp only [List.length_nil] at hlength
  omega

/-- **Section header 0 is read.** -/
theorem overflow?_eq (h : l.IsSound f parts) (hheads : Holds (l.heads f parts) data)
    (htable : l.header.sectionTable ≠ 0) : l.header.overflow? f data = some l.first := by
  have hsections : l.sections parts = l.first :: l.entries parts := sections_of_ne_zero htable
  have hfirst : data.HasAt l.header.sectionTable (l.first.bytes f) := by
    have hall := hasAt_table htable hheads
    rw [hsections, List.flatMap_cons] at hall
    exact hall.left
  rw [Bytes.HasAt, length_sectionBytes] at hfirst
  have hread := read?_sectionBytes (s := l.first) []
    (h.sections_fit _ (by rw [hsections]; exact List.mem_cons_self))
  rw [List.append_nil] at hread
  rw [FileHeader.overflow?, if_neg (not_or.2 ⟨htable, not_not.2 h.entrySize⟩), hfirst,
    Option.bind_some, hread]

/-- There are no program headers to be read. -/
theorem hasProgramTable_eq (h : l.IsSound f parts) :
    l.header.hasProgramTable f data = true := by
  rw [FileHeader.hasProgramTable]
  rcases h.noPrograms with htable | hcount
  · rw [htable]
    rfl
  · rw [FileHeader.programCount?, hcount]
    simp

/-- **The number of sections is found**, in the file header or in section header 0. -/
theorem sectionCount?_eq (h : l.IsSound f parts) (hheads : Holds (l.heads f parts) data)
    (htable : l.header.sectionTable ≠ 0) :
    l.header.sectionCount? f data = some (parts.length + 1) := by
  rw [FileHeader.sectionCount?, if_neg htable]
  rcases h.count with hcount | ⟨hcount, hsize⟩
  · rw [if_neg (by omega), hcount]
  · rw [if_pos hcount, overflow?_eq h hheads htable, Option.map_some, hsize]

/-- **The section headers are read.** -/
theorem sections?_eq (h : l.IsSound f parts) (hheads : Holds (l.heads f parts) data) :
    l.header.sections? f data = some (l.sections parts) := by
  by_cases htable : l.header.sectionTable = 0
  · rw [FileHeader.sections?, FileHeader.sectionCount?, if_pos htable, sections, if_pos htable]
    rfl
  · have hlength : (l.sections parts).length = parts.length + 1 := by
      rw [sections_of_ne_zero htable, List.length_cons, length_entries]
    have hslice := hasAt_table htable hheads
    rw [Bytes.HasAt, length_flatMap_bytes, hlength] at hslice
    have hread := readTable?_bytes h.sections_fit
    rw [hlength] at hread
    simp only [FileHeader.sections?, sectionCount?_eq h hheads htable, Option.bind_eq_bind,
      Option.bind_some, if_neg (Nat.succ_ne_zero parts.length),
      if_neg (not_not.2 h.entrySize), hslice, hread]

/-- **The number of the section with the names is found**, in the file header or in section
header 0. -/
theorem nameTable?_eq (h : l.IsSound f parts) (hheads : Holds (l.heads f parts) data)
    (htable : l.header.sectionTable ≠ 0) :
    l.header.nameTable? f data = some l.nameTable := by
  rw [FileHeader.nameTable?]
  rcases h.nameTable with ⟨hindex, hne⟩ | ⟨hindex, hlink⟩
  · rw [if_neg (by rwa [hindex]), hindex]
  · rw [if_pos hindex, overflow?_eq h hheads htable, Option.map_some, hlink]

end Layout

end LtoBridge.Elf
