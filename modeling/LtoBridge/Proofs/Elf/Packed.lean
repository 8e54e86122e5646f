/-
**Packed files.**

Whatever the sections of an object are, it can be laid out in every class and byte order whose
fields can hold its numbers: the file header, the section headers and the contents of the sections
one after the other, with a section of names as the last one.

Main definitions:

* `LtoBridge.Elf.withNames`: the sections with one more for the names;
* `LtoBridge.Elf.Layout.packed`: all pieces one after the other.

Main results:

* `LtoBridge.Elf.Layout.isFile_packed`: **the pieces of a packed layout make up a file**.
-/

import LtoBridge.Proofs.Elf.Reading

set_option autoImplicit false

namespace LtoBridge

/-- A piece is where the pieces before it end. -/
theorem Bytes.hasAt_flatten {pieces : List Bytes} {i : Nat} {piece : Bytes}
    (h : pieces[i]? = some piece) :
    HasAt pieces.flatten (pieces.take i).flatten.length piece := by
  obtain ⟨hi, rfl⟩ := List.getElem?_eq_some_iff.1 h
  have hsplit : pieces.flatten = (pieces.take i).flatten ++
      (pieces[i] ++ (pieces.drop (i + 1)).flatten) := by
    rw [← List.flatten_cons, ← List.drop_eq_getElem_cons hi, ← List.flatten_append,
      List.take_append_drop]
  rw [hasAt_iff_drop, hsplit, List.drop_left]
  simp only [List.length_append]
  exact ⟨by omega, List.prefix_append _ _⟩

namespace Elf

/-! ### The section with the names -/

/-- A section with the names of the others and its own. -/
def namesPart (parts : List Part) (name : NulFree) : Part where
  name
  type := Section.stringsType
  contents := ((parts.map Part.name ++ [name]).map NulFree.terminated).flatten

/-- **The sections with one more for the names.** -/
def withNames (parts : List Part) (name : NulFree) : List Part :=
  parts ++ [namesPart parts name]

/-- The numbers of a section fit a class, apart from where the section and its name are. -/
def Part.Fits (w : WordSize) (p : Part) : Prop :=
  Fit [4, w.bytes, w.bytes, w.bytes, 4, 4, w.bytes, w.bytes]
    [p.type, p.flags, p.address, p.contents.length, p.link, p.info, p.alignment, p.entrySize]

instance (w : WordSize) (p : Part) : Decidable (p.Fits w) :=
  inferInstanceAs (Decidable (Fit _ _))

/-- The number of bytes of a file header. -/
def WordSize.fileHeaderSize (w : WordSize) : Nat := identSize + w.fileHeaderWidths.sum

/-! ### The layout -/

namespace Layout

/-- The number of bytes before the contents of the sections. -/
def headsSize (w : WordSize) (count : Nat) : Nat := w.fileHeaderSize + (count + 1) * w.sectionSize

/-- **All pieces one after the other**, where the last of the sections is the one with the names.
Numbers that a file header cannot hold stand in section header 0. -/
def packed (f : Format) (parts : List Part) : Layout where
  padding := List.replicate 9 0
  header :=
    { type := 1, machine := 0, version := 1, entry := 0, programTable := 0,
      sectionTable := f.word.fileHeaderSize, flags := 0, size := f.word.fileHeaderSize,
      programEntrySize := 0, programCount := 0, sectionEntrySize := f.word.sectionSize,
      sectionCount := if parts.length < 0xFF00 then parts.length + 1 else 0,
      nameTable := if parts.length < 0xFF00 then parts.length else 0xFFFF }
  first :=
    { name := 0, type := 0, flags := 0, address := 0, offset := 0, size := parts.length + 1,
      link := parts.length, info := 0, alignment := 0, entrySize := 0 }
  nameTable := parts.length
  position number :=
    headsSize f.word parts.length + ((parts.map Part.stored).take (number - 1)).flatten.length
  nameAt number :=
    ((parts.map (·.name.terminated)).take (number - 1)).flatten.length

variable {f : Format} {parts : List Part} {name : NulFree}

theorem names_withNames : (withNames parts name).map (·.name.terminated) =
    (parts.map Part.name ++ [name]).map NulFree.terminated := by
  simp [withNames, namesPart]

theorem numbered?_withNames : numbered? (withNames parts name) (withNames parts name).length =
    some (namesPart parts name) := by
  simp [withNames, numbered?]

/-- The bytes of a file are the pieces of its layout. -/
theorem holds_packed {pieces : List (Nat × Bytes)}
    (hpositions : ∀ i piece, pieces[i]? = some piece →
      piece.1 = ((pieces.map Prod.snd).take i).flatten.length) :
    Holds pieces (pieces.map Prod.snd).flatten := by
  intro piece hmem _
  obtain ⟨i, hi⟩ := List.mem_iff_getElem?.1 hmem
  rw [hpositions i piece hi]
  refine Bytes.hasAt_flatten ?_
  rw [List.getElem?_map, hi]
  rfl

theorem length_fileHeader (f : Format) (h : FileHeader) {padding : Bytes}
    (hpadding : padding.length = 9) :
    (f.ident padding ++ h.bytes f).length = f.word.fileHeaderSize := by
  rw [List.length_append, length_ident, hpadding, FileHeader.bytes, Format.length_row,
    List.map_fst_zip (Nat.le_of_eq (by rfl)), WordSize.fileHeaderSize]
  rfl

theorem headsSize_eq : (((packed f parts).heads f parts).map Prod.snd).flatten.length =
    headsSize f.word parts.length := by
  have htable : (packed f parts).header.sectionTable ≠ 0 := by
    change f.word.fileHeaderSize ≠ 0
    cases f.word <;> decide
  simp only [heads, List.map_cons, List.map_nil, List.flatten_cons, List.flatten_nil,
    List.append_nil]
  rw [List.length_append, length_fileHeader f _ rfl, length_flatMap_bytes,
    sections_of_ne_zero htable, List.length_cons, length_entries, headsSize]

theorem contents_map_snd (l : Layout) (parts : List Part) :
    (l.contents parts).map Prod.snd = parts.map Part.stored := by
  refine List.ext_getElem? fun i => ?_
  rw [List.getElem?_map, List.getElem?_map, contents, List.getElem?_mapIdx, Option.map_map]
  rfl

/-- Every piece begins where the pieces before it end. -/
theorem position_packed {i : Nat} {piece : Nat × Bytes}
    (h : ((packed f parts).pieces f parts)[i]? = some piece) :
    piece.1 = ((((packed f parts).pieces f parts).map Prod.snd).take i).flatten.length := by
  match i with
  | 0 =>
      obtain rfl := Option.some.inj h
      rfl
  | 1 =>
      obtain rfl := Option.some.inj h
      simp only [pieces, heads, List.map_append, List.map_cons, List.cons_append,
        List.take_succ_cons, List.take_zero, List.flatten_cons, List.flatten_nil, List.append_nil]
      exact (length_fileHeader f _ rfl).symm
  | i + 2 =>
      have hcontents : ((packed f parts).contents parts)[i]? = some piece := h
      rw [contents, List.getElem?_mapIdx, Option.map_eq_some_iff] at hcontents
      obtain ⟨p, -, rfl⟩ := hcontents
      have hindex : i + 2 = (((packed f parts).heads f parts).map Prod.snd).length + i :=
        Nat.add_comm i 2
      rw [pieces, List.map_append, hindex, List.take_length_add_append, List.flatten_append,
        List.length_append, headsSize_eq, contents_map_snd]
      rfl

theorem fit_cons {width number : Nat} {widths numbers : List Nat} :
    Fit (width :: widths) (number :: numbers) ↔
      number < Bytes.capacity width ∧ Fit widths numbers := by
  simp [Fit]

/-- The number of bytes of a packed file. -/
def packedSize (w : WordSize) (parts : List Part) : Nat :=
  headsSize w parts.length + (parts.map Part.stored).flatten.length

theorem length_packed : (((packed f parts).pieces f parts).map Prod.snd).flatten.length =
    packedSize f.word parts := by
  rw [pieces, List.map_append, List.flatten_append, List.length_append, headsSize_eq,
    contents_map_snd, packedSize]

theorem length_take_flatten_le (pieces : List Bytes) (i : Nat) :
    (pieces.take i).flatten.length ≤ pieces.flatten.length := by
  have hsplit := congrArg (List.length ∘ List.flatten) (List.take_append_drop i pieces)
  simp only [Function.comp_apply, List.flatten_append, List.length_append] at hsplit
  omega

/-- There are no more sections than there are bytes of names. -/
theorem length_le_names (parts : List Part) (name : NulFree) :
    (withNames parts name).length ≤ (namesPart parts name).contents.length := by
  have hcount : ∀ names : List NulFree,
      names.length ≤ ((names.map NulFree.terminated).flatten).length := by
    intro names
    induction names with
    | nil => exact Nat.le_refl 0
    | cons s names ih =>
        rw [List.map_cons, List.flatten_cons, List.length_append, List.length_cons,
          NulFree.terminated, List.length_append, List.length_singleton]
        omega
  have hnames := hcount (parts.map Part.name ++ [name])
  simpa [withNames, namesPart] using hnames

/-- The numbers of a packed file header fit. -/
theorem header_fits (f : Format) (parts : List Part) :
    Fit f.word.fileHeaderWidths (packed f parts).header.numbers := by
  have hcount : (packed f parts).header.sectionCount < Bytes.capacity 2 := by
    change (if parts.length < 0xFF00 then parts.length + 1 else 0) < 0x10000
    split <;> omega
  have hnames : (packed f parts).header.nameTable < Bytes.capacity 2 := by
    change (if parts.length < 0xFF00 then parts.length else 0xFFFF) < 0x10000
    split <;> omega
  simp only [WordSize.fileHeaderWidths, FileHeader.numbers, fit_cons, hcount, hnames, true_and]
  simp only [packed]
  cases f.word <;> decide

/-- The numbers of the section headers fit if those of the sections do and the file is not too
large. -/
theorem sections_fit (hfits : ∀ p ∈ parts, p.Fits f.word)
    (hnames : (namesPart parts name).contents.length < Bytes.capacity 4)
    (hsize : packedSize f.word (withNames parts name) < Bytes.capacity f.word.bytes) :
    ∀ s ∈ (packed f (withNames parts name)).sections (withNames parts name),
      Fit f.word.sectionWidths s.numbers := by
  intro s hs
  have hword : Bytes.capacity 4 ≤ Bytes.capacity f.word.bytes := by
    cases f.word <;> decide
  have hcount := length_le_names parts name
  obtain rfl | ⟨number, p, hp, rfl⟩ := eq_of_mem_sections hs
  · have hlink : (packed f (withNames parts name)).first.link < Bytes.capacity 4 :=
      Nat.lt_of_le_of_lt hcount hnames
    have hfirst : (packed f (withNames parts name)).first.size < Bytes.capacity f.word.bytes := by
      refine Nat.lt_of_le_of_lt ?_ hsize
      change (withNames parts name).length + 1 ≤ _
      have hrow : 0 < f.word.sectionSize := by cases f.word <;> decide
      have hle : (withNames parts name).length + 1 ≤
          ((withNames parts name).length + 1) * f.word.sectionSize :=
        Nat.le_mul_of_pos_right _ hrow
      rw [packedSize, headsSize]
      omega
    simp only [WordSize.sectionWidths, Section.numbers, fit_cons, hlink, hfirst, true_and]
    simp only [packed]
    cases f.word <;> decide
  · have hname : (packed f (withNames parts name)).nameAt number < Bytes.capacity 4 := by
      refine Nat.lt_of_le_of_lt (length_take_flatten_le _ _) ?_
      rwa [names_withNames]
    have hposition : (packed f (withNames parts name)).position number <
        Bytes.capacity f.word.bytes := by
      refine Nat.lt_of_le_of_lt (Nat.add_le_add_left (length_take_flatten_le _ _) _) hsize
    have hpfits : p.Fits f.word := by
      rcases List.mem_append.1 (mem_of_numbered? hp) with hmem | hmem
      · exact hfits p hmem
      · obtain rfl := List.mem_singleton.1 hmem
        have hlength := Nat.lt_of_lt_of_le hnames hword
        simp only [Part.Fits, fit_cons, hlength, true_and]
        simp only [namesPart]
        cases f.word <;> decide
    simp only [Part.Fits, fit_cons] at hpfits
    simp only [WordSize.sectionWidths, Section.numbers, fit_cons, entry]
    obtain ⟨htype, hflags, haddress, hlength, hlink, hinfo, halignment, hentry, hnil⟩ := hpfits
    exact ⟨hname, htype, hflags, haddress, hposition, hlength, hlink, hinfo, halignment, hentry,
      hnil⟩

/-- A packed layout describes the sections. -/
theorem isSound_packed (hfits : ∀ p ∈ parts, p.Fits f.word)
    (hnames : (namesPart parts name).contents.length < Bytes.capacity 4)
    (hsize : packedSize f.word (withNames parts name) < Bytes.capacity f.word.bytes) :
    (packed f (withNames parts name)).IsSound f (withNames parts name) where
  padding := rfl
  header_fits := header_fits f _
  sections_fit := sections_fit hfits hnames hsize
  noPrograms := .inl rfl
  noSections hnone := by
    change f.word.fileHeaderSize = 0 at hnone
    cases hword : f.word <;> rw [hword] at hnone <;> cases hnone
  entrySize := rfl
  count := by
    by_cases hsmall : (withNames parts name).length < 0xFF00
    · exact .inl (if_pos hsmall)
    · exact .inr ⟨if_neg hsmall, rfl⟩
  first_type := rfl
  nameTable := by
    by_cases hsmall : (withNames parts name).length < 0xFF00
    · refine .inl ⟨if_pos hsmall, fun heq => ?_⟩
      change (withNames parts name).length = 0xFFFF at heq
      omega
    · exact .inr ⟨if_neg hsmall, rfl⟩
  names number p hp := by
    have hstrings : Section.stringsType ≠ Section.noBitsType := by decide
    refine ⟨namesPart parts name, numbered?_withNames, hstrings, ?_⟩
    obtain ⟨i, rfl, hi⟩ := numbered?_eq_some_iff.1 hp
    have hcontents : (namesPart parts name).contents =
        ((withNames parts name).map (·.name.terminated)).flatten :=
      congrArg List.flatten names_withNames.symm
    rw [hcontents]
    refine Bytes.hasAt_flatten ?_
    rw [List.getElem?_map, Nat.add_sub_cancel, hi]
    rfl

/-- **The pieces of a packed layout make up a file**, in every class and byte order. -/
theorem isFile_packed (hformed : WellFormed f.word (withNames parts name))
    (hfits : ∀ p ∈ parts, p.Fits f.word)
    (hnames : (namesPart parts name).contents.length < Bytes.capacity 4)
    (hsize : packedSize f.word (withNames parts name) < Bytes.capacity f.word.bytes) :
    (packed f (withNames parts name)).IsFile f (withNames parts name)
      (((packed f (withNames parts name)).pieces f (withNames parts name)).map
        Prod.snd).flatten where
  sound := isSound_packed hfits hnames hsize
  formed := hformed
  holds := holds_packed fun _ _ => position_packed
  limit := by
    rw [length_packed]
    refine Nat.lt_of_lt_of_le hsize ?_
    cases f.word <;> decide

end Layout

end Elf

end LtoBridge
