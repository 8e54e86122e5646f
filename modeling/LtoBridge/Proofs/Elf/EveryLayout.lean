/-
**The intermediate symbols are found wherever they are.**

What is found in the file of an object depends on the list of its sections only: neither on the
class and the byte order nor on where headers, names and contents are in the file.

Main results:

* `LtoBridge.Elf.symbol_table_is_found`.
-/

import LtoBridge.Proofs.Elf.Found
import LtoBridge.Proofs.Elf.Packed

set_option autoImplicit false

namespace LtoBridge.Elf

/-- **The intermediate symbol table is found in every laid out object.**

* Pieces that do not overlap, written into a file, make up the file of the object.
* From such a file, exactly the contents of the first section with intermediate symbols are read,
  and nothing if there is no such section.
* All files of the same sections give the same result.
* If the contents of that section are not within the file, the result is nothing, whatever other
  sections there are. -/
theorem symbol_table_is_found (parts : List Part) :
    (∀ (l : Layout) (f : Format) (background : Bytes), l.IsSound f parts →
      WellFormed f.word parts → (l.pieces f parts).Pairwise Apart →
      (∀ piece ∈ l.pieces f parts, piece.1 + piece.2.length ≤ background.length) →
      background.length < positionLimit → l.IsFile f parts (l.write f parts background)) ∧
    (∀ (l : Layout) (f : Format) (data : Bytes), l.IsFile f parts data →
      findSymbolTable? data = (symbolTablePart? parts).map Part.stored) ∧
    (∀ (l l' : Layout) (f f' : Format) (data data' : Bytes), l.IsFile f parts data →
      l'.IsFile f' parts data' → findSymbolTable? data = findSymbolTable? data') ∧
    ∀ (l : Layout) (f : Format) (data : Bytes) (i : Nat) (p : Part), l.IsSound f parts →
      parts.findIdx? Part.isSymbolTable = some i → parts[i]? = some p → p.stored ≠ [] →
      Holds (l.heads f parts ++ (l.contents parts).eraseIdx i) data →
      data.length < l.position (i + 1) + p.stored.length → findSymbolTable? data = none := by
  refine ⟨?_, ?_, ?_, ?_⟩
  · intro l f background hsound hformed hapart hwithin hlimit
    exact Layout.isFile_write hsound hformed hapart hwithin hlimit
  · intro l f data h
    exact Layout.findSymbolTable?_eq h
  · intro l l' f f' data data' h h'
    rw [Layout.findSymbolTable?_eq h, Layout.findSymbolTable?_eq h']
  · intro l f data i p hsound hindex hp hstored hpieces houtside
    exact Layout.findSymbolTable?_of_outside hsound hindex hp hstored hpieces houtside

/-! ### A small object -/

/-- Two sections with intermediate symbols after another one. -/
def sampleParts : List Part :=
  [{ name := ⟨Bytes.ofString ".text", by decide⟩, type := 1, contents := [144] },
    { name := ⟨Bytes.ofString ".gnu.lto_.symtab.1f", by decide⟩, type := 1,
      contents := [109, 0, 0] },
    { name := ⟨Bytes.ofString ".gnu.lto_.symtab", by decide⟩, type := 1, contents := [110] }]

/-- The same with their names. -/
def namedSample : List Part := withNames sampleParts ⟨Bytes.ofString ".shstrtab", by decide⟩

/-- The pieces of a layout of the sections, one after the other. -/
def sampleFile (l : Layout) (f : Format) : Bytes :=
  ((l.pieces f namedSample).map Prod.snd).flatten

/-- A layout in which the second section is beyond the end of the file. -/
def cutSample (f : Format) : Layout :=
  { Layout.packed f namedSample with
    position := fun number =>
      if number = 2 then 0x1000 else (Layout.packed f namedSample).position number }

theorem wellFormed_sample (w : WordSize) : WellFormed w namedSample := by
  have hnative : ∀ p ∈ namedSample, ¬(p.type = Section.symbolsType ∨
      p.type = Section.dynamicSymbolsType) ∧ p.type ≠ Section.symbolIndexesType ∧
      p.isRelocation ≠ true := by decide
  exact ⟨fun p hp htype => absurd htype (hnative p hp).1,
    fun p hp htype => absurd htype (hnative p hp).2.1,
    fun p hp htype => absurd htype (hnative p hp).2.2⟩

theorem fits_sample (w : WordSize) : ∀ p ∈ sampleParts, p.Fits w := by
  cases w <;> decide

theorem size_sample (w : WordSize) :
    Layout.packedSize w namedSample < Bytes.capacity w.bytes := by
  cases w <;> decide

theorem isFile_sample (f : Format) : (Layout.packed f namedSample).IsFile f namedSample
    (sampleFile (Layout.packed f namedSample) f) :=
  Layout.isFile_packed (wellFormed_sample f.word) (fits_sample f.word) (by decide)
    (size_sample f.word)

theorem isSound_cutSample : (cutSample ⟨.bits64, .big⟩).IsSound ⟨.bits64, .big⟩ namedSample := by
  have h := (isFile_sample ⟨.bits64, .big⟩).sound
  exact ⟨h.padding, h.header_fits, by decide, h.noPrograms, h.noSections, h.entrySize, h.count,
    h.first_type, h.nameTable, h.names⟩

/-- The result for two files of the same sections, and for one that is cut off. -/
theorem symbol_table_is_found_sample :
    findSymbolTable? (sampleFile (.packed ⟨.bits64, .little⟩ namedSample) ⟨.bits64, .little⟩) =
      some [109, 0, 0] ∧
    findSymbolTable? (sampleFile (.packed ⟨.bits32, .big⟩ namedSample) ⟨.bits32, .big⟩) =
      findSymbolTable? (sampleFile (.packed ⟨.bits64, .little⟩ namedSample) ⟨.bits64, .little⟩) ∧
    findSymbolTable? (sampleFile (cutSample ⟨.bits64, .big⟩) ⟨.bits64, .big⟩) = none := by
  obtain ⟨-, hfound, hsame, hcut⟩ := symbol_table_is_found namedSample
  refine ⟨(hfound _ _ _ (isFile_sample _)).trans (by rfl),
    hsame _ _ _ _ _ _ (isFile_sample _) (isFile_sample _), ?_⟩
  refine hcut (cutSample ⟨.bits64, .big⟩) ⟨.bits64, .big⟩ _ 1 _ isSound_cutSample (by decide) rfl
    (by decide) (by decide +kernel) (by decide +kernel)

end LtoBridge.Elf
