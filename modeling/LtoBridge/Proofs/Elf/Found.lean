/-
**Finding the intermediate symbol table of a laid out object.**

The section with the intermediate symbols is found by its name.  Which section that is, and what it
holds, does not depend on the class of the object, on its byte order or on where anything is in the
file.

Main definitions:

* `LtoBridge.Elf.symbolTablePart?`: the section with the intermediate symbols.

Main results:

* `LtoBridge.Elf.Layout.exists_read?`: a laid out object is an object;
* `LtoBridge.Elf.Layout.isSymbolTable_entry`: sections are recognised by their names;
* `LtoBridge.Elf.Layout.findSymbolTable?_eq`: **what is found in a laid out object**.
-/

import LtoBridge.Proofs.Elf.Reading
import Mathlib.Data.Option.Basic

set_option autoImplicit false

namespace LtoBridge.Elf

/-! ### Names -/

/-- What is terminated once is terminated with anything before it. -/
theorem terminated_append (front rest : Bytes) :
    terminated (front ++ 0 :: rest) = front ++ 0 :: terminated rest := by
  have hreverse : (front ++ 0 :: rest).reverse = rest.reverse ++ 0 :: front.reverse := by simp
  rw [terminated, hreverse, List.dropWhile_append, terminated]
  split
  · rename_i hempty
    rw [List.isEmpty_iff] at hempty
    simp [hempty]
  · simp

/-- A name that has its end within some bytes can be read there. -/
theorem prefix_drop_terminated {bs : Bytes} {position : Nat} {s : NulFree}
    (h : bs.HasAt position s.terminated) :
    s.terminated <+: (terminated bs).drop position := by
  obtain ⟨hle, rest, hrest⟩ := Bytes.hasAt_iff_drop.1 h
  have hbs : bs = (bs.take position ++ s.bytes) ++ 0 :: rest := by
    have hsplit := List.take_append_drop position bs
    rw [← hrest] at hsplit
    simpa [NulFree.terminated] using hsplit.symm
  have hlength : (bs.take position).length = position := by
    rw [List.length_take]
    omega
  rw [hbs, terminated_append, List.append_assoc, List.drop_left' hlength]
  exact ⟨terminated rest, by simp [NulFree.terminated]⟩

/-- The names of a string that is read up to its end. -/
theorem terminated_prefix_iff {s : NulFree} {data t : Bytes} (h : s.terminated <+: data)
    (ht : 0 ∉ t) : t ++ [0] <+: data ↔ s.bytes = t := by
  obtain ⟨rest, rfl⟩ := h
  constructor
  · rintro ⟨rest', hrest'⟩
    have hsplit := NulFree.split?_terminated_append ⟨t, ht⟩ rest'
    have hsame : NulFree.terminated ⟨t, ht⟩ ++ rest' = s.terminated ++ rest := hrest'
    rw [hsame, NulFree.split?_terminated_append] at hsplit
    exact congrArg (fun found => found.1.bytes) (Option.some.inj hsplit)
  · rintro rfl
    exact ⟨rest, rfl⟩

/-- The same for the beginning of a string. -/
theorem prefix_iff {s : NulFree} {data t : Bytes} (h : s.terminated <+: data) (ht : 0 ∉ t) :
    t <+: data ↔ t <+: s.bytes := by
  constructor
  · intro htdata
    obtain hle | hlt := Nat.lt_or_ge s.bytes.length t.length
    · -- the end of the string would be part of `t`
      have hsub : s.terminated <+: t := by
        refine List.prefix_of_prefix_length_le h htdata ?_
        simp only [NulFree.terminated, List.length_append, List.length_cons, List.length_nil]
        omega
      exact absurd (hsub.subset (by simp [NulFree.terminated])) ht
    · have hs : s.bytes <+: data := (List.prefix_append s.bytes [0]).trans h
      exact List.prefix_of_prefix_length_le htdata hs hlt
  · intro hts
    exact hts.trans ((List.prefix_append s.bytes [0]).trans h)

/-- **The section with the intermediate symbols.** -/
def symbolTablePart? (parts : List Part) : Option Part := parts.find? Part.isSymbolTable

theorem zero_not_mem_symbolTableName : (0 : UInt8) ∉ symbolTableName := by decide

/-- **A section is recognised by its name.** -/
theorem isSymbolTable_of_name {o : Object} {s : Section} {p : Part} {table : Bytes}
    (hnames : o.names = (terminated table).toArray)
    (hname : table.HasAt s.name p.name.terminated) : o.isSymbolTable s = p.isSymbolTable := by
  have hprefix := prefix_drop_terminated hname
  have hlength : symbolTableName.length = 16 := by rfl
  have hread : (o.names.extract s.name (s.name + symbolTableName.length + 1)).toList =
      ((terminated table).drop s.name).take 17 := by
    have hcount : s.name + symbolTableName.length + 1 - s.name = 17 := by omega
    rw [hnames, Array.toList_extract, List.extract_eq_take_drop, hcount]
  -- seventeen bytes are compared, which are the beginning of what follows
  have hcompare : ∀ t : Bytes, t.length = 17 →
      (((terminated table).drop s.name).take 17 == t) =
        decide (t <+: (terminated table).drop s.name) := by
    intro t ht
    rw [Bool.eq_iff_iff, beq_iff_eq, decide_eq_true_iff, List.prefix_iff_eq_take, ht, eq_comm]
  have hdot : (0 : UInt8) ∉ symbolTableName ++ [46] := by decide
  simp only [Object.isSymbolTable, hread, Part.isSymbolTable]
  rw [hcompare _ (by rw [List.length_append, hlength]; rfl),
    hcompare _ (by rw [List.length_append, hlength]; rfl)]
  simp only [terminated_prefix_iff hprefix zero_not_mem_symbolTableName, prefix_iff hprefix hdot]
  rw [Bool.eq_iff_iff]
  simp [ List.isPrefixOf_iff_prefix]

/-- Without names, no section is recognised. -/
theorem isSymbolTable_of_no_names {o : Object} (hnames : o.names = #[]) (s : Section) :
    o.isSymbolTable s = false := by
  have hread : (o.names.extract s.name (s.name + symbolTableName.length + 1)).toList = [] := by
    rw [hnames]
    simp
  simp only [Object.isSymbolTable, hread]
  decide

namespace Layout

variable {l : Layout} {f : Format} {parts : List Part} {data : Bytes}

/-! ### Native symbols and relocations -/

theorem mem_contents {number : Nat} {p : Part} (h : numbered? parts number = some p) :
    (l.position number, p.stored) ∈ l.contents parts := by
  obtain ⟨i, rfl, hp⟩ := numbered?_eq_some_iff.1 h
  refine List.mem_iff_getElem?.2 ⟨i, ?_⟩
  rw [contents, List.getElem?_mapIdx, hp]
  rfl

/-- The contents of a section are where the layout says. -/
theorem hasAt_contents (hcontents : Holds (l.contents parts) data) {number : Nat} {p : Part}
    (h : numbered? parts number = some p) (htype : p.type ≠ Section.noBitsType)
    (hne : p.contents ≠ []) : data.HasAt (l.position number) p.contents := by
  have hstored : p.stored = p.contents := if_neg htype
  rw [← hstored] at hne ⊢
  exact hcontents _ (mem_contents h) hne

/-- No section begins beyond all positions. -/
theorem offset_lt {w : WordSize} {s : Section} (h : Fit w.sectionWidths s.numbers) :
    s.offset < positionLimit := by
  have hcell : (w.bytes, s.offset) ∈ w.sectionWidths.zip s.numbers :=
    List.mem_iff_getElem?.2 ⟨4, rfl⟩
  refine Nat.lt_of_lt_of_le (h _ hcell) ?_
  change Bytes.capacity w.bytes ≤ positionLimit
  cases w <;> decide

/-- A table of whole entries can be read. -/
theorem isTable_entry (hcontents : Holds (l.contents parts) data) {number size : Nat} {p : Part}
    (h : numbered? parts number = some p) (hsize : p.contents.length % size = 0) :
    (l.entry number p).isTable size data.length = true := by
  rw [Section.isTable, Bool.or_eq_true, Bool.or_eq_true, Bool.and_eq_true, decide_eq_true_iff]
  by_cases htype : p.type = Section.noBitsType
  · exact .inl (.inl (beq_iff_eq.2 htype))
  · by_cases hne : p.contents = []
    · exact .inl (.inr (beq_iff_eq.2 (by rw [entry, hne]; rfl)))
    · have hat := hasAt_contents hcontents h htype hne
      exact .inr ⟨(Bytes.hasAt_iff_drop.1 hat).1, beq_iff_eq.2 hsize⟩

/-- A section within a file has its end within all positions. -/
theorem range?_entry (h : l.IsSound f parts) (htable : l.header.sectionTable ≠ 0)
    (hcontents : Holds (l.contents parts) data) (hlimit : data.length < positionLimit)
    {number : Nat} {p : Part} (hp : numbered? parts number = some p)
    (htype : p.type ≠ Section.noBitsType) : (l.entry number p).range? =
      some (l.position number, l.position number + p.contents.length) := by
  have hlt : l.position number + p.contents.length < positionLimit := by
    by_cases hne : p.contents = []
    · rw [hne, List.length_nil, Nat.add_zero]
      exact offset_lt (h.sections_fit (l.entry number p)
        (List.mem_of_getElem? (getElem?_sections htable hp)))
    · have hat := hasAt_contents hcontents hp htype hne
      exact Nat.lt_of_le_of_lt (Bytes.hasAt_iff_drop.1 hat).1 hlimit
  exact if_pos hlt

/-- What a native symbol table is linked to can be read. -/
theorem isStringTable_link (h : l.IsSound f parts) (hcontents : Holds (l.contents parts) data)
    (hlimit : data.length < positionLimit) {link : Nat} (hlink : link ≠ 0 →
      ∃ q, numbered? parts link = some q ∧ q.type = Section.stringsType) :
    isStringTable (l.sections parts) link = true := by
  rw [isStringTable, Bool.or_eq_true]
  by_cases hzero : link = 0
  · exact .inl (beq_iff_eq.2 hzero)
  · obtain ⟨q, hq, hqtype⟩ := hlink hzero
    have htable := sectionTable_ne_zero h hq
    have hstored : q.type ≠ Section.noBitsType := by
      rw [hqtype]
      decide
    rw [getElem?_sections htable hq]
    refine .inr ?_
    rw [Bool.and_eq_true, range?_entry h htable hcontents hlimit hq hstored]
    exact ⟨beq_iff_eq.2 hqtype, rfl⟩

/-- **The native symbol tables can be read.** -/
theorem hasSymbols_eq (h : l.IsSound f parts) (hformed : WellFormed f.word parts)
    (hcontents : Holds (l.contents parts) data) (hlimit : data.length < positionLimit)
    {type : Nat} (htype : type = Section.symbolsType ∨ type = Section.dynamicSymbolsType) :
    hasSymbols f (l.sections parts) data.length type = true := by
  rw [hasSymbols]
  split
  · rfl
  · rename_i index hindex
    split
    · rfl
    · rename_i s hs
      obtain ⟨hlt, hfound, -⟩ := List.findIdx?_eq_some_iff_getElem.1 hindex
      have hstype : s.type = type := by
        rw [List.getElem?_eq_getElem hlt] at hs
        exact Option.some.inj hs ▸ beq_iff_eq.1 hfound
      obtain rfl | ⟨p, hp, rfl⟩ := eq_of_getElem?_sections hs
      · -- section 0 is no symbol table
        rw [h.first_type] at hstype
        rcases htype with rfl | rfl <;> cases hstype
      · have hptype : p.type = type := hstype
        obtain ⟨hwhole, hlink⟩ := hformed.symbols p (mem_of_numbered? hp) (hptype ▸ htype)
        rw [Bool.and_eq_true, Bool.and_eq_true, List.all_eq_true]
        refine ⟨⟨isTable_entry hcontents hp hwhole,
          isStringTable_link h hcontents hlimit hlink⟩, fun x hx => ?_⟩
        rw [Bool.or_eq_true, Bool.not_eq_true', Bool.and_eq_false_iff]
        obtain rfl | ⟨number, q, hq, rfl⟩ := eq_of_mem_sections hx
        · exact .inl (.inl (by rw [h.first_type]; rfl))
        · by_cases hqtype : q.type = Section.symbolIndexesType
          · exact .inr (isTable_entry hcontents hq
              (hformed.symbolIndexes q (mem_of_numbered? hq) hqtype))
          · exact .inl (.inl (beq_eq_false_iff_ne.2 hqtype))

/-- **The relocations apply to sections that have them.** -/
theorem hasRelocations_eq (h : l.IsSound f parts) (hformed : WellFormed f.word parts) :
    hasRelocations (l.sections parts) = true := by
  rw [hasRelocations, List.all_eq_true]
  intro s hs
  rw [Bool.or_eq_true, Bool.not_eq_true', Bool.and_eq_false_iff, Bool.and_eq_false_iff]
  obtain rfl | ⟨number, p, hp, rfl⟩ := eq_of_mem_sections hs
  · exact .inl (.inl (.inl (by rw [Section.isRelocation, h.first_type]; rfl)))
  · by_cases hrelocation : p.isRelocation = true
    · by_cases hinfo : p.info = 0
      · exact .inl (.inr (by rw [entry, hinfo]; rfl))
      · obtain ⟨q, hq, hqtype⟩ := hformed.relocations p (mem_of_numbered? hp) hrelocation hinfo
        have htarget : (l.sections parts).toArray[(l.entry number p).info]? =
            some (l.entry p.info q) := by
          rw [List.getElem?_toArray]
          exact getElem?_sections (sectionTable_ne_zero h hp) hq
        refine .inr ?_
        rw [htarget]
        have hnot : (l.entry p.info q).isRelocation = false := hqtype
        simp only [hnot, Bool.not_false]
    · exact .inl (.inl (.inl (Bool.eq_false_iff.2 hrelocation)))

/-! ### The object -/

/-- Where the names are that are read from a file. -/
theorem namesRange?_eq (h : l.IsSound f parts) (hheads : Holds (l.heads f parts) data)
    {table : Part} (htable : numbered? parts l.nameTable = some table)
    (htype : table.type ≠ Section.noBitsType) :
    l.header.namesRange? f data (l.sections parts) =
      (l.entry l.nameTable table).range?.map some := by
  have hsome := sectionTable_ne_zero h htable
  have hne : l.sections parts ≠ [] := by
    rw [sections_of_ne_zero hsome]
    exact List.cons_ne_nil _ _
  have hindex : l.nameTable ≠ 0 := by
    obtain ⟨i, hi, -⟩ := numbered?_eq_some_iff.1 htable
    omega
  have hentry : (l.entry l.nameTable table).type ≠ Section.noBitsType := htype
  simp only [FileHeader.namesRange?, if_neg hne, nameTable?_eq h hheads hsome,
    Option.bind_eq_bind, Option.bind_some, if_neg hindex, getElem?_sections hsome htable,
    if_neg hentry]

/-- **What is read from a file as an object** are the sections that were laid out in it. -/
theorem of_read? (h : l.IsSound f parts) (hheads : Holds (l.heads f parts) data) {o : Object}
    (hread : Object.read? data = some o) : o.sections = l.sections parts ∧
      ∃ range, l.header.namesRange? f data (l.sections parts) = some range ∧
        o.names = (namesIn range data).toArray := by
  simp only [Object.read?, read?_header h hheads, sections?_eq h hheads, Option.bind_eq_bind,
    Option.bind_some, Option.bind_eq_some_iff] at hread
  -- what else is checked of an object does not matter here
  obtain ⟨-, -, range, hrange, -, -, -, -, -, -, ho⟩ := hread
  obtain rfl := Option.some.inj ho
  exact ⟨rfl, range, hrange, rfl⟩

/-- **A laid out object is an object.** -/
theorem exists_read? (h : l.IsSound f parts) (hformed : WellFormed f.word parts)
    (hheads : Holds (l.heads f parts) data) (hcontents : Holds (l.contents parts) data)
    (hlimit : data.length < positionLimit) {table : Part}
    (htable : numbered? parts l.nameTable = some table)
    (htype : table.type ≠ Section.noBitsType) :
    ∃ o, Object.read? data = some o := by
  have hsome := sectionTable_ne_zero h htable
  have hsymbols := hasSymbols_eq h hformed hcontents hlimit (.inl rfl)
  have hdynamic := hasSymbols_eq h hformed hcontents hlimit (.inr rfl)
  refine ⟨⟨f, l.sections parts, (namesIn (some (l.position l.nameTable,
    l.position l.nameTable + table.contents.length)) data).toArray⟩, ?_⟩
  simp only [Object.read?, read?_header h hheads, sections?_eq h hheads, hasProgramTable_eq h,
    namesRange?_eq h hheads htable htype, range?_entry h hsome hcontents hlimit htable htype,
    hsymbols, hdynamic, hasRelocations_eq h hformed, Option.bind_eq_bind, Option.bind_some,
    Option.map_some, guard_true]
  rfl

/-! ### The section -/

/-- The contents of a section are read from where the layout says. -/
theorem contents?_entry (hcontents : Holds (l.contents parts) data) {number : Nat} {p : Part}
    (hp : numbered? parts number = some p) :
    (l.entry number p).contents? data = some p.stored := by
  have hread : (l.entry number p).contents? data =
      if p.type = Section.noBitsType ∨ p.contents.length = 0 then some []
      else data.slice? (l.position number) p.contents.length := rfl
  rw [hread, Part.stored]
  by_cases htype : p.type = Section.noBitsType
  · rw [if_pos (.inl htype), if_pos htype]
  · rw [if_neg htype]
    by_cases hne : p.contents = []
    · rw [if_pos (.inr (List.length_eq_zero_iff.2 hne)), hne]
    · have hsize : p.contents.length ≠ 0 := mt List.length_eq_zero_iff.1 hne
      rw [if_neg (not_or.2 ⟨htype, hsize⟩)]
      exact hasAt_contents hcontents hp htype hne

/-- The section that is found is the first one that is recognised. -/
theorem symbolTable?_eq {o : Object} (hsections : o.sections.tail = l.entries parts)
    (hrecognised : ∀ number p, numbered? parts number = some p →
      o.isSymbolTable (l.entry number p) = p.isSymbolTable) :
    o.symbolTable? = (parts.findIdx? Part.isSymbolTable).bind fun i =>
      parts[i]?.map (l.entry (i + 1)) := by
  have hentry : ∀ (i : Nat) (hi : i < parts.length) (hi' : i < (l.entries parts).length),
      o.isSymbolTable (l.entries parts)[i] = parts[i].isSymbolTable := by
    intro i hi hi'
    simp only [entries, List.getElem_mapIdx]
    exact hrecognised (i + 1) _ (List.getElem?_eq_getElem hi)
  rw [Object.symbolTable?, hsections]
  cases hindex : parts.findIdx? Part.isSymbolTable with
  | none =>
      rw [Option.bind_none, List.find?_eq_none]
      intro s hs
      obtain ⟨i, hi', rfl⟩ := List.getElem_of_mem hs
      have hi : i < parts.length := length_entries l parts ▸ hi'
      rw [hentry i hi hi', List.findIdx?_eq_none_iff.1 hindex _ (List.getElem_mem hi)]
      exact Bool.false_ne_true
  | some i =>
      obtain ⟨hi, hfound, hbefore⟩ := List.findIdx?_eq_some_iff_getElem.1 hindex
      have hi' : i < (l.entries parts).length := length_entries l parts ▸ hi
      rw [Option.bind_some, List.getElem?_eq_getElem hi, Option.map_some,
        List.find?_eq_some_iff_getElem]
      refine ⟨?_, i, hi', by simp only [entries, List.getElem_mapIdx], fun j hj => ?_⟩
      · rw [hrecognised (i + 1) _ (List.getElem?_eq_getElem hi), hfound]
      · rw [hentry j (Nat.lt_trans hj hi) (Nat.lt_trans hj hi'),
          Bool.eq_false_iff.2 (hbefore j hj)]
        rfl

/-- The names that are read are those that are in place. -/
theorem names_of_read? (h : l.IsSound f parts) (hheads : Holds (l.heads f parts) data)
    {table : Part} (htable : numbered? parts l.nameTable = some table)
    (htype : table.type ≠ Section.noBitsType) {o : Object} (hread : Object.read? data = some o) :
    o.names = (terminated ((data.slice? (l.position l.nameTable)
      table.contents.length).getD [])).toArray := by
  obtain ⟨-, range, hrange, hnames⟩ := of_read? h hheads hread
  rw [namesRange?_eq h hheads htable htype, Option.map_eq_some_iff] at hrange
  obtain ⟨bounds, hbounds, rfl⟩ := hrange
  obtain ⟨-, hpair⟩ := Option.ite_none_right_eq_some.1 hbounds
  obtain rfl := Option.some.inj hpair
  have hlength : (l.entry l.nameTable table).offset + (l.entry l.nameTable table).size -
      (l.entry l.nameTable table).offset = table.contents.length := Nat.add_sub_cancel_left _ _
  rw [hnames, namesIn, hlength]
  rfl

/-- Where the section with the names is in place, sections are recognised. -/
theorem isSymbolTable_entry (h : l.IsSound f parts) (hheads : Holds (l.heads f parts) data)
    {table : Part} (htable : numbered? parts l.nameTable = some table)
    (htype : table.type ≠ Section.noBitsType)
    (hat : table.contents ≠ [] → data.HasAt (l.position l.nameTable) table.contents)
    {o : Object} (hread : Object.read? data = some o) {number : Nat} {p : Part}
    (hp : numbered? parts number = some p) :
    o.isSymbolTable (l.entry number p) = p.isSymbolTable := by
  obtain ⟨table', htable', -, hname⟩ := h.names number p hp
  obtain rfl : table = table' := Option.some.inj (htable.symm.trans htable')
  have hne : table.contents ≠ [] := by
    intro hnil
    have hle := (Bytes.hasAt_iff_drop.1 hname).1
    rw [hnil, NulFree.terminated, List.length_append] at hle
    simp at hle
  have hslice : data.slice? (l.position l.nameTable) table.contents.length =
      some table.contents := hat hne
  have hnames := names_of_read? h hheads htable htype hread
  rw [hslice, Option.getD_some] at hnames
  exact isSymbolTable_of_name hnames hname

/-- **What is found in a laid out object.** -/
theorem findSymbolTable?_eq (h : l.IsFile f parts data) :
    findSymbolTable? data = (symbolTablePart? parts).map Part.stored := by
  cases parts with
  | nil =>
      -- whether or not the file is an object, there is no section in it
      cases hread : Object.read? data with
      | none => simp [findSymbolTable?, hread, symbolTablePart?]
      | some o =>
          have htail : o.sections.tail = [] := by
            rw [(of_read? h.sound h.heads hread).1, tail_sections h.sound]
            rfl
          simp [findSymbolTable?, hread, Object.symbolTable?, htail, symbolTablePart?]
  | cons p parts =>
      obtain ⟨table, htable, htype, -⟩ := h.sound.names 1 p rfl
      obtain ⟨o, hread⟩ := exists_read? h.sound h.formed h.heads h.contents h.limit htable htype
      have hrecognised : ∀ number q, numbered? (p :: parts) number = some q →
          o.isSymbolTable (l.entry number q) = q.isSymbolTable := fun number q =>
        isSymbolTable_entry h.sound h.heads htable htype
          (hasAt_contents h.contents htable htype) hread
      have hsections : o.sections.tail = l.entries (p :: parts) := by
        rw [(of_read? h.sound h.heads hread).1, tail_sections h.sound]
      rw [findSymbolTable?, hread, Option.bind_eq_bind, Option.bind_some,
        symbolTable?_eq hsections hrecognised, symbolTablePart?,
        List.find?_eq_bind_findIdx?_getElem?]
      cases hindex : (p :: parts).findIdx? Part.isSymbolTable with
      | none => rfl
      | some i =>
          cases hfound : (p :: parts)[i]? with
          | none => simp [hfound]
          | some q =>
              simp only [Option.bind_some, hfound, Option.map_some, Option.bind_eq_bind]
              exact contents?_entry h.contents hfound

/-- **Nothing is found if the file ends within the section**, also if there are others. -/
theorem findSymbolTable?_of_outside (h : l.IsSound f parts) {i : Nat} {p : Part}
    (hindex : parts.findIdx? Part.isSymbolTable = some i) (hp : parts[i]? = some p)
    (hstored : p.stored ≠ [])
    (hpieces : Holds (l.heads f parts ++ (l.contents parts).eraseIdx i) data)
    (houtside : data.length < l.position (i + 1) + p.stored.length) :
    findSymbolTable? data = none := by
  obtain ⟨htype, heq⟩ := Part.stored_ne_nil hstored
  rw [heq] at hstored houtside
  have hheads : Holds (l.heads f parts) data :=
    fun piece hmem => hpieces piece (List.mem_append_left _ hmem)
  have hslice : data.slice? (l.position (i + 1)) p.contents.length = none :=
    if_neg (Nat.not_le.2 houtside)
  cases hread : Object.read? data with
  | none => rw [findSymbolTable?, hread, Option.bind_eq_bind, Option.bind_none]
  | some o =>
      obtain ⟨table, htable, htabletype, -⟩ := h.names (i + 1) p hp
      rw [findSymbolTable?, hread, Option.bind_eq_bind, Option.bind_some]
      by_cases hself : l.nameTable = i + 1
      · -- the names are outside, too, so that no section is recognised
        obtain rfl : table = p := by
          rw [hself] at htable
          exact Option.some.inj (htable.symm.trans hp)
        have hnames := names_of_read? h hheads htable htabletype hread
        rw [hself, hslice] at hnames
        have hnone : o.symbolTable? = none := List.find?_eq_none.2 fun s _ => by
          rw [isSymbolTable_of_no_names hnames s]
          exact Bool.false_ne_true
        rw [hnone, Option.bind_eq_bind, Option.bind_none]
      · have hat : table.contents ≠ [] →
            data.HasAt (l.position l.nameTable) table.contents := by
          intro htablene
          obtain ⟨j, hj, htablej⟩ := numbered?_eq_some_iff.1 htable
          have htablestored : table.stored = table.contents := if_neg htabletype
          have hmem : (l.position l.nameTable, table.stored) ∈ (l.contents parts).eraseIdx i := by
            refine List.mem_eraseIdx_iff_getElem?.2 ⟨j, by omega, ?_⟩
            rw [contents, List.getElem?_mapIdx, htablej, hj]
            rfl
          rw [← htablestored] at htablene ⊢
          exact hpieces _ (List.mem_append_right _ hmem) htablene
        have hsections : o.sections.tail = l.entries parts := by
          rw [(of_read? h hheads hread).1, tail_sections h]
        rw [symbolTable?_eq hsections fun number q =>
          isSymbolTable_entry h hheads htable htabletype hat hread, hindex]
        simp only [Option.bind_some, hp, Option.map_some, Option.bind_eq_bind]
        have hsize : p.contents.length ≠ 0 := mt List.length_eq_zero_iff.1 hstored
        exact (if_neg (not_or.2 ⟨htype, hsize⟩)).trans hslice

end Layout

end LtoBridge.Elf
