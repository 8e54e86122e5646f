/-
**What a transfer vector binds, and when its order matters.**

There are three ways in which the entries of a vector add up.  Options are collected.  Of the
entries for one function the last one counts, also if it is null and so takes the function back.  Of
the versions of the function for resolutions the newest one counts that is not null, and of several
entries with that version the first one.  So the order of entries matters only among options, and
among entries with one and the same tag.

Main definitions:

* `LtoBridge.LinkerCall.tag?`, `LtoBridge.getSymbolsVersion?`: the tags of functions;
* `LtoBridge.TransferVector.lastWith`: the function of the last entry with a tag;
* `LtoBridge.TransferVector.IsNewest`: the first entry that offers the newest version;
* `LtoBridge.Entry.IsIdle`: an entry that adds nothing.

Main results:

* `LtoBridge.TransferVector.newest_foldl`: **the newest version that is not null counts**;
* `LtoBridge.TransferVector.read_of_perm`: **the order does not matter** if no tag is used twice;
* `LtoBridge.TransferVector.vector_binds_what_it_offers`: all that is read from a vector.
-/

import LtoBridge.Proofs.Linker.Vector
import Mathlib.Data.List.Nodup

set_option autoImplicit false

namespace LtoBridge

/-! ### Tags -/

/-- The tag of the options. -/
def optionTag : UInt32 := 4

/-- The tag of the entries for a function, if all of them have the same one. -/
def LinkerCall.tag? : LinkerCall → Option UInt32
  | registerClaimFile => some 5
  | registerAllSymbolsRead => some 6
  | registerCleanup => some 7
  | addSymbols => some 8
  | getSymbols => none
  | addInputFile => some 10
  | addInputLibrary => some 14
  | message => some 11

/-- The version of the function for resolutions that the entries with a tag offer. -/
def getSymbolsVersion? (tag : UInt32) : Option Nat :=
  if tag = 9 then some 1
  else if tag = 25 then some 2
  else if tag = 28 then some 3
  else none

/-- Each version has one tag. -/
theorem getSymbolsVersion?_injective {tag tag' : UInt32} {version : Nat}
    (h : getSymbolsVersion? tag = some version) (h' : getSymbolsVersion? tag' = some version) :
    tag = tag' := by
  unfold getSymbolsVersion? at h h'
  grind

/-- The version that a meaning is about. -/
def Meaning.version? : Meaning → Option Nat
  | .providesGetSymbols version => some version
  | _ => none

namespace Entry

variable {e : Entry}

/-- What is true of all tags of the table and of unknown tags is true of the tag of an entry. -/
theorem meaning_of_table {P : Nat → Meaning → Prop}
    (htable : ∀ n < tagMeanings.length, P n (tagMeanings.getD n .unknown))
    (hunknown : ∀ n, tagMeanings.length ≤ n → P n .unknown) : P e.tag.toNat e.meaning := by
  unfold meaning
  rcases Nat.lt_or_ge e.tag.toNat tagMeanings.length with hn | hn
  · exact htable _ hn
  · rw [List.getD_eq_getElem?_getD, List.getElem?_eq_none hn]
    exact hunknown _ hn

theorem meaning_eq_option_iff : e.meaning = .option ↔ e.tag = optionTag := by
  rw [← UInt32.toNat_inj]
  refine meaning_of_table (P := fun n m => m = .option ↔ n = optionTag.toNat) (by decide) ?_
  intro n hn
  have hlarge : optionTag.toNat < tagMeanings.length := by decide
  simp only [reduceCtorEq, false_iff]
  omega

theorem meaning_eq_provides_iff {call : LinkerCall} :
    e.meaning = .provides call ↔ call.tag? = some e.tag := by
  have htag : call.tag? = some e.tag ↔ call.tag?.map UInt32.toNat = some e.tag.toNat := by
    cases call.tag? <;> simp [UInt32.toNat_inj]
  rw [htag]
  refine meaning_of_table
    (P := fun n m => m = .provides call ↔ call.tag?.map UInt32.toNat = some n) ?_ ?_
  · cases call <;> decide
  · intro n hn
    have hlarge : ∀ tag ∈ call.tag?.map UInt32.toNat, tag < tagMeanings.length := by
      cases call <;> decide
    simp only [reduceCtorEq, false_iff]
    intro htag
    have hlt := hlarge n htag
    omega

theorem version?_meaning : e.meaning.version? = getSymbolsVersion? e.tag := by
  have htag : getSymbolsVersion? e.tag =
      if e.tag.toNat = 9 then some 1 else if e.tag.toNat = 25 then some 2
      else if e.tag.toNat = 28 then some 3 else none := by
    simp only [getSymbolsVersion?, ← UInt32.toNat_inj]
    rfl
  rw [htag]
  refine meaning_of_table (P := fun n m => m.version? =
    if n = 9 then some 1 else if n = 25 then some 2 else if n = 28 then some 3 else none)
    (by decide) ?_
  intro n hn
  have hlarge : 28 < tagMeanings.length := by decide
  rw [if_neg (by omega), if_neg (by omega), if_neg (by omega)]
  rfl

theorem meaning_eq_providesGetSymbols_iff {version : Nat} :
    e.meaning = .providesGetSymbols version ↔ getSymbolsVersion? e.tag = some version := by
  rw [← version?_meaning]
  cases e.meaning <;> simp [Meaning.version?]

/-- **The function for resolutions that an entry offers**, with its version.  A null entry offers
nothing. -/
def offer? (e : Entry) : Option (Nat × Address) :=
  match getSymbolsVersion? e.tag, e.value.function? with
  | some version, some function => some (version, function)
  | _, _ => none

theorem offer?_eq_some_iff {version : Nat} {function : Address} :
    e.offer? = some (version, function) ↔
      e.meaning = .providesGetSymbols version ∧ e.value.function? = some function := by
  rw [meaning_eq_providesGetSymbols_iff, offer?]
  cases getSymbolsVersion? e.tag <;> cases e.value.function? <;> simp

/-- **An entry that adds nothing**: it is neither the end of the vector nor an entry for a single
function, and it is null unless it means nothing anyway. -/
structure IsIdle (e : Entry) : Prop where
  not_end : e.tag ≠ 0
  not_function : ∀ call : LinkerCall, call.tag? ≠ some e.tag
  null_or_useless : e.value = .word 0 ∨ e.tag ≠ optionTag ∧ getSymbolsVersion? e.tag = none

end Entry

namespace TransferVector

variable {entries entries' before after : List Entry} {e : Entry}

theorem relevant_cons (e : Entry) (entries : List Entry) :
    relevant (e :: entries) = if e.tag = 0 then [] else e :: relevant entries := by
  by_cases he : e.tag = 0 <;> simp [relevant, he]

/-! ### Entries that do not count -/

/-- What adds nothing leaves everything as it is. -/
theorem add_of_idle (t : TransferVector) (he : e.IsIdle) : t.add e = t := by
  unfold add
  cases hmeaning : e.meaning with
  | option =>
      have htag := Entry.meaning_eq_option_iff.1 hmeaning
      rcases he.null_or_useless with hnull | ⟨hother, -⟩
      · simp [hnull, EntryValue.text?]
      · exact absurd htag hother
  | provides call => exact absurd (Entry.meaning_eq_provides_iff.1 hmeaning) (he.not_function call)
  | providesGetSymbols version =>
      have htag := Entry.meaning_eq_providesGetSymbols_iff.1 hmeaning
      rcases he.null_or_useless with hnull | ⟨-, hnone⟩
      · simp [hnull, EntryValue.function?, Bindings.offerGetSymbols]
      · rw [hnone] at htag
        cases htag
  | ends | ignored | unknown => rfl

/-- **Entries that add nothing can be left out.** -/
theorem read_insert (he : e.IsIdle) (before after : List Entry) :
    read (before ++ e :: after) = read (before ++ after) := by
  unfold read
  generalize ({} : TransferVector) = t
  induction before generalizing t with
  | nil =>
      rw [List.nil_append, List.nil_append, relevant_cons, if_neg he.not_end, List.foldl_cons,
        add_of_idle t he]
  | cons d before ih =>
      rw [List.cons_append, List.cons_append, relevant_cons, relevant_cons]
      split
      · rfl
      · exact ih (t.add d)

/-- **What stands behind the end does not count.** -/
theorem read_append_end (he : e.tag = 0) (before after : List Entry) :
    read (before ++ e :: after) = read before := by
  unfold read
  generalize ({} : TransferVector) = t
  induction before generalizing t with
  | nil =>
      rw [List.nil_append, relevant_cons, if_pos he]
      rfl
  | cons d before ih =>
      rw [List.cons_append, relevant_cons, relevant_cons]
      split
      · rfl
      · exact ih (t.add d)

/-! ### Options and single functions -/

/-- The function of the last entry with a tag, unless that entry is null. -/
def lastWith (tag : UInt32) (entries : List Entry) : Option Address :=
  (entries.filter (·.tag = tag)).getLast?.bind (·.value.function?)

/-- The texts of the options that are not null. -/
def optionTexts (entries : List Entry) : List NulFree :=
  (entries.filter (·.tag = optionTag)).filterMap (·.value.text?)

theorem optionValues_eq (entries : List Entry) :
    optionValues entries = optionTexts (relevant entries) := by
  unfold optionValues optionTexts
  rw [List.filterMap_filter]
  refine List.filterMap_congr ?_
  intro e _
  simp only [Entry.option?, Entry.meaning_eq_option_iff, decide_eq_true_eq]

theorem lastFunction?_eq {call : LinkerCall} {tag : UInt32} (htag : call.tag? = some tag)
    (entries : List Entry) : lastFunction? entries call = lastWith tag (relevant entries) := by
  unfold lastFunction? lastWith
  induction relevant entries using List.reverseRecOn with
  | nil => rfl
  | append_singleton entries e ih =>
      rw [List.filterMap_append, List.filter_append]
      by_cases he : e.tag = tag
      · have hmeaning : e.meaning = .provides call := by
          rw [Entry.meaning_eq_provides_iff, htag, he]
        simp [Entry.provided?, hmeaning, he]
      · have hmeaning : e.meaning ≠ .provides call := by
          rw [ne_eq, Entry.meaning_eq_provides_iff, htag]
          exact fun h => he (Option.some.inj h).symm
        simpa [Entry.provided?, hmeaning, he] using ih

/-! ### The function for resolutions -/

/-- **The first entry with the newest version**: all versions before it are older, and those behind
it are no newer. -/
def IsNewest (entries : List Entry) (version : Nat) (function : Address) : Prop :=
  ∃ before e after, entries = before ++ e :: after ∧ e.offer? = some (version, function) ∧
    (∀ d ∈ before, ∀ offer ∈ d.offer?, offer.1 < version) ∧
    ∀ d ∈ after, ∀ offer ∈ d.offer?, offer.1 ≤ version

/-- No version is newer. -/
theorem IsNewest.le {version : Nat} {function : Address} (h : IsNewest entries version function) :
    ∀ d ∈ entries, ∀ offer ∈ d.offer?, offer.1 ≤ version := by
  obtain ⟨before, e, after, rfl, he, hbefore, hafter⟩ := h
  intro d hd offer hoffer
  rcases List.mem_append.1 hd with hd | hd
  · exact Nat.le_of_lt (hbefore d hd offer hoffer)
  · rcases List.mem_cons.1 hd with rfl | hd
    · obtain rfl := Option.some.inj (hoffer.symm.trans he)
      exact Nat.le_refl _
    · exact hafter d hd offer hoffer

theorem IsNewest.exists_mem {version : Nat} {function : Address}
    (h : IsNewest entries version function) :
    ∃ e ∈ entries, e.offer? = some (version, function) := by
  obtain ⟨before, e, after, rfl, he, -, -⟩ := h
  exact ⟨e, by simp, he⟩

/-- An entry that offers nothing newer changes nothing. -/
theorem IsNewest.append_of_le {version : Nat} {function : Address}
    (h : IsNewest entries version function) (hle : ∀ offer ∈ e.offer?, offer.1 ≤ version) :
    IsNewest (entries ++ [e]) version function := by
  obtain ⟨before, d, after, rfl, hd, hbefore, hafter⟩ := h
  refine ⟨before, d, after ++ [e], by simp, hd, hbefore, ?_⟩
  intro d' hd' offer hoffer
  rcases List.mem_append.1 hd' with hd' | hd'
  · exact hafter d' hd' offer hoffer
  · obtain rfl := List.mem_singleton.1 hd'
    exact hle offer hoffer

/-- What has been read of the function for resolutions. -/
def HoldsNewest (entries : List Entry) (b : Bindings) : Prop :=
  (∀ e ∈ entries, e.offer? = none) ∧ b.address .getSymbols = none ∧ b.getSymbolsVersion = 0 ∨
    ∃ function, IsNewest entries b.getSymbolsVersion function ∧
      b.address .getSymbols = some function

/-- An entry that offers nothing newer than what has been read leaves that as it is. -/
theorem HoldsNewest.append_of_same {b b' : Bindings} (h : HoldsNewest entries b)
    (hle : ∀ offer ∈ e.offer?, offer.1 ≤ b.getSymbolsVersion)
    (hversion : b'.getSymbolsVersion = b.getSymbolsVersion)
    (haddress : b'.address .getSymbols = b.address .getSymbols) :
    HoldsNewest (entries ++ [e]) b' := by
  unfold HoldsNewest
  rw [hversion, haddress]
  rcases h with ⟨hnone, hunbound, hzero⟩ | ⟨function, hnewest, hbound⟩
  · left
    refine ⟨?_, hunbound, hzero⟩
    intro d hd
    rcases List.mem_append.1 hd with hd | hd
    · exact hnone d hd
    · obtain rfl := List.mem_singleton.1 hd
      cases hoffer : d.offer? with
      | none => rfl
      | some offer =>
          -- versions are counted from 1 on, so that this one would be newer
          have hpos := Entry.version_pos (Entry.offer?_eq_some_iff.1 hoffer).1
          have hsmall := hle offer hoffer
          omega
  · exact .inr ⟨function, hnewest.append_of_le hle, hbound⟩

/-- What has been read is at least as new as every offer so far. -/
theorem HoldsNewest.le {b : Bindings} (h : HoldsNewest entries b) :
    ∀ d ∈ entries, ∀ offer ∈ d.offer?, offer.1 ≤ b.getSymbolsVersion := by
  rcases h with ⟨hnone, -, -⟩ | ⟨_, hnewest, -⟩
  · intro d hd offer hoffer
    rw [hnone d hd] at hoffer
    cases hoffer
  · exact hnewest.le

/-- An offer counts if it is newer than what has been read. -/
theorem HoldsNewest.append_offer {b : Bindings} (h : HoldsNewest entries b) {version : Nat}
    (hmeaning : e.meaning = .providesGetSymbols version) :
    HoldsNewest (entries ++ [e]) (b.offerGetSymbols version e.value.function?) := by
  unfold Bindings.offerGetSymbols
  split
  · rename_i hnew
    obtain ⟨hlt, hsome⟩ := hnew
    obtain ⟨function, hfunction⟩ := Option.isSome_iff_exists.1 hsome
    have hoffer : e.offer? = some (version, function) :=
      Entry.offer?_eq_some_iff.2 ⟨hmeaning, hfunction⟩
    refine .inr ⟨function, ⟨entries, e, [], rfl, hoffer, ?_, by simp⟩, ?_⟩
    · intro d hd offer hdoffer
      exact Nat.lt_of_le_of_lt (h.le d hd offer hdoffer) hlt
    · simp [hfunction]
  · rename_i hold
    refine h.append_of_same ?_ rfl rfl
    intro offer hoffer
    obtain ⟨hoffered, hfunction⟩ := Entry.offer?_eq_some_iff.1 hoffer
    rw [hmeaning, Meaning.providesGetSymbols.injEq] at hoffered
    rw [hfunction, Option.isSome_some, and_iff_left rfl] at hold
    omega

/-- **What one more entry adds.** -/
theorem HoldsNewest.add {t : TransferVector} (h : HoldsNewest entries t.bindings) (e : Entry) :
    HoldsNewest (entries ++ [e]) (t.add e).bindings := by
  have hother : (∀ version, e.meaning ≠ .providesGetSymbols version) →
      ∀ offer ∈ e.offer?, offer.1 ≤ t.bindings.getSymbolsVersion := by
    intro hmeaning offer hoffer
    exact absurd (Entry.offer?_eq_some_iff.1 hoffer).1 (hmeaning offer.1)
  unfold TransferVector.add
  cases hmeaning : e.meaning with
  | providesGetSymbols version => exact h.append_offer hmeaning
  | provides call =>
      have hne := Entry.ne_getSymbols hmeaning
      exact h.append_of_same (hother (by simp [hmeaning])) rfl (by simp [hne.symm])
  | _ => exact h.append_of_same (hother (by simp [hmeaning])) rfl rfl

/-- **The newest version that is not null counts**, and of several entries with that version the
first one. -/
theorem newest_foldl (entries : List Entry) :
    HoldsNewest entries (entries.foldl add {}).bindings := by
  induction entries using List.reverseRecOn with
  | nil => exact .inl ⟨by simp, rfl, rfl⟩
  | append_singleton entries e ih =>
      rw [List.foldl_append]
      exact ih.add e

/-! ### The order of entries -/

/-- Entries other than options have different tags. -/
def UsesTagsOnce (entries : List Entry) : Prop :=
  ((entries.filter (·.tag ≠ optionTag)).map (·.tag)).Nodup

theorem UsesTagsOnce.eq_of_tag_eq (h : UsesTagsOnce entries) {d e : Entry} (hd : d ∈ entries)
    (he : e ∈ entries) (htag : d.tag = e.tag) (hoption : e.tag ≠ optionTag) : d = e := by
  have hmem : ∀ c ∈ entries, c.tag ≠ optionTag → c ∈ entries.filter (·.tag ≠ optionTag) := by
    intro c hc hne
    simpa using ⟨hc, hne⟩
  exact List.inj_on_of_nodup_map h (hmem d hd (htag ▸ hoption)) (hmem e he hoption) htag

theorem UsesTagsOnce.length_le_one (h : UsesTagsOnce entries) {tag : UInt32}
    (htag : tag ≠ optionTag) : (entries.filter (·.tag = tag)).length ≤ 1 := by
  have hcount : ((entries.filter (·.tag ≠ optionTag)).map (·.tag)).count tag ≤ 1 :=
    List.nodup_iff_count_le_one.1 h tag
  have hsame : ((entries.filter (·.tag ≠ optionTag)).map (·.tag)).count tag =
      (entries.filter (·.tag = tag)).length := by
    rw [List.count, List.countP_map, List.countP_filter, ← List.countP_eq_length_filter]
    refine List.countP_congr ?_
    intro e _
    simp only [Function.comp_apply, beq_iff_eq, Bool.and_eq_true, decide_eq_true_eq]
    constructor
    · exact And.left
    · intro he
      exact ⟨he, he ▸ htag⟩
  omega

/-- Of at most one entry, there is only one order. -/
theorem UsesTagsOnce.lastWith_eq (h : UsesTagsOnce entries) (hperm : entries.Perm entries')
    {tag : UInt32} (htag : tag ≠ optionTag) : lastWith tag entries = lastWith tag entries' := by
  have hfilter : (entries.filter (·.tag = tag)).Perm (entries'.filter (·.tag = tag)) :=
    hperm.filter _
  have hfew := h.length_le_one htag
  have hsame : entries.filter (·.tag = tag) = entries'.filter (·.tag = tag) := by
    generalize entries.filter (·.tag = tag) = found at hfilter hfew ⊢
    rcases found with _ | ⟨e, _ | ⟨d, rest⟩⟩
    · exact hfilter.nil_eq
    · exact (List.perm_singleton.1 hfilter.symm).symm
    · simp at hfew
  unfold lastWith
  rw [hsame]

/-- Each version is offered once. -/
theorem UsesTagsOnce.function_eq (h : UsesTagsOnce entries) {d e : Entry} (hd : d ∈ entries)
    (he : e ∈ entries) {version : Nat} {function function' : Address}
    (hoffer : d.offer? = some (version, function))
    (hoffer' : e.offer? = some (version, function')) : function = function' := by
  have hmeaning := (Entry.offer?_eq_some_iff.1 hoffer).1
  have hmeaning' := (Entry.offer?_eq_some_iff.1 hoffer').1
  have htag : d.tag = e.tag := getSymbolsVersion?_injective
    (Entry.meaning_eq_providesGetSymbols_iff.1 hmeaning)
    (Entry.meaning_eq_providesGetSymbols_iff.1 hmeaning')
  have hoption : e.tag ≠ optionTag := by
    intro htag'
    rw [Entry.meaning_eq_option_iff.2 htag'] at hmeaning'
    cases hmeaning'
  obtain rfl := h.eq_of_tag_eq hd he htag hoption
  exact congrArg Prod.snd (Option.some.inj (hoffer.symm.trans hoffer'))

/-- The newest version is the same in every order. -/
theorem UsesTagsOnce.newest_eq (h : UsesTagsOnce entries) (hperm : entries.Perm entries')
    {b b' : Bindings} (hb : HoldsNewest entries b) (hb' : HoldsNewest entries' b') :
    b.address .getSymbols = b'.address .getSymbols ∧
      b.getSymbolsVersion = b'.getSymbolsVersion := by
  rcases hb with ⟨hnone, hunbound, hzero⟩ | ⟨function, hnewest, hbound⟩
  · rcases hb' with ⟨-, hunbound', hzero'⟩ | ⟨function, hnewest, -⟩
    · exact ⟨hunbound.trans hunbound'.symm, hzero.trans hzero'.symm⟩
    · obtain ⟨e, he, hoffer⟩ := hnewest.exists_mem
      rw [hnone e (hperm.mem_iff.2 he)] at hoffer
      cases hoffer
  · obtain ⟨e, he, hoffer⟩ := hnewest.exists_mem
    rcases hb' with ⟨hnone, -, -⟩ | ⟨function', hnewest', hbound'⟩
    · rw [hnone e (hperm.mem_iff.1 he)] at hoffer
      cases hoffer
    · obtain ⟨e', he', hoffer'⟩ := hnewest'.exists_mem
      -- each of the two versions is the newest one in its own order, and occurs in the other one
      have hle := hnewest'.le e (hperm.mem_iff.1 he) _ hoffer
      have hge := hnewest.le e' (hperm.mem_iff.2 he') _ hoffer'
      have hversion : b.getSymbolsVersion = b'.getSymbolsVersion := Nat.le_antisymm hle hge
      rw [← hversion] at hoffer'
      rw [hbound, hbound', h.function_eq he (hperm.mem_iff.2 he') hoffer hoffer']
      exact ⟨rfl, hversion⟩

/-- **The order does not matter** if no tag is used twice, other than that of the options. -/
theorem read_of_perm (honce : UsesTagsOnce (relevant entries))
    (hperm : (relevant entries).Perm (relevant entries'))
    (hoptions : (relevant entries).filter (·.tag = optionTag) =
      (relevant entries').filter (·.tag = optionTag)) : read entries = read entries' := by
  obtain ⟨hnewest, hversion⟩ := honce.newest_eq hperm (newest_foldl (relevant entries))
    (newest_foldl (relevant entries'))
  have haddress : (read entries).bindings.address = (read entries').bindings.address := by
    funext call
    cases htag : call.tag? with
    | none =>
        obtain rfl : call = .getSymbols := by cases call <;> first | rfl | cases htag
        exact hnewest
    | some tag =>
        have hcall : call ≠ .getSymbols := by
          rintro rfl
          cases htag
        have hoption : tag ≠ optionTag := by
          rintro rfl
          cases call <;> cases htag
        rw [address_read hcall, address_read hcall, lastFunction?_eq htag, lastFunction?_eq htag]
        exact honce.lastWith_eq hperm hoption
  have hoptions' : (read entries).options = (read entries').options := by
    rw [options_read, options_read, optionValues_eq, optionValues_eq, optionTexts, optionTexts,
      hoptions]
  have hversion' : (read entries).bindings.getSymbolsVersion =
      (read entries').bindings.getSymbolsVersion := hversion
  rcases hread : read entries with ⟨⟨address, version⟩, options⟩
  rcases hread' : read entries' with ⟨⟨address', version'⟩, options'⟩
  rw [hread, hread'] at haddress hversion' hoptions'
  obtain rfl : address = address' := haddress
  obtain rfl : version = version' := hversion'
  obtain rfl : options = options' := hoptions'
  rfl

/-- **What is read from a vector.**  The options are the texts of the option entries before the end
that are not null, in order.  A function with a tag of its own is that of the last entry with this
tag.  The function for resolutions is that of the first entry with the newest version that is not
null.  What stands behind the end does not count, and entries that add nothing can be left out.  If
no tag but that of the options is used twice, then the order does not matter, as long as the options
keep theirs. -/
theorem vector_binds_what_it_offers (entries : List Entry) :
    let seen := relevant entries
    (read entries).options = optionTexts seen ∧
    (∀ call tag, call.tag? = some tag →
      (read entries).bindings.address call = lastWith tag seen) ∧
    HoldsNewest seen (read entries).bindings ∧
    (∀ before e after, entries = before ++ e :: after →
      (e.tag = 0 → read entries = read before) ∧
      (e.IsIdle → read entries = read (before ++ after))) ∧
    ∀ entries', UsesTagsOnce seen → seen.Perm (relevant entries') →
      seen.filter (·.tag = optionTag) = (relevant entries').filter (·.tag = optionTag) →
        read entries = read entries' := by
  intro seen
  refine ⟨?_, ?_, newest_foldl seen, ?_, ?_⟩
  · rw [options_read, optionValues_eq]
  · intro call tag htag
    have hcall : call ≠ .getSymbols := by
      rintro rfl
      cases htag
    rw [address_read hcall, lastFunction?_eq htag]
  · rintro before e after rfl
    constructor
    · intro he
      exact read_append_end he before after
    · intro he
      exact read_insert he before after
  · intro entries' honce hperm hoptions
    exact read_of_perm honce hperm hoptions

/-- A vector with two options and three versions of the function for resolutions, the newest of
which is null, and with a tag that means nothing. -/
def mixedVector : List Entry :=
  [⟨25, .word 2⟩, ⟨4, .text (.upToZero [97])⟩, ⟨9, .word 1⟩, ⟨28, .word 0⟩, ⟨11, .word 4⟩,
    ⟨12, .word 5⟩, ⟨4, .text (.upToZero [98])⟩, ⟨0, .word 0⟩, ⟨11, .word 0⟩]

/-- The same entries in another order. -/
def reorderedVector : List Entry :=
  [⟨11, .word 4⟩, ⟨9, .word 1⟩, ⟨4, .text (.upToZero [97])⟩, ⟨12, .word 5⟩,
    ⟨4, .text (.upToZero [98])⟩, ⟨28, .word 0⟩, ⟨25, .word 2⟩]

theorem vector_binds_what_it_offers_sample :
    UsesTagsOnce (relevant mixedVector) ∧
      (relevant mixedVector).Perm (relevant reorderedVector) ∧
      read reorderedVector = read (mixedVector.take 7) ∧
      read reorderedVector = read (mixedVector.eraseIdx 5) ∧
      (read reorderedVector).options = [.upToZero [97], .upToZero [98]] ∧
      (read reorderedVector).bindings.address .message = some 4 ∧
      (read reorderedVector).bindings.address .getSymbols = some 2 := by
  have honce : UsesTagsOnce (relevant mixedVector) := by
    unfold UsesTagsOnce
    decide
  have hperm : (relevant mixedVector).Perm (relevant reorderedVector) := by decide
  obtain ⟨hoptions, hlast, hnewest, hplace, horder⟩ := vector_binds_what_it_offers mixedVector
  have hsame : read mixedVector = read reorderedVector :=
    horder reorderedVector honce hperm (by decide)
  rw [← hsame]
  have hend : read mixedVector = read (mixedVector.take 7) :=
    (hplace _ ⟨0, .word 0⟩ [⟨11, .word 0⟩] rfl).1 rfl
  have hidle : Entry.IsIdle ⟨12, .word 5⟩ :=
    ⟨by decide, by intro call; cases call <;> decide, .inr (by decide)⟩
  have hwithout : read mixedVector = read (mixedVector.eraseIdx 5) :=
    (hplace (mixedVector.take 5) ⟨12, .word 5⟩ (mixedVector.drop 6) rfl).2 hidle
  refine ⟨honce, hperm, hend, hwithout, ?_, ?_, ?_⟩
  · rw [hoptions]
    decide
  · rw [hlast .message 11 rfl]
    decide
  · have hoffered : (⟨25, .word 2⟩ : Entry) ∈ relevant mixedVector := by decide
    rcases hnewest with ⟨hnone, -, -⟩ | ⟨function, hnewest, hbound⟩
    · cases hnone _ hoffered
    · -- there is no other offer of a version that is at least as new
      have hle := hnewest.le _ hoffered (2, 2) (by decide)
      obtain ⟨e, he, hoffer⟩ := hnewest.exists_mem
      have hothers : ∀ e ∈ relevant mixedVector, ∀ offer ∈ e.offer?, 2 ≤ offer.1 → offer.2 = 2 := by
        decide
      exact hbound.trans (congrArg some (hothers e he _ hoffer hle))

end TransferVector

end LtoBridge
