/-
**Tables one behind the other, and tables that are cut off.**

Reading goes on behind a table that was written as if the data began there.  So a table that is cut
off is read up to the last whole record, and is malformed from there on unless it was cut right at
the end of a record: what is left of a record is never taken for something else.

Main definitions:

* `LtoBridge.SymbolTable.append`: one table behind the other;
* `LtoBridge.SymbolTable.boundary`: where the first records of a table end;
* `LtoBridge.EntryFault.isIncomplete`: faults of data that end too early.

Main results:

* `LtoBridge.SymbolTable.decode_encode_append_of_ok`,
  `LtoBridge.SymbolTable.decode_encode_append_of_error`: **reading goes on behind a table**;
* `LtoBridge.SymbolEntry.decode_of_cut`: a record that is cut off is incomplete;
* `LtoBridge.SymbolTable.truncations_are_detected`: all of this together.
-/

import LtoBridge.Proofs.SymbolTable.Faults

set_option autoImplicit false

namespace LtoBridge

/-! ### Records that are cut off -/

/-- Do the data end before the record does? -/
def EntryFault.isIncomplete : EntryFault → Bool
  | unterminatedName | unterminatedComdatKey | truncated _ => true
  | invalidKind _ | invalidVisibility _ => false

theorem BeginsWithStrings.append {data rest : Bytes} (h : BeginsWithStrings data rest)
    (more : Bytes) : BeginsWithStrings (data ++ more) (rest ++ more) := by
  obtain ⟨name, key, hname, hkey, rfl⟩ := h
  exact ⟨name, key, hname, hkey, by simp⟩

/-- A code that is not valid stays so, whatever follows. -/
theorem EntryFault.Explains.append {fault : EntryFault} {data : Bytes} (h : fault.Explains data)
    (hfault : fault.isIncomplete = false) (more : Bytes) : fault.Explains (data ++ more) := by
  cases fault with
  | invalidKind kind =>
      obtain ⟨visibility, rest, hdata, hkind⟩ := h
      exact ⟨visibility, rest ++ more, hdata.append more, hkind⟩
  | invalidVisibility visibility =>
      obtain ⟨kind, rest, hdata, hkind, hvisibility⟩ := h
      exact ⟨kind, rest ++ more, hdata.append more, hkind, hvisibility⟩
  | _ => cases hfault

/-- **A record that is cut off is incomplete**: it is neither taken for a shorter record nor for one
with a code that is not valid. -/
theorem SymbolEntry.decode_of_cut {e : SymbolEntry} {data more : Bytes}
    (h : data ++ more = e.encode) (hmore : more ≠ []) :
    ∃ fault : EntryFault, fault.isIncomplete = true ∧ decode data = .error fault := by
  have hwhole : decode (data ++ more) = .ok (e.stored, []) := by
    rw [h, ← List.append_nil e.encode, decode_encode_append]
  obtain ⟨e', rest, rfl⟩ | ⟨fault, hfault⟩ := begins_or_explained data
  · -- the record has only one end
    rw [List.append_assoc, decode_encode_append] at hwhole
    have hrest : rest ++ more = [] := congrArg Prod.snd (Except.ok.inj hwhole)
    exact absurd (List.append_eq_nil_iff.1 hrest).2 hmore
  · refine ⟨fault, ?_, decode_of_explains hfault⟩
    cases hincomplete : fault.isIncomplete with
    | true => rfl
    | false =>
        rw [decode_of_explains (hfault.append hincomplete more)] at hwhole
        cases hwhole

namespace SymbolTable

/-! ### Tables one behind the other -/

/-- The entries of one table behind those of another one. -/
def append (t u : SymbolTable) : SymbolTable := ⟨t.entries ++ u.entries⟩

@[simp] theorem encode_append (t u : SymbolTable) :
    (t.append u).encode = t.encode ++ u.encode := by
  simp [append, encode]

@[simp] theorem stored_append (t u : SymbolTable) :
    (t.append u).stored = t.stored.append u.stored := by
  simp [append, stored]

/-- **Reading goes on behind a table** that was written. -/
theorem decode_encode_append_of_ok {u : SymbolTable} {rest : Bytes} (h : decode rest = .ok u)
    (t : SymbolTable) : decode (t.encode ++ rest) = .ok (t.stored.append u) := by
  rw [← encode_of_decode h, ← encode_append, decode_encode, stored_append, stored_of_decode h]

/-- **What is malformed behind a table** is reported there. -/
theorem decode_encode_append_of_error {m : Malformed} {rest : Bytes} (h : decode rest = .error m)
    (t : SymbolTable) :
    decode (t.encode ++ rest) = .error ⟨t.encode.length + m.offset, m.fault⟩ := by
  rw [decode_eq_error_iff, decodeEntries_eq_error_iff] at h ⊢
  obtain ⟨u, rest', rfl, hoffset, hne, hfault⟩ := h
  refine ⟨t.append u, rest', ?_, ?_, hne, hfault⟩
  · rw [encode_append, List.append_assoc]
  · rw [encode_append, List.length_append, hoffset, Nat.zero_add, Nat.zero_add]

/-- The first entry of what was written is read, whatever follows it. -/
theorem decodeFirst_encode_append (e : SymbolEntry) (rest : Bytes) :
    decodeFirst (e.encode ++ rest) = .ok (e.stored, e.encode.length) := by
  rw [decodeFirst, SymbolEntry.decode_encode_append]
  simp

/-! ### The ends of records -/

/-- The first entries of a table. -/
def upTo (t : SymbolTable) (number : Nat) : SymbolTable := ⟨t.entries.take number⟩

/-- **Where the first records of a table end.** -/
def boundary (t : SymbolTable) (number : Nat) : Nat := (t.upTo number).encode.length

variable {t : SymbolTable} {number : Nat} {e : SymbolEntry}

theorem stored_upTo (t : SymbolTable) (number : Nat) :
    (t.upTo number).stored = t.stored.upTo number := by
  simp [upTo, stored, List.map_take]

/-- The stored form of a table is that of its first entries, and what follows. -/
theorem encode_eq_append (t : SymbolTable) (number : Nat) :
    t.encode = (t.upTo number).encode ++ encode ⟨t.entries.drop number⟩ := by
  rw [← encode_append, append, upTo, List.take_append_drop]

theorem upTo_succ (h : t.entries[number]? = some e) :
    t.upTo (number + 1) = (t.upTo number).append ⟨[e]⟩ := by
  simp [upTo, append, List.take_add_one, h]

/-- The end of a record is that of the record before it and its own length. -/
theorem boundary_succ (h : t.entries[number]? = some e) :
    t.boundary (number + 1) = t.boundary number + e.encode.length := by
  rw [boundary, upTo_succ h, encode_append, List.length_append, boundary]
  simp [encode]

theorem boundary_mono (t : SymbolTable) {i j : Nat} (h : i ≤ j) : t.boundary i ≤ t.boundary j := by
  have hupTo : (t.upTo j).upTo i = t.upTo i := by
    simp [upTo, List.take_take, Nat.min_eq_left h]
  rw [boundary, boundary, encode_eq_append (t.upTo j) i, hupTo, List.length_append]
  exact Nat.le_add_right _ _

/-- Every place within the stored form of a table is in one of its records. -/
theorem exists_boundary_le {place : Nat} (h : place < t.encode.length) :
    ∃ number e, t.entries[number]? = some e ∧ t.boundary number ≤ place ∧
      place < t.boundary number + e.encode.length := by
  have hreach : ∀ count ≤ t.entries.length, place < t.boundary count →
      ∃ number < count, t.boundary number ≤ place ∧ place < t.boundary (number + 1) := by
    intro count
    induction count with
    | zero =>
        intro _ hplace
        exact absurd hplace (Nat.not_lt_zero place)
    | succ count ih =>
        intro hcount hplace
        rcases Nat.lt_or_ge place (t.boundary count) with hbefore | hbehind
        · obtain ⟨number, hnumber, hbounds⟩ := ih (by omega) hbefore
          exact ⟨number, by omega, hbounds⟩
        · exact ⟨count, by omega, hbehind, hplace⟩
  have hend : t.boundary t.entries.length = t.encode.length := by
    rw [boundary, upTo, List.take_length]
  obtain ⟨number, hnumber, hle, hlt⟩ := hreach _ (Nat.le_refl _) (by rwa [hend])
  have hentry := List.getElem?_eq_getElem hnumber
  rw [boundary_succ hentry] at hlt
  exact ⟨number, _, hentry, hle, hlt⟩

/-- The stored form of a table that is cut off within a record. -/
theorem take_encode (h : t.entries[number]? = some e) {i : Nat} (hi : i ≤ e.encode.length) :
    t.encode.take (t.boundary number + i) = (t.upTo number).encode ++ e.encode.take i := by
  have hencode : t.encode = (t.upTo number).encode ++
      (e.encode ++ encode ⟨t.entries.drop (number + 1)⟩) := by
    rw [encode_eq_append t (number + 1), upTo_succ h, encode_append, List.append_assoc]
    simp [encode]
  rw [hencode, boundary, List.take_length_add_append, List.take_append_of_le_length hi]

/-! ### Tables that are cut off -/

/-- The first entries of a table are read if the rest is cut off. -/
theorem decode_take_boundary (t : SymbolTable) (number : Nat) :
    decode (t.encode.take (t.boundary number)) = .ok (t.stored.upTo number) := by
  have htake : t.encode.take (t.boundary number) = (t.upTo number).encode := by
    rw [encode_eq_append t number]
    exact List.take_left' rfl
  rw [htake, decode_encode, stored_upTo]

/-- **A record that is cut off is reported where it begins.** -/
theorem decode_take_within (h : t.entries[number]? = some e) {i : Nat} (hpos : 0 < i)
    (hi : i < e.encode.length) :
    ∃ fault : EntryFault, fault.isIncomplete = true ∧
      decode (t.encode.take (t.boundary number + i)) = .error ⟨t.boundary number, fault⟩ := by
  have hdrop : e.encode.drop i ≠ [] := by
    rw [Ne, List.drop_eq_nil_iff]
    omega
  obtain ⟨fault, hincomplete, hdecode⟩ :=
    SymbolEntry.decode_of_cut (List.take_append_drop i e.encode) hdrop
  have hne : e.encode.take i ≠ [] := by
    rw [← List.length_pos_iff, List.length_take]
    omega
  refine ⟨fault, hincomplete, ?_⟩
  rw [take_encode h (Nat.le_of_lt hi)]
  have hrest : decode (e.encode.take i) = .error ⟨0, fault⟩ :=
    decode_eq_error_iff.2
      (decodeEntries_of_explains 0 hne (SymbolEntry.decode_eq_error_iff.1 hdecode))
  exact decode_encode_append_of_error hrest (t.upTo number)

/-- **Reading is compositional and detects truncations.**

* Behind a table that was written, reading goes on as if the data began there, with its result and
  with its failure.
* The first entry of what was written is read together with its length, whatever follows it.
* A table that is cut off at the end of a record is read up to there.  If it is cut off anywhere
  else, the record that is not whole is reported to be incomplete, where it begins.  So nothing is
  read but the first entries of the table. -/
theorem truncations_are_detected :
    (∀ (t u : SymbolTable) (rest : Bytes), decode rest = .ok u →
      decode (t.encode ++ rest) = .ok (t.stored.append u)) ∧
    (∀ (t : SymbolTable) (rest : Bytes) (m : Malformed), decode rest = .error m →
      decode (t.encode ++ rest) = .error ⟨t.encode.length + m.offset, m.fault⟩) ∧
    (∀ (e : SymbolEntry) (rest : Bytes),
      decodeFirst (e.encode ++ rest) = .ok (e.stored, e.encode.length)) ∧
    ∀ (t : SymbolTable) (cut : Nat), cut < t.encode.length →
      (∀ number ≤ t.size, t.boundary number = cut →
        decode (t.encode.take cut) = .ok (t.stored.upTo number)) ∧
      ((∀ number ≤ t.size, t.boundary number ≠ cut) →
        ∃ number ≤ t.size, t.boundary number < cut ∧
          (∀ i ≤ t.size, t.boundary i < cut → t.boundary i ≤ t.boundary number) ∧
          ∃ fault : EntryFault, fault.isIncomplete = true ∧
            decode (t.encode.take cut) = .error ⟨t.boundary number, fault⟩) ∧
      ∀ u, decode (t.encode.take cut) = .ok u → u.entries <+: t.stored.entries := by
  refine ⟨fun t u rest h => decode_encode_append_of_ok h t,
    fun t rest m h => decode_encode_append_of_error h t, decodeFirst_encode_append, ?_⟩
  intro t cut hcut
  obtain ⟨number, e, hentry, hle, hlt⟩ := exists_boundary_le hcut
  have hnumber : number < t.size := (List.getElem?_eq_some_iff.1 hentry).1
  obtain ⟨i, rfl⟩ := Nat.exists_eq_add_of_le hle
  refine ⟨?_, fun hwithin => ?_, fun u hu => ?_⟩
  · rintro number' - hboundary
    rw [← hboundary]
    exact decode_take_boundary t number'
  · have hpos : 0 < i := by
      have hne := hwithin number (Nat.le_of_lt hnumber)
      omega
    refine ⟨number, Nat.le_of_lt hnumber, by omega, fun j _ hj => ?_,
      decode_take_within hentry hpos (by omega)⟩
    -- the next record ends behind the cut
    rcases Nat.lt_or_ge number j with hbehind | hbefore
    · have hnext := boundary_mono t (Nat.succ_le_of_lt hbehind)
      rw [Nat.succ_eq_add_one, boundary_succ hentry] at hnext
      omega
    · exact boundary_mono t hbefore
  · rcases Nat.eq_zero_or_pos i with rfl | hpos
    · rw [Nat.add_zero, decode_take_boundary] at hu
      rw [← Except.ok.inj hu]
      exact List.take_prefix number t.stored.entries
    · obtain ⟨fault, -, herror⟩ := decode_take_within hentry hpos (by omega)
      rw [herror] at hu
      cases hu

/-- A table of two entries that is cut off at the end of the first one, and within the second. -/
theorem truncations_are_detected_sample :
    decode ((singleton.append singleton).encode.take 17) = .ok singleton ∧
      ∃ fault : EntryFault, fault.isIncomplete = true ∧
        decode ((singleton.append singleton).encode.take 20) = .error ⟨17, fault⟩ := by
  obtain ⟨hwhole, -, -⟩ :=
    truncations_are_detected.2.2.2 (singleton.append singleton) 17 (by decide)
  obtain ⟨-, hcut, -⟩ := truncations_are_detected.2.2.2 (singleton.append singleton) 20 (by decide)
  obtain ⟨number, hnumber, hbefore, hgreatest, hfault⟩ := hcut (by decide)
  have hboundary : (singleton.append singleton).boundary number = 17 := by
    have hfirst := hgreatest 1 (by decide) (by decide)
    match number, hnumber with
    | 0, _ => exact absurd hfirst (by decide)
    | 1, _ => rfl
    | 2, _ => exact absurd hbefore (by decide)
  rw [hboundary] at hfault
  exact ⟨hwhole 1 (by decide) (by decide), hfault⟩

end SymbolTable

end LtoBridge
