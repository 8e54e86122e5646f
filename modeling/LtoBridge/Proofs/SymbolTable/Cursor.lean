/-
**Reading a symbol table with a cursor.**

A table lies in memory, and a cursor says how far it has been read.  What is read next is looked up
from the cursor on, and the cursor moves behind it if it is there.  A machine has ways to fail that
a list of bytes does not have: a range may begin behind the end of the data, a position may not fit
in a word, and a loop may not come to its end.  Here every such place is a crash of its own, every
move of the cursor is written down, and it is shown that there is no crash: the cursor never leaves
the data, and what comes of it is what comes of reading the rest of the data again and again.

Main definitions:

* `LtoBridge.Cursor`, `LtoBridge.Move`: how far some data have been read, and how that went;
* `LtoBridge.Cursor.readTable`, `LtoBridge.Cursor.readFirst`: reading with a cursor;
* `LtoBridge.Move.Fits`: what a move of the cursor is like, given the data;
* `LtoBridge.Leads`: moves each of which starts where the one before it stopped;
* `LtoBridge.Cursor.Follows`: a reader with a cursor does what one without does.

Main results:

* `LtoBridge.Cursor.Follows.bind`: one reader after the other;
* `LtoBridge.Cursor.follows_readRecord`: **a record is read with a cursor as it is without**;
* `LtoBridge.Cursor.readEntries_eq`: so is a table, within one turn for every sixteen bytes;
* `LtoBridge.Cursor.cursor_stays_within_data`: all of this together.
-/

import LtoBridge.Proofs.SymbolTable.Faults

set_option autoImplicit false

namespace LtoBridge

/-! ### Strings with their zero byte -/

/-- Where the first zero byte is. -/
def Bytes.firstZero? (data : Bytes) : Option Nat := data.findIdx? (· == 0)

/-- The string that some bytes hold, if the last of them is zero and no other one is. -/
def NulFree.ofTerminated? (bs : Bytes) : Option NulFree :=
  if bs.getLast? = some 0 then ofBytes? bs.dropLast else none

theorem Bytes.firstZero?_eq_none {data : Bytes} (h : 0 ∉ data) : firstZero? data = none := by
  rw [firstZero?, List.findIdx?_eq_none_iff]
  intro b hb
  simpa using fun hzero : b = 0 => h (hzero ▸ hb)

theorem Bytes.firstZero?_terminated_append (s : NulFree) (rest : Bytes) :
    firstZero? (s.terminated ++ rest) = some s.bytes.length := by
  have hbytes : s.bytes.findIdx? (· == 0) = none := firstZero?_eq_none s.zero_not_mem
  simp [firstZero?, NulFree.terminated, List.findIdx?_append, List.findIdx?_cons, hbytes]

theorem NulFree.ofTerminated?_terminated (s : NulFree) : ofTerminated? s.terminated = some s := by
  simp [ofTerminated?, terminated, ofBytes?, s.zero_not_mem]

/-! ### Cursors -/

/-- What a cursor is moved for. -/
inductive Target
  | string
  | field (field : FixedField)
  | record

/-- What a cursor was moved for, where it was before and after, and whether that was found. -/
structure Move where
  target : Target
  start : Nat
  stop : Nat
  found : Bool

/-- **How far some data have been read**, and by which moves. -/
structure Cursor where
  offset : Nat := 0
  moves : List Move := []

/-- Where a machine does not go on. -/
inductive Crash
  /-- A range begins or ends behind the end of the data. -/
  | beyondEnd
  /-- A position does not fit in a word. -/
  | overflow
  /-- A loop has no turns left. -/
  | outOfTurns

namespace Cursor

/-- How many positions there are: a word has 64 bits. -/
def wordLimit : Nat := UInt64.size

/-- All data in memory are shorter than this. -/
def dataLimit : Nat := UInt64.size / 2

/-- The cursor after one more move. -/
def moved (c : Cursor) (target : Target) (stop : Nat) (found : Bool) : Cursor where
  offset := stop
  moves := c.moves ++ [⟨target, c.offset, stop, found⟩]

/-- **A reader with a cursor.**  It finds something or a fault, if it does not crash. -/
def Reader (α : Type) : Type := Cursor → Except Crash (Except EntryFault α × Cursor)

instance : Monad Reader where
  pure a c := .ok (.ok a, c)
  bind r f c :=
    match r c with
    | .error crash => .error crash
    | .ok (.error fault, c) => .ok (.error fault, c)
    | .ok (.ok a, c) => f a c

/-- A result that does not depend on the cursor. -/
def Reader.ofResult {α : Type} (result : Except EntryFault α) : Reader α := fun c => .ok (result, c)

/-! ### Reading -/

/-- Read a string and the zero byte behind it. -/
def readString (fault : EntryFault) (data : Bytes) : Reader NulFree := fun c =>
  if data.length < c.offset then .error .beyondEnd
  else
    match Bytes.firstZero? (data.drop c.offset) with
    | none => .ok (.error fault, c.moved .string c.offset false)
    | some length =>
        match Bytes.slice? (data.drop c.offset) 0 (length + 1) with
        | none => .error .beyondEnd
        | some bs =>
            match NulFree.ofTerminated? bs with
            | none => .ok (.error fault, c.moved .string c.offset false)
            | some s =>
                if wordLimit ≤ c.offset + (length + 1) then .error .overflow
                else .ok (.ok s, c.moved .string (c.offset + (length + 1)) true)

/-- Read a field of fixed width. -/
def readField (field : FixedField) (data : Bytes) : Reader Bytes := fun c =>
  if wordLimit ≤ c.offset + field.width then .error .overflow
  else
    match Bytes.slice? data c.offset field.width with
    | none => .ok (.error (.truncated field), c.moved (.field field) c.offset false)
    | some bs => .ok (.ok bs, c.moved (.field field) (c.offset + field.width) true)

/-- Read the parts of a record. -/
def readParts (data : Bytes) : Reader SymbolEntry := do
  let name ← readString .unterminatedName data
  let key ← readString .unterminatedComdatKey data
  let codes ← readField .codes data
  let kindCode := codes.headD 0
  let visibilityCode := codes.getLastD 0
  let kind ← .ofResult ((EntryFault.invalidKind kindCode).unless (SymbolKind.ofCode? kindCode))
  let visibility ← .ofResult
    ((EntryFault.invalidVisibility visibilityCode).unless (Visibility.ofCode? visibilityCode))
  let size ← readField .size data
  let slot ← readField .slot data
  let symbol : Symbol :=
    { name, kind, visibility
      comdatKey := if key.bytes = [] then none else some key
      size := UInt64.ofNat (Bytes.ofLittle size) }
  pure ⟨symbol, UInt32.ofNat (Bytes.ofLittle slot)⟩

/-- **Read a record**, which is one move, made up of those for its parts. -/
def readRecord (data : Bytes) : Reader SymbolEntry := fun c =>
  match readParts data c with
  | .error crash => .error crash
  | .ok (result, c') =>
      .ok (result, { c' with
        moves := c'.moves ++ [⟨.record, c.offset, c'.offset, result.isOk⟩] })

/-- Read records until the data end, with so many turns at most. -/
def readEntries (data : Bytes) :
    Nat → Cursor → Except Crash (Except SymbolTable.Malformed (List SymbolEntry) × Cursor)
  | 0, _ => .error .outOfTurns
  | turns + 1, c =>
      if data.length ≤ c.offset then .ok (.ok [], c)
      else
        match readRecord data c with
        | .error crash => .error crash
        | .ok (.error fault, c') => .ok (.error ⟨c.offset, fault⟩, c')
        | .ok (.ok e, c') =>
            (readEntries data turns c').map fun out => (out.1.map (e :: ·), out.2)

/-- **Read a table**, with so many turns at most. -/
def readTable (turns : Nat) (data : Bytes) :
    Except Crash (Except SymbolTable.Malformed SymbolTable × Cursor) :=
  (readEntries data turns {}).map fun out => (out.1.map (⟨·⟩), out.2)

/-- **Read the first record**, with the place where the cursor is then. -/
def readFirst (data : Bytes) :
    Except Crash (Except SymbolTable.Malformed (SymbolEntry × Nat) × Cursor) :=
  (readRecord data {}).map fun out =>
    ((out.1.mapError (⟨0, ·⟩)).map (·, out.2.offset), out.2)

end Cursor

/-! ### Moves -/

/-- A record takes up at least sixteen bytes. -/
theorem SymbolEntry.le_length_encode (e : SymbolEntry) : 16 ≤ e.encode.length := by
  rw [SymbolEntry.encode_eq]
  simp only [NulFree.terminated, List.length_append, List.length_cons, List.length_nil,
    Bytes.length_toLittle]
  omega

/-- **What a move of a cursor is like.**  A string is found unless there is no zero byte any more,
and a field unless there are too few bytes, in which cases the cursor stays where it is.  With a
record that can be read, the cursor moves by exactly what the record takes up. -/
inductive Move.Fits (data : Bytes) : Move → Prop
  | string {start : Nat} {s : NulFree} (h : s.terminated <+: data.drop start) :
      Fits data ⟨.string, start, start + s.terminated.length, true⟩
  | noString {start : Nat} (hstart : start ≤ data.length) (hzero : 0 ∉ data.drop start) :
      Fits data ⟨.string, start, start, false⟩
  | field {start : Nat} (f : FixedField) (h : start + f.width ≤ data.length) :
      Fits data ⟨.field f, start, start + f.width, true⟩
  | noField {start : Nat} (f : FixedField) (hstart : start ≤ data.length)
      (h : data.length < start + f.width) : Fits data ⟨.field f, start, start, false⟩
  | record {start : Nat} {e : SymbolEntry} {rest : Bytes}
      (h : SymbolEntry.decode (data.drop start) = .ok (e, rest)) :
      Fits data ⟨.record, start, start + e.encode.length, true⟩
  | noRecord {start stop : Nat} {fault : EntryFault} (hle : start ≤ stop)
      (hstop : stop ≤ data.length) (h : SymbolEntry.decode (data.drop start) = .error fault) :
      Fits data ⟨.record, start, stop, false⟩

namespace Move.Fits

variable {data : Bytes} {m : Move}

/-- **A move does not leave the data.** -/
theorem bounds (h : m.Fits data) : m.start ≤ m.stop ∧ m.stop ≤ data.length := by
  cases h with
  | @string start s h =>
      have hlength := h.length_le
      simp only [NulFree.terminated, List.length_append, List.length_singleton,
        List.length_drop] at hlength ⊢
      omega
  | noString hstart => exact ⟨Nat.le_refl _, hstart⟩
  | field f h => exact ⟨Nat.le_add_right _ _, h⟩
  | noField f hstart => exact ⟨Nat.le_refl _, hstart⟩
  | @record start e rest h =>
      have hlength := congrArg List.length (SymbolEntry.eq_encode_append_of_decode h)
      have hpos := e.le_length_encode
      rw [List.length_append, List.length_drop] at hlength
      refine ⟨Nat.le_add_right _ _, ?_⟩
      change start + e.encode.length ≤ data.length
      omega
  | noRecord hle hstop => exact ⟨hle, hstop⟩

/-- A record that is found moves the cursor by at least sixteen bytes. -/
theorem progress (h : m.Fits data) (hrecord : m.target = .record) (hfound : m.found = true) :
    m.start + 16 ≤ m.stop := by
  cases h with
  | @record start e rest h => exact Nat.add_le_add_left e.le_length_encode start
  | noRecord => cases hfound
  | _ => cases hrecord

end Move.Fits

/-- Is a move for a part of a record, and not for a whole one? -/
def Move.isPart (m : Move) : Bool :=
  match m.target with
  | .string | .field _ => true
  | .record => false

/-- **Moves that lead from one position to another**, each from where the one before it stopped. -/
inductive Leads : Nat → Nat → List Move → Prop
  | stay (position : Nat) : Leads position position []
  | move {m : Move} {ms : List Move} {start stop : Nat} (hstart : m.start = start)
      (h : Leads m.stop stop ms) : Leads start stop (m :: ms)

theorem Leads.append {start middle stop : Nat} {ms ms' : List Move} (h : Leads start middle ms)
    (h' : Leads middle stop ms') : Leads start stop (ms ++ ms') := by
  induction h with
  | stay => exact h'
  | move hstart _ ih => exact .move hstart (ih h')

namespace Cursor

variable {data : Bytes} {c c' c'' : Cursor}

/-- **A cursor has moved on within the data**, by moves that fit and lead from where it was to where
it is. -/
structure Advances (data : Bytes) (c c' : Cursor) : Prop where
  forward : c.offset ≤ c'.offset
  within : c'.offset ≤ data.length
  moves : ∃ moves, c'.moves = c.moves ++ moves ∧ (∀ m ∈ moves, m.Fits data) ∧
    Leads c.offset c'.offset (moves.filter Move.isPart)

theorem Advances.refl (h : c.offset ≤ data.length) : Advances data c c :=
  ⟨Nat.le_refl _, h, [], by simp, by simp, .stay _⟩

theorem Advances.trans (h : Advances data c c') (h' : Advances data c' c'') :
    Advances data c c'' := by
  obtain ⟨moves, hmoves, hfits, hleads⟩ := h.moves
  obtain ⟨moves', hmoves', hfits', hleads'⟩ := h'.moves
  refine ⟨Nat.le_trans h.forward h'.forward, h'.within, moves ++ moves', ?_, ?_, ?_⟩
  · rw [hmoves', hmoves, List.append_assoc]
  · exact List.forall_mem_append.2 ⟨hfits, hfits'⟩
  · rw [List.filter_append]
    exact hleads.append hleads'

/-- A move for a record is made up of those that were made for its parts. -/
theorem Advances.note {m : Move} (h : Advances data c c') (hm : m.Fits data)
    (hrecord : m.isPart = false) : Advances data c { c' with moves := c'.moves ++ [m] } := by
  obtain ⟨moves, hmoves, hfits, hleads⟩ := h.moves
  refine ⟨h.forward, h.within, moves ++ [m], ?_, ?_, ?_⟩
  · rw [hmoves, List.append_assoc]
  · exact List.forall_mem_append.2 ⟨hfits, List.forall_mem_singleton.2 hm⟩
  · have hnone : [m].filter Move.isPart = [] := by simp [hrecord]
    rwa [List.filter_append, hnone, List.append_nil]

/-- A move for a part of a record. -/
theorem advances_moved {target : Target} {stop : Nat} {found : Bool}
    (h : Move.Fits data ⟨target, c.offset, stop, found⟩)
    (hpart : Move.isPart ⟨target, c.offset, stop, found⟩ = true) :
    Advances data c (c.moved target stop found) := by
  refine ⟨h.bounds.1, h.bounds.2, _, rfl, List.forall_mem_singleton.2 h, ?_⟩
  rw [List.filter_cons_of_pos hpart]
  exact .move rfl (.stay stop)

/-! ### Readers with and without a cursor -/

section

variable {α β : Type}

/-- **A reader with a cursor does what a reader of the rest of the data does**, and moves the cursor
to where the rest of the rest is. -/
def Follows (data : Bytes) (r : Reader α) (p : Bytes → Except EntryFault (α × Bytes)) : Prop :=
  ∀ c : Cursor, c.offset ≤ data.length → ∃ result c',
    r c = .ok (result, c') ∧ Advances data c c' ∧
      p (data.drop c.offset) = result.map (·, data.drop c'.offset)

variable {r : Reader α} {p : Bytes → Except EntryFault (α × Bytes)} {f : α → Reader β}

/-- **One reader after the other.** -/
theorem Follows.bind {g : α × Bytes → Except EntryFault (β × Bytes)} (h : Follows data r p)
    (hf : ∀ a, Follows data (f a) fun rest => g (a, rest)) :
    Follows data (r >>= f) fun rest => p rest >>= g := by
  intro c hc
  obtain ⟨result, c', hr, hadvances, hp⟩ := h c hc
  cases result with
  | error fault =>
      refine ⟨.error fault, c', ?_, hadvances, ?_⟩
      · simp only [Bind.bind, hr]
      · simp only [hp]
        rfl
  | ok a =>
      obtain ⟨result, c'', hfa, hadvances', hg⟩ := hf a c' hadvances.within
      refine ⟨result, c'', ?_, hadvances.trans hadvances', ?_⟩
      · simp only [Bind.bind, hr, hfa]
      · simp only [hp]
        exact hg

/-- A result that does not depend on the data comes first. -/
theorem Follows.ofResult_bind {x : Except EntryFault α}
    {g : Bytes → α → Except EntryFault (β × Bytes)}
    (hf : ∀ a, Follows data (f a) fun rest => g rest a) :
    Follows data (Reader.ofResult x >>= f) fun rest => x >>= g rest := by
  intro c hc
  cases x with
  | error fault => exact ⟨.error fault, c, rfl, .refl hc, rfl⟩
  | ok a => exact hf a c hc

theorem follows_pure (a : α) : Follows data (pure a) fun rest => .ok (a, rest) :=
  fun c hc => ⟨.ok a, c, rfl, .refl hc, rfl⟩

end

/-- No position in the data, nor one that is a field further on, is beyond the limit. -/
theorem not_wordLimit_le (hdata : data.length < dataLimit) {position : Nat}
    (h : position ≤ data.length + 8) : ¬wordLimit ≤ position := by
  simp only [dataLimit, wordLimit, UInt64.size] at hdata ⊢
  omega

theorem follows_readString (hdata : data.length < dataLimit) (fault : EntryFault) :
    Follows data (readString fault data) fun rest => fault.unless (NulFree.split? rest) := by
  intro c hc
  have hstart : ¬data.length < c.offset := Nat.not_lt.2 hc
  cases hsplit : NulFree.split? (data.drop c.offset) with
  | none =>
      have hzero := NulFree.split?_eq_none_iff.1 hsplit
      refine ⟨.error fault, c.moved .string c.offset false, ?_,
        advances_moved (.noString hc hzero) rfl, ?_⟩
      · simp only [readString, if_neg hstart, Bytes.firstZero?_eq_none hzero]
      · simp only [hsplit]
        rfl
  | some found =>
      obtain ⟨s, rest⟩ := found
      have hdrop := NulFree.eq_terminated_append_of_split? hsplit
      have hlength : s.terminated.length = s.bytes.length + 1 := by simp [NulFree.terminated]
      have hfits : Move.Fits data ⟨.string, c.offset, c.offset + (s.bytes.length + 1), true⟩ := by
        rw [← hlength]
        exact .string ⟨rest, hdrop.symm⟩
      have hstop : c.offset + (s.bytes.length + 1) ≤ data.length := hfits.bounds.2
      have hlimit := not_wordLimit_le hdata (Nat.le_add_right_of_le hstop)
      -- what lies before the first zero byte is a string, so the cursor does not stay
      have hslice : Bytes.slice? (s.terminated ++ rest) 0 (s.bytes.length + 1) =
          some s.terminated := by
        rw [Bytes.slice?_eq_some_iff, ← hlength]
        simp
      refine ⟨.ok s, _, ?_, advances_moved hfits rfl, ?_⟩
      · simp only [readString, if_neg hstart, hdrop, Bytes.firstZero?_terminated_append, hslice,
          NulFree.ofTerminated?_terminated, if_neg hlimit]
      · have hrest : data.drop (c.offset + (s.bytes.length + 1)) = rest := by
          rw [← hlength, ← List.drop_drop, hdrop, List.drop_left]
        simp only [hsplit, EntryFault.unless, Except.map, moved, hrest]

theorem follows_readField (hdata : data.length < dataLimit) (field : FixedField) :
    Follows data (readField field data) fun rest =>
      (EntryFault.truncated field).unless (field.split? rest) := by
  intro c hc
  have hwidth : field.width ≤ 8 := by cases field <;> decide
  have hlimit : ¬wordLimit ≤ c.offset + field.width := not_wordLimit_le hdata (by omega)
  by_cases hthere : c.offset + field.width ≤ data.length
  · have hslice : Bytes.slice? data c.offset field.width =
        some ((data.drop c.offset).take field.width) :=
      Bytes.slice?_eq_some_iff.2 ⟨hthere, rfl⟩
    have hsplit : field.split? (data.drop c.offset) =
        some ((data.drop c.offset).take field.width, data.drop (c.offset + field.width)) := by
      rw [FixedField.split?, if_pos, List.drop_drop]
      rw [List.length_take, List.length_drop]
      omega
    refine ⟨.ok ((data.drop c.offset).take field.width), _, ?_,
      advances_moved (.field field hthere) rfl, ?_⟩
    · simp only [readField, if_neg hlimit, hslice]
    · simp only [hsplit]
      rfl
  · have hslice : Bytes.slice? data c.offset field.width = none := if_neg hthere
    have hsplit : field.split? (data.drop c.offset) = none := by
      refine FixedField.split?_eq_none field ?_
      rw [List.length_drop]
      omega
    refine ⟨.error (.truncated field), _, ?_,
      advances_moved (.noField field hc (Nat.lt_of_not_le hthere)) rfl, ?_⟩
    · simp only [readField, if_neg hlimit, hslice]
    · simp only [hsplit]
      rfl

/-- The parts of a record are read as they are without a cursor. -/
theorem follows_readParts (hdata : data.length < dataLimit) :
    Follows data (readParts data) SymbolEntry.decode := by
  delta SymbolEntry.decode readParts
  refine (follows_readString hdata _).bind fun name => ?_
  refine (follows_readString hdata _).bind fun key => ?_
  refine (follows_readField hdata _).bind fun codes => ?_
  refine Follows.ofResult_bind fun kind => ?_
  refine Follows.ofResult_bind fun visibility => ?_
  refine (follows_readField hdata _).bind fun size => ?_
  refine (follows_readField hdata _).bind fun slot => ?_
  exact follows_pure _

/-- The cursor is behind a record that was read. -/
theorem stop_eq_of_decode {start stop : Nat} {e : SymbolEntry} (hstart : start ≤ stop)
    (hstop : stop ≤ data.length)
    (h : SymbolEntry.decode (data.drop start) = .ok (e, data.drop stop)) :
    stop = start + e.encode.length := by
  have hlength := congrArg List.length (SymbolEntry.eq_encode_append_of_decode h)
  rw [List.length_append, List.length_drop, List.length_drop] at hlength
  omega

/-- **A record is read as it is without a cursor.** -/
theorem follows_readRecord (hdata : data.length < dataLimit) :
    Follows data (readRecord data) SymbolEntry.decode := by
  intro c hc
  obtain ⟨result, c', hparts, hadvances, hdecode⟩ := follows_readParts hdata c hc
  have hfits : Move.Fits data ⟨.record, c.offset, c'.offset, result.isOk⟩ := by
    cases result with
    | error fault => exact .noRecord hadvances.forward hadvances.within hdecode
    | ok e =>
        rw [stop_eq_of_decode hadvances.forward hadvances.within hdecode]
        exact .record hdecode
  exact ⟨result, _, by simp only [readRecord, hparts], hadvances.note hfits rfl, hdecode⟩

/-- The entry that comes first is read, and then the others. -/
theorem decodeEntries_of_decode (offset : Nat) {bytes rest : Bytes} {e : SymbolEntry}
    (h : SymbolEntry.decode bytes = .ok (e, rest)) :
    SymbolTable.decodeEntries offset bytes =
      (SymbolTable.decodeEntries (offset + e.encode.length) rest).map (e :: ·) := by
  have hne : bytes ≠ [] := by
    have hlt := SymbolEntry.length_lt_of_decode h
    exact List.ne_nil_of_length_pos (by omega)
  rw [SymbolTable.decodeEntries, if_neg hne]
  split
  · rename_i fault hfault
    rw [h] at hfault
    cases hfault
  · rename_i e' rest' he
    rw [h] at he
    cases he
    rfl

/-- **The entries of a table are read as they are without a cursor**, within one turn for every
sixteen bytes and one more. -/
theorem readEntries_eq (hdata : data.length < dataLimit) {turns : Nat} (hc : c.offset ≤ data.length)
    (hturns : (data.length - c.offset) / 16 < turns) :
    ∃ c', readEntries data turns c =
        .ok (SymbolTable.decodeEntries c.offset (data.drop c.offset), c') ∧
      Advances data c c' := by
  -- every turn but the last one takes up sixteen bytes
  induction turns generalizing c with
  | zero => exact absurd hturns (Nat.not_lt_zero _)
  | succ turns ih =>
      by_cases hend : data.length ≤ c.offset
      · refine ⟨c, ?_, .refl hc⟩
        rw [readEntries, if_pos hend, List.drop_eq_nil_of_le hend, SymbolTable.decodeEntries_nil]
      obtain ⟨result, c', hrecord, hadvances, hdecode⟩ := follows_readRecord hdata c hc
      simp only [readEntries, if_neg hend, hrecord]
      cases result with
      | error fault =>
          have hne : data.drop c.offset ≠ [] := by
            rw [Ne, List.drop_eq_nil_iff]
            exact hend
          have hfault := SymbolEntry.decode_eq_error_iff.1 hdecode
          exact ⟨c', by rw [SymbolTable.decodeEntries_of_explains _ hne hfault], hadvances⟩
      | ok e =>
          have hstop := stop_eq_of_decode hadvances.forward hadvances.within hdecode
          have hlength := e.le_length_encode
          have hwithin := hadvances.within
          obtain ⟨c'', hentries, hadvances'⟩ := ih hadvances.within (by omega)
          refine ⟨c'', ?_, hadvances.trans hadvances'⟩
          simp only [hentries]
          rw [decodeEntries_of_decode c.offset hdecode, hstop]
          rfl

/-- **A table is read as it is without a cursor.** -/
theorem readTable_eq (hdata : data.length < dataLimit) {turns : Nat}
    (hturns : data.length / 16 < turns) :
    ∃ c, readTable turns data = .ok (SymbolTable.decode data, c) ∧ Advances data {} c := by
  obtain ⟨c, hentries, hadvances⟩ :=
    readEntries_eq (c := {}) hdata (Nat.zero_le _) (by simpa using hturns)
  refine ⟨c, ?_, hadvances⟩
  rw [readTable, hentries]
  rfl

/-- The first record is read as it is without a cursor. -/
theorem readFirst_eq (hdata : data.length < dataLimit) :
    ∃ c, readFirst data = .ok (SymbolTable.decodeFirst data, c) ∧ Advances data {} c := by
  obtain ⟨result, c, hrecord, hadvances, hdecode⟩ := follows_readRecord hdata {} (Nat.zero_le _)
  rw [List.drop_zero] at hdecode
  refine ⟨c, ?_, hadvances⟩
  rw [readFirst, hrecord, SymbolTable.decodeFirst, hdecode]
  cases result with
  | error fault => rfl
  | ok e =>
      have hcount : data.length - (data.drop c.offset).length = c.offset := by
        have hwithin := hadvances.within
        rw [List.length_drop]
        omega
      change Except.ok (Except.ok (e, c.offset), c) =
        .ok (.ok (e, data.length - (data.drop c.offset).length), c)
      rw [hcount]

/-! ### The whole -/

/-- **A cursor that has kept within the data**, with every move that it made on the way from their
beginning. -/
structure KeepsWithin (data : Bytes) (c : Cursor) : Prop where
  offset_le : c.offset ≤ data.length
  leads : Leads 0 c.offset (c.moves.filter Move.isPart)
  start_le : ∀ m ∈ c.moves, m.start ≤ m.stop
  stop_le : ∀ m ∈ c.moves, m.stop ≤ data.length
  fits : ∀ m ∈ c.moves, m.Fits data
  progress : ∀ m ∈ c.moves, m.target = .record → m.found = true → m.start + 16 ≤ m.stop

theorem Advances.keepsWithin (h : Advances data {} c) : c.KeepsWithin data := by
  obtain ⟨moves, hmoves, hfits, hleads⟩ := h.moves
  obtain rfl : c.moves = moves := hmoves
  exact ⟨h.within, hleads, fun m hm => (hfits m hm).bounds.1, fun m hm => (hfits m hm).bounds.2,
    hfits, fun m hm => (hfits m hm).progress⟩

/-- A table has at most one entry for every sixteen bytes. -/
theorem size_le_of_decode {t : SymbolTable} (h : SymbolTable.decode data = .ok t) :
    t.size ≤ data.length / 16 := by
  have hentries : ∀ es : List SymbolEntry,
      16 * es.length ≤ (es.flatMap SymbolEntry.encode).length := by
    intro es
    induction es with
    | nil => exact Nat.le_refl _
    | cons e es ih =>
        have hlength := e.le_length_encode
        rw [List.length_cons, List.flatMap_cons, List.length_append]
        omega
  have hsize := hentries t.entries
  have hdata : (t.entries.flatMap SymbolEntry.encode).length = data.length :=
    congrArg List.length (SymbolTable.encode_of_decode h)
  rw [SymbolTable.size]
  omega

/-- **The cursor stays within the data and moves on.**  Let some data be as short as all data in
memory are.  Then a table is read with a cursor as it is without, with any number of turns that is
greater than a sixteenth of their length, and so is the first record.  Nothing crashes: neither is
there a range outside the data, nor a position that does not fit in a word, nor a loop that runs out
of turns.  The parts of the records are read one behind the other.  All the time the cursor is
within the data, also behind a part that was not found, and every record that is found takes it
further by its own length, which is sixteen bytes at least.  So there are no more entries in a table
than a sixteenth of its bytes. -/
theorem cursor_stays_within_data (data : Bytes) :
    (data.length < dataLimit →
      (∀ turns, data.length / 16 < turns → ∃ c,
        readTable turns data = .ok (SymbolTable.decode data, c) ∧ c.KeepsWithin data) ∧
      ∃ c, readFirst data = .ok (SymbolTable.decodeFirst data, c) ∧ c.KeepsWithin data) ∧
    ∀ t, SymbolTable.decode data = .ok t → t.size ≤ data.length / 16 := by
  refine ⟨fun hdata => ⟨fun turns hturns => ?_, ?_⟩, fun t => size_le_of_decode⟩
  · obtain ⟨c, htable, hadvances⟩ := readTable_eq hdata hturns
    exact ⟨c, htable, hadvances.keepsWithin⟩
  · obtain ⟨c, hfirst, hadvances⟩ := readFirst_eq hdata
    exact ⟨c, hfirst, hadvances.keepsWithin⟩

/-- A whole record, and one that ends within the codes of its kind and visibility. -/
def sampleData : Bytes := [102, 0, 0, 1, 3, 2, 1, 0, 0, 0, 0, 0, 0, 7, 0, 0, 0, 98, 0, 0, 5]

theorem cursor_stays_within_data_sample :
    SymbolTable.decode sampleData = .error ⟨17, .truncated .codes⟩ ∧
    ∃ c, readTable 2 sampleData = .ok (.error ⟨17, .truncated .codes⟩, c) ∧
      c.KeepsWithin sampleData ∧
      c.moves.drop 6 = [⟨.string, 17, 19, true⟩, ⟨.string, 19, 20, true⟩,
        ⟨.field .codes, 20, 20, false⟩, ⟨.record, 17, 20, false⟩] := by
  obtain ⟨c, htable, hkeeps⟩ :=
    ((cursor_stays_within_data sampleData).1 (by decide)).1 2 (by decide)
  have hrun : readTable 2 sampleData = .ok (.error ⟨17, .truncated .codes⟩, _) := rfl
  rw [htable] at hrun
  obtain ⟨hdecode, rfl⟩ := Prod.mk.inj (Except.ok.inj hrun)
  rw [hdecode] at htable
  exact ⟨hdecode, _, htable, hkeeps, rfl⟩

end Cursor

end LtoBridge
