/-
**Copying a member out of an archive, whatever the reads are like.**

A read may be interrupted any number of times, and may give less than was asked for.  A member that
is within its archive is copied nevertheless, with exactly its bytes.  Of any other member, what
there is of it is copied, and the message says how much that was.

Main definitions:

* `LtoBridge.Machine.attemptRead`: one attempt to read, which may be interrupted;
* `LtoBridge.Extraction.attemptsFrom`: the copying, with one attempt after the other;
* `LtoBridge.Extraction.Provides`: an open file has the same bytes while a copy is written;
* `LtoBridge.Call.ReadsWithin`: a call that reads does so within a member.

Main results:

* `LtoBridge.Extraction.attemptsFrom_eq_copyFrom`: an attempt that was interrupted is made again;
* `LtoBridge.Extraction.yields_copyFrom_of_provides`: what comes of the rest of a member;
* `LtoBridge.Extraction.copies_exactly_the_member`: **the copy holds the bytes of the member**, and
  nothing depends on the reads.
-/

import LtoBridge.Linker.Scripted
import LtoBridge.Proofs.Session.Copies
import LtoBridge.Proofs.Session.Surroundings

set_option autoImplicit false

namespace LtoBridge

/-- A call to the operating system, seen from further outside if it fails, and what follows it. -/
theorem Act.ofOs_within_bind_apply {σ α β : Type} (f : σ → Except OsError α × σ)
    (context : Context) (g : α → Act σ β) (s : σ) :
    ((Act.ofOs f).within context >>= g) s =
      match f s with
      | (.error error, s) => (.error ⟨.os error, [context]⟩, s)
      | (.ok a, s) => g a s := by
  rw [Act.bind_apply]
  rcases h : f s with ⟨error | a, s'⟩
  · simp only [Act.within, Act.ofOs, h]
    rfl
  · simp only [Act.within, Act.ofOs, h]
    rfl

/-! ### Attempts -/

namespace Machine

variable {L : Type} {m : Machine L} {rest : List ReadStep}

/-- **One attempt to read**, of which nothing comes if it is interrupted. -/
def attemptRead (m : Machine L) (file : Descriptor) (position count : Nat) :
    Option (Except OsError Bytes) × Machine L :=
  match m.readPlan with
  | .interrupted :: rest => (none, { m with readPlan := rest })
  | _ => (some (m.readAt file position count).1, (m.readAt file position count).2)

/-- A read that is interrupted gives what the next attempt gives. -/
theorem readAt_of_interrupted (h : m.readPlan = .interrupted :: rest) (file : Descriptor)
    (position count : Nat) :
    m.readAt file position count =
      ({ m with readPlan := rest } : Machine L).readAt file position count := by
  simp only [readAt, h, nextRead, node]

/-- An interrupted attempt is one less to come. -/
theorem interrupted_of_attemptRead {m' : Machine L} {file : Descriptor} {position count : Nat}
    (h : m.attemptRead file position count = (none, m')) :
    ∃ rest, m.readPlan = .interrupted :: rest ∧ m' = { m with readPlan := rest } := by
  unfold attemptRead at h
  split at h
  · rename_i rest hplan
    exact ⟨rest, hplan, (congrArg Prod.snd h).symm⟩
  · cases h

theorem length_readPlan_of_attemptRead {m' : Machine L} {file : Descriptor} {position count : Nat}
    (h : m.attemptRead file position count = (none, m')) :
    m'.readPlan.length < m.readPlan.length := by
  obtain ⟨rest, hplan, rfl⟩ := interrupted_of_attemptRead h
  rw [hplan, List.length_cons]
  exact Nat.lt_succ_self _

/-- An attempt that is not interrupted is the read. -/
theorem readAt_of_attemptRead {m' : Machine L} {file : Descriptor} {position count : Nat}
    {answer : Except OsError Bytes} (h : m.attemptRead file position count = (some answer, m')) :
    m.readAt file position count = (answer, m') := by
  unfold attemptRead at h
  split at h
  · cases h
  · cases h
    rfl

end Machine

namespace Extraction

variable {L : Type} [Linker L]

/-- **The copying, with one attempt to read after the other.**  An attempt that was interrupted is
made again, at the same position. -/
def attemptsFrom (source : Descriptor) (destination : Path) (length position remaining : Nat)
    (m : Machine L) : Except Failure Unit × Machine L :=
  if remaining = 0 then (.ok (), m)
  else
    match _hattempt : m.attemptRead source position (min remaining chunkSize) with
    | (none, m) => attemptsFrom source destination length position remaining m
    | (some (.error error), m) => (.error ⟨.os error, [.readingMember]⟩, m)
    | (some (.ok piece), m) =>
        if _hpiece : piece.length = 0 then
          (.error ⟨.memberEnds (length - remaining) length, []⟩, m)
        else
          match Platform.appendFile destination piece m with
          | (.error error, m) => (.error ⟨.os error, [.writing destination]⟩, m)
          | (.ok _, m) =>
              attemptsFrom source destination length (position + piece.length)
                (remaining - piece.length) m
  termination_by (remaining, m.readPlan.length)
  decreasing_by
    · exact Prod.Lex.right _ (Machine.length_readPlan_of_attemptRead _hattempt)
    · exact Prod.Lex.left _ _ (by omega)

section

variable {source : Descriptor} {destination : Path} {length position remaining : Nat}
  {m : Machine L}

/-- What is copied after a read. -/
theorem copyFrom_eq_of_readAt (hremaining : remaining ≠ 0) :
    copyFrom source destination length position remaining m =
      match m.readAt source position (min remaining chunkSize) with
      | (.error error, m) => (.error ⟨.os error, [.readingMember]⟩, m)
      | (.ok piece, m) =>
          if piece.length = 0 then (.error ⟨.memberEnds (length - remaining) length, []⟩, m)
          else
            match Platform.appendFile destination piece m with
            | (.error error, m) => (.error ⟨.os error, [.writing destination]⟩, m)
            | (.ok _, m) =>
                copyFrom source destination length (position + piece.length)
                  (remaining - piece.length) m := by
  rw [copyFrom, if_neg hremaining, Act.ofOs_within_bind_apply]
  rcases hread : m.readAt source position (min remaining chunkSize) with ⟨error | piece, m'⟩
  · simp only [Platform.readAt, hread]
  · simp only [Platform.readAt, hread]
    split
    · rfl
    · rw [Act.ofOs_within_bind_apply]
      cases Platform.appendFile destination piece m' with
      | mk result m'' => cases result <;> rfl

/-- **An attempt that was interrupted is made again**, and that is all that comes of it. -/
theorem attemptsFrom_eq_copyFrom :
    attemptsFrom source destination length position remaining m =
      copyFrom source destination length position remaining m := by
  fun_induction attemptsFrom source destination length position remaining m with
  | case1 position m =>
      rw [copyFrom, if_pos rfl]
      rfl
  | case2 position remaining m hremaining m' hattempt ih =>
      obtain ⟨rest, hplan, rfl⟩ := Machine.interrupted_of_attemptRead hattempt
      rw [ih, copyFrom_eq_of_readAt hremaining, copyFrom_eq_of_readAt hremaining,
        Machine.readAt_of_interrupted hplan]
  | case3 position remaining m hremaining error m' hattempt =>
      rw [copyFrom_eq_of_readAt hremaining, Machine.readAt_of_attemptRead hattempt]
  | case4 position remaining m hremaining piece m' hattempt hpiece =>
      rw [copyFrom_eq_of_readAt hremaining, Machine.readAt_of_attemptRead hattempt]
      simp only [if_pos hpiece]
  | case5 position remaining m hremaining piece m' hattempt hpiece error m'' happend =>
      rw [copyFrom_eq_of_readAt hremaining, Machine.readAt_of_attemptRead hattempt]
      simp only [if_neg hpiece, happend]
  | case6 position remaining m hremaining piece m' hattempt hpiece _ m'' happend ih =>
      rw [copyFrom_eq_of_readAt hremaining, Machine.readAt_of_attemptRead hattempt]
      simp only [if_neg hpiece, happend, ih]

/-- **The copying to a new file, with one attempt to read after the other.** -/
def attempts (source : Descriptor) (offset length : Nat) (destination : Path) (m : Machine L) :
    Except Failure Unit × Machine L :=
  match Platform.createFile destination m with
  | (.error error, m) => (.error ⟨.os error, [.creating destination]⟩, m)
  | (.ok _, m) => attemptsFrom source destination length offset length m

theorem attempts_eq_copyRange (offset : Nat) :
    attempts source offset length destination m = copyRange source offset length destination m := by
  rw [attempts, copyRange, Act.ofOs_within_bind_apply]
  rcases Platform.createFile destination m with ⟨error | _, m'⟩
  · rfl
  · exact attemptsFrom_eq_copyFrom

end

end Extraction

/-! ### Copies -/

section

variable {W : Type}

/-- Does a call read an open file? -/
def Effect.isRead : Effect → Bool
  | readAt _ _ _ => true
  | _ => false

/-- **A call that reads does so within a member**: at least one of its bytes, and at most 64 KiB of
them at once. -/
def Call.ReadsWithin (source : Descriptor) (offset length : Nat) (c : Call W) : Prop :=
  ∀ file position count, c.effect = .readAt file position count →
    file = source ∧ 0 < count ∧ count ≤ 65536 ∧ offset ≤ position ∧
      position + count ≤ offset + length

theorem Call.ReadsWithin.widen {source : Descriptor} {offset length offset' length' : Nat}
    {c : Call W} (h : c.ReadsWithin source offset length) (hoffset : offset' ≤ offset)
    (hend : offset + length ≤ offset' + length') : c.ReadsWithin source offset' length' := by
  intro file position count heffect
  obtain ⟨hfile, hpos, hchunk, hstart, hstop⟩ := h file position count heffect
  exact ⟨hfile, hpos, hchunk, by omega, by omega⟩

end

namespace Extraction

/-- What comes of copying the rest of a member, of which so many bytes are left to be copied, and so
many are available. -/
def ending (length remaining available : Nat) : Except Failure Unit :=
  if remaining ≤ available then .ok ()
  else .error ⟨.memberEnds (length - remaining + available) length, []⟩

/-- A member that is not there in full is reported with what there is of it. -/
theorem ending_whole (length available : Nat) :
    (ending length length available = .ok () ↔ length ≤ available) ∧
      (ending length length available ≠ .ok () → ∃ failure,
        ending length length available = .error failure ∧
          failure.message = "Archive member ends after " ++ toString available ++ " of " ++
            toString length ++ " bytes") := by
  unfold ending
  by_cases h : length ≤ available
  · simp [h]
  · refine ⟨by simp [h], fun _ => ⟨_, if_neg h, ?_⟩⟩
    rw [Nat.sub_self, Nat.zero_add]
    simp [Failure.message, Failure.texts]
    rfl

/-- A piece that has been copied is neither left nor available any more. -/
theorem ending_after {length remaining available piece : Nat} (hlength : remaining ≤ length)
    (hremaining : piece ≤ remaining) (havailable : piece ≤ available) :
    ending length (remaining - piece) (available - piece) = ending length remaining available := by
  have hle : remaining - piece ≤ available - piece ↔ remaining ≤ available := by omega
  have hcopied : length - (remaining - piece) + (available - piece) =
      length - remaining + available := by omega
  simp only [ending, hle, hcopied]

/-- A piece is the part of its own length, and what comes after it is the rest. -/
theorem take_drop_eq_append {bytes piece : Bytes} {position k remaining : Nat}
    (hpiece : piece = (bytes.drop position).take k) (hremaining : piece.length ≤ remaining) :
    (bytes.drop position).take remaining =
      piece ++ (bytes.drop (position + piece.length)).take (remaining - piece.length) := by
  have hself : (bytes.drop position).take piece.length = piece := by
    rw [hpiece, List.take_eq_take_iff, List.length_take]
    omega
  calc (bytes.drop position).take remaining
    _ = (bytes.drop position).take (piece.length + (remaining - piece.length)) := by
        rw [Nat.add_sub_cancel' hremaining]
    _ = piece ++ (bytes.drop (position + piece.length)).take (remaining - piece.length) := by
        rw [List.take_add, hself, List.drop_drop]

variable {L : Type} {m : Machine L} {l : Location} {executable : Bool} {source : Descriptor}
  {bytes : Bytes}

/-- **An open file has the same bytes while a copy is written.**  Only if it has none may it be the
copy itself, as long as nothing has been copied. -/
def Provides (m : Machine L) (l : Location) (executable : Bool) (source : Descriptor)
    (bytes : Bytes) : Prop :=
  ∀ start readPlan, (bytes = [] → start = []) → ∃ executable',
    (m.withFile l start executable readPlan).node source = .ok (.file bytes executable')

/-- A file provides its bytes, or none if it is made empty because it is copied over itself. -/
theorem provides_of_file {before : Bytes} {executable' : Bool}
    (hsource : m.node source = .ok (.file before executable'))
    (hopen : Disk.isOpenTo m.disk.tree l) :
    Provides m l executable source (if m.opened.lookup source = some l then [] else before) := by
  intro start readPlan hstart
  by_cases hsame : m.opened.lookup source = some l
  · rw [if_pos hsame] at hstart ⊢
    obtain rfl := hstart rfl
    refine ⟨executable, ?_⟩
    simp [Machine.node, Machine.withFile, hsame, Disk.get?_put_self hopen]
  · rw [if_neg hsame]
    exact ⟨executable', by rw [Machine.node_withFile hopen hsame, hsource]⟩

variable [Linker L] {path : Path} {start : Bytes} {position : Nat}

/-- **A piece of what remains is read**, with at least one byte unless there is none. -/
theorem yields_piece (hprovides : Provides m l executable source bytes) {remaining : Nat}
    (hremaining : remaining ≠ 0) (hlimit : position + remaining < Machine.positionLimit)
    (hstart : bytes = [] → start = []) {readPlan : List ReadStep} {t : Traced (Machine L)}
    (ht : t.world = m.withFile l start executable readPlan) :
    ((Act.ofOs (Platform.readAt source position (min remaining chunkSize))).within
      .readingMember).Yields t fun r cs t' =>
        (∃ k, 0 < k ∧ k ≤ remaining ∧ r = .ok ((bytes.drop position).take k)) ∧
        (∃ readPlan', t'.world = m.withFile l start executable readPlan') ∧
        (∀ c ∈ cs, c.ReadsWithin source position remaining) ∧
        cs.countP (·.effect.isRead) = 1 := by
  have hcount : 0 < min remaining chunkSize ∧ min remaining chunkSize ≤ remaining ∧
      min remaining chunkSize ≤ 65536 :=
    ⟨Nat.lt_min.2 ⟨by omega, by decide⟩, Nat.min_le_left .., Nat.min_le_right ..⟩
  obtain ⟨executable', hnode⟩ := hprovides start readPlan hstart
  rw [← ht] at hnode
  obtain ⟨k, hpos, hk, hread⟩ := Machine.readAt_of_file hnode
    (show position + min remaining chunkSize < Machine.positionLimit by omega) hcount.1
  refine (yields_readAt (min remaining chunkSize) ht).mono ?_
  rintro r cs t' ⟨rfl, ht', hpiece⟩
  refine ⟨⟨k, hpos, by omega, (hpiece _).1 hread⟩, ht', ?_, rfl⟩
  rw [List.forall_mem_singleton]
  rintro _ _ _ ⟨⟩
  exact ⟨rfl, hcount.1, hcount.2.2, Nat.le_refl _, by omega⟩

/-- **What comes of the rest of a member.**  Its bytes are copied as far as there are any, and no
piece is read in vain, but for the last one. -/
theorem yields_copyFrom_of_provides (htarget : m.disk.IsTarget path l)
    (hprovides : Provides m l executable source bytes) {length remaining : Nat}
    (hlength : remaining ≤ length) (hlimit : position + remaining < Machine.positionLimit)
    (hstart : bytes = [] → start = []) {readPlan : List ReadStep} {t : Traced (Machine L)}
    (ht : t.world = m.withFile l start executable readPlan) :
    (copyFrom source path length position remaining).Yields t fun r cs t' =>
      r = ending length remaining (bytes.length - position) ∧
      (∃ readPlan', t'.world =
        m.withFile l (start ++ (bytes.drop position).take remaining) executable readPlan') ∧
      (∀ c ∈ cs, c.ReadsWithin source position remaining) ∧
      cs.countP (·.effect.isRead) ≤ remaining := by
  -- on what remains to be copied, which gets less with each piece that is not empty
  induction remaining using Nat.strongRecOn generalizing position start readPlan t with
  | ind remaining ih =>
      unfold copyFrom
      split
      · rename_i hremaining
        subst hremaining
        refine .pure ⟨?_, ⟨readPlan, ?_⟩, by simp, by simp⟩
        · rw [ending, if_pos (Nat.zero_le _)]
        · rw [List.take_zero, List.append_nil, ht]
      rename_i hremaining
      refine (yields_piece hprovides hremaining hlimit hstart ht).bind ?_ ?_
      · rintro piece cs t' ⟨⟨k, hpos, hk, hr⟩, ⟨readPlan', ht'⟩, hwithin, hone⟩
        have hpart : piece = (bytes.drop position).take k := Except.ok.inj hr
        have hsize : piece.length = min k (bytes.length - position) := by
          rw [hpart, List.length_take, List.length_drop]
        split
        · -- the end of the file
          have hend : bytes.length - position = 0 := by omega
          have hnothing : bytes.drop position = [] := List.drop_eq_nil_of_le (by omega)
          refine .fail ⟨?_, ⟨readPlan', ?_⟩, ?_⟩
          · rw [hend, ending, if_neg (by omega), Nat.add_zero]
          · rw [hnothing, List.take_nil, List.append_nil, ht']
          · rw [List.append_nil, hone]
            exact ⟨hwithin, Nat.pos_of_ne_zero hremaining⟩
        · rename_i hsome
          refine (yields_appendFile htarget piece ht').bind ?_ ?_
          · rintro _ _ t'' ⟨rfl, ht'', -⟩
            have hbytes : bytes ≠ [] := by
              rintro rfl
              simp [hpart] at hsome
            refine (ih _ (by omega) (by omega) (by omega) (absurd · hbytes) ht'').mono ?_
            rintro r cs' t₃ ⟨hr, ⟨readPlan'', ht₃⟩, hcs, hreads⟩
            refine ⟨?_, ⟨readPlan'', ?_⟩, ?_, ?_⟩
            · rw [hr, Nat.sub_add_eq, ending_after hlength (by omega) (by omega)]
            · rw [ht₃, take_drop_eq_append hpart (by omega), List.append_assoc]
            · simp only [List.mem_append, List.mem_singleton]
              rintro c (hc | rfl | hc)
              · exact hwithin c hc
              · exact nofun
              · exact (hcs c hc).widen (by omega) (by omega)
            · rw [List.countP_append, List.countP_append, List.countP_singleton, hone]
              change 1 + (0 + cs'.countP (·.effect.isRead)) ≤ remaining
              omega
          · rintro _ _ _ ⟨-, -, ⟨⟩⟩
      · rintro _ _ _ ⟨⟨_, _, _, ⟨⟩⟩, -⟩

/-- The copy of a member, once it has been made. -/
theorem yields_copyRange_of_provides (htarget : m.disk.IsTarget path l)
    (hprovides : Provides m l (Disk.executableAt m.disk.tree l) source bytes) {offset length : Nat}
    (hlimit : offset + length < Machine.positionLimit) {t : Traced (Machine L)}
    (ht : t.world = m) :
    (copyRange source offset length path).Yields t fun r cs t' =>
      r = ending length length (bytes.length - offset) ∧
      (∃ readPlan, t'.world = m.withFile l ((bytes.drop offset).take length)
        (Disk.executableAt m.disk.tree l) readPlan) ∧
      (∀ c ∈ cs, c.ReadsWithin source offset length) ∧
      cs.countP (·.effect.isRead) ≤ length := by
  refine (yields_createFile htarget ht).bind ?_ ?_
  · rintro _ _ t' ⟨rfl, ht', -⟩
    refine (yields_copyFrom_of_provides htarget hprovides (Nat.le_refl length) hlimit
      (fun _ => rfl) ht').mono ?_
    rintro r cs t'' ⟨hr, ⟨readPlan, ht''⟩, hcs, hreads⟩
    refine ⟨hr, ⟨readPlan, ht''⟩, ?_, ?_⟩
    · simp only [List.mem_append, List.mem_singleton]
      rintro c (rfl | hc)
      · exact nofun
      · exact hcs c hc
    · rw [List.countP_append, List.countP_singleton]
      change 0 + cs.countP (·.effect.isRead) ≤ length
      omega
  · rintro _ _ _ ⟨-, -, ⟨⟩⟩

/-- **The copy holds the bytes of the member**, and nothing depends on the reads.  Let an open file
have some bytes, which are none if the member is copied over the file itself.  If the member is
within them, then it is copied, and otherwise the message says how many of its bytes there are.  In
either case the copy holds the bytes of the member, as far as there are any, whatever was there
before, and nothing else has changed.  All reads are within the member, and there are not more of
them than it has bytes.  With other interruptions and other lengths of the reads, the result and the
disk are the same. -/
theorem copies_exactly_the_member {t : Traced (Machine L)} {before : Bytes}
    (hsource : t.world.node source = .ok (.file before executable))
    (htarget : t.world.disk.IsTarget path l) {offset length : Nat}
    (hlimit : offset + length < Machine.positionLimit) :
    let bytes := if t.world.opened.lookup source = some l then [] else before
    let copy := (bytes.drop offset).take length
    (copyRange source offset length path).Yields t (fun r cs t' =>
      (r = .ok () ↔ length = 0 ∨ offset + length ≤ bytes.length) ∧
      (r ≠ .ok () → ∃ failure, r = .error failure ∧
        failure.message = "Archive member ends after " ++ toString (bytes.length - offset) ++
          " of " ++ toString length ++ " bytes") ∧
      t'.world.disk.read path = .ok copy ∧
      (∃ readPlan, t'.world = { t.world with
        disk := t.world.disk.put l (.file copy (Disk.executableAt t.world.disk.tree l))
        readPlan }) ∧
      (∀ c ∈ cs, c.ReadsWithin source offset length) ∧
      cs.countP (·.effect.isRead) ≤ length ∧
      attempts source offset length path t.world = (r, t'.world)) ∧
    ∀ readPlan,
      let t' : Traced (Machine L) := { t with world := { t.world with readPlan } }
      let copying := copyRange source offset length path t
      let copying' := copyRange source offset length path t'
      copying'.1 = copying.1 ∧ copying'.2.world.disk = copying.2.world.disk := by
  intro bytes copy
  obtain ⟨cs, hext, hr, ⟨readPlan, ht'⟩, hcs, hreads⟩ :=
    yields_copyRange_of_provides htarget (provides_of_file hsource htarget.isOpen) hlimit rfl
  obtain ⟨hok, hfailed⟩ := ending_whole length (bytes.length - offset)
  refine ⟨⟨cs, hext, ?_, ?_, ?_, ⟨readPlan, ht'⟩, hcs, hreads, ?_⟩, ?_⟩
  · rw [hr, hok]
    omega
  · rw [hr]
    exact hfailed
  · rw [ht']
    exact htarget.read_put copy _
  · rw [attempts_eq_copyRange]
    exact projects_copyRange Traced.respects_world source offset length path t
  · -- the same expressions, which no plan for reads occurs in
    intro readPlan' t' copying copying'
    obtain ⟨-, -, hr', ⟨_, ht''⟩, -⟩ := yields_copyRange_of_provides
      (show t'.world.disk.IsTarget path l from htarget)
      (provides_of_file hsource htarget.isOpen) hlimit rfl
    refine ⟨hr'.trans hr.symm, ?_⟩
    rw [ht', ht'']
    rfl

/-- A machine on which a file of five bytes is open, and on which the first reads are interrupted
or short.  There is another file `/b`. -/
def haltingMachine : Machine ScriptedLinker where
  disk := ⟨⟨[([[97]], .file [1, 2, 3, 4, 5] false), ([[98]], .file [9, 9, 9, 9] true)]⟩, []⟩
  opened := [(3, [[97]])]
  readPlan := [.interrupted, .atMost 0, .interrupted, .interrupted, .atMost 1]
  launcher disk _ _ := (.error .noEntry, disk)
  linker := {}
  journal := { subscriber := .nobody }

/-- The machine before any call. -/
def halting : Traced (Machine ScriptedLinker) := ⟨haltingMachine, []⟩

theorem copies_exactly_the_member_sample :
    (copyRange 3 1 4 [47, 98]).Yields halting (fun r _ t' =>
      r = .ok () ∧ t'.world.disk.read [47, 98] = .ok [2, 3, 4, 5]) ∧
    (copyRange 3 4 2 [47, 98]).Yields halting (fun r _ t' =>
      (∃ failure, r = .error failure ∧
        failure.message = "Archive member ends after 1 of 2 bytes") ∧
      t'.world.disk.read [47, 98] = .ok [5]) := by
  have hsource : halting.world.node 3 = .ok (.file [1, 2, 3, 4, 5] false) := rfl
  have htarget : halting.world.disk.IsTarget [47, 98] [[98]] := ⟨rfl, rfl, rfl⟩
  constructor
  · refine (copies_exactly_the_member hsource htarget (by decide)).1.mono ?_
    rintro r cs t' ⟨hok, -, hread, -⟩
    exact ⟨hok.2 (by decide), hread⟩
  · refine (copies_exactly_the_member hsource htarget (by decide)).1.mono ?_
    rintro r cs t' ⟨hok, hfailed, hread, -⟩
    have hends : r ≠ .ok () := by
      rw [Ne, hok]
      decide
    exact ⟨hfailed hends, hread⟩

end Extraction

end LtoBridge
