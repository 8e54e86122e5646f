/-
**Copies of archive members.**

On a machine, a member is copied piece by piece, however short the answers to the reads are.  The
copy grows by the bytes that were read, at the place where they were read, and nothing else on the
machine changes.  Reading the symbol table of the copy afterwards changes nothing either.

Main definitions:

* `LtoBridge.Machine.HasBytes`: the bytes of an open file from a position on;
* `LtoBridge.Extraction.Copied`: how far the copying of some bytes got;
* `LtoBridge.Claim.tableIn`: the symbol table in some contents.

Main results:

* `LtoBridge.Extraction.yields_copyFrom`: **one piece after the other is added to the copy**;
* `LtoBridge.Extraction.yields_copyRange`: the copy holds the bytes of the member;
* `LtoBridge.Claim.yields_loadCopy_machine`: what is read is the table in the copy.
-/

import LtoBridge.Proofs.Files.Written
import LtoBridge.Proofs.Session.Claiming

set_option autoImplicit false

namespace LtoBridge

namespace Disk

/-! ### Parts of a file -/

/-- What can be read has an end, unless it is zeros without end. -/
theorem part_eq_or (n : Node) :
    (∀ position count, part n position count = .ok (List.replicate count 0)) ∨
      ∀ position count,
        part n position count = (contents n).map fun bytes => (bytes.drop position).take count := by
  cases n with
  | device device =>
      cases device with
      | null => exact .inr fun _ _ => rfl
      | _ => exact .inl fun _ _ => rfl
  | _ => exact .inr fun _ _ => rfl

section

variable {n : Node} {position count : Nat} {bytes bytes' : Bytes}

theorem length_part_le (h : part n position count = .ok bytes) : bytes.length ≤ count := by
  obtain hzeros | hpart := part_eq_or n
  · rw [hzeros] at h
    cases h
    simp
  · rw [hpart] at h
    obtain ⟨file, -, rfl⟩ := exists_of_map_eq_ok h
    exact List.length_take_le ..

/-- A part that came out shorter is the part of its own length. -/
theorem part_length (h : part n position count = .ok bytes) :
    part n position bytes.length = .ok bytes := by
  obtain hzeros | hpart := part_eq_or n
  · rw [hzeros] at h ⊢
    cases h
    simp
  · rw [hpart] at h ⊢
    obtain ⟨file, hcontents, rfl⟩ := exists_of_map_eq_ok h
    simp [hcontents, Except.map, List.take_eq_take_iff]

/-- One part after the other. -/
theorem part_append (h : part n position bytes.length = .ok bytes)
    (h' : part n (position + bytes.length) bytes'.length = .ok bytes') :
    part n position (bytes ++ bytes').length = .ok (bytes ++ bytes') := by
  obtain hzeros | hpart := part_eq_or n
  · rw [hzeros] at h h' ⊢
    rw [List.length_append, ← List.replicate_append_replicate, Except.ok.inj h, Except.ok.inj h']
  · rw [hpart] at h h' ⊢
    obtain ⟨file, hcontents, hbytes⟩ := exists_of_map_eq_ok h
    rw [hcontents] at h' ⊢
    have hbytes' : (file.drop (position + bytes.length)).take bytes'.length = bytes' :=
      Except.ok.inj h'
    rw [Except.map, List.length_append, List.take_add, hbytes, List.drop_drop, hbytes']

end

end Disk

namespace Machine

variable {L : Type}

/-! ### Reads -/

/-- A read changes nothing but what is planned for the next ones. -/
theorem readAt_snd (m : Machine L) (file : Descriptor) (position count : Nat) :
    (m.readAt file position count).2 = { m with readPlan := (nextRead m.readPlan).2 } := rfl

/-- Nothing is read beyond the bound for positions. -/
theorem lt_positionLimit_of_readAt {m : Machine L} {file : Descriptor} {position count : Nat}
    {bytes : Bytes} (h : (m.readAt file position count).1 = .ok bytes) :
    position + count < positionLimit := by
  refine Nat.lt_of_not_le fun hlimit => ?_
  simp only [readAt] at h
  split at h
  · cases h
  · obtain ⟨n, -, hn⟩ := exists_of_bind_eq_ok h
    cases hn

/-- What is read is a part of the file, which may be shorter than asked for, but not empty. -/
theorem readAt_fst (m : Machine L) (file : Descriptor) {position count : Nat}
    (hlimit : position + count < positionLimit) :
    ∃ k ≤ count, (0 < count → 0 < k) ∧
      (m.readAt file position count).1 = (m.node file).bind (Disk.part · position k) := by
  have hposition : ¬ position ≥ positionLimit := by omega
  have hend : ¬ position + count ≥ positionLimit := by omega
  unfold readAt
  simp only [hposition, hend, if_false]
  cases (nextRead m.readPlan).1 with
  | none => exact ⟨count, Nat.le_refl _, id, rfl⟩
  | some n => exact ⟨min count (n + 1), Nat.min_le_left .., fun h => by omega, rfl⟩

/-- Of a file that is long enough, nothing but its own bytes is mapped. -/
theorem mapped_of_le_length (behind : Nat → UInt8) {contents : Bytes} {size : Nat}
    (hsize : size ≤ contents.length) : mapped behind contents size = contents.take size := by
  rw [mapped, Nat.sub_eq_zero_of_le hsize]
  simp

/-- The first bytes of a file can be mapped, unless that is far too much. -/
theorem mapFile_of_file {m : Machine L} {file : Descriptor} {size : Nat} {contents : Bytes}
    {executable : Bool} (hnode : m.node file = .ok (.file contents executable))
    (hsize : size ≤ contents.length) :
    (size < mapLimit → m.mapFile file size = .ok (contents.take size)) ∧
      (mapLimit ≤ size → ∃ error, m.mapFile file size = .error error) := by
  have hlimit : mapLimit < positionLimit := by decide
  unfold mapFile
  rw [hnode]
  refine ⟨fun hsmall => ?_, fun hlarge => ?_⟩
  · rw [if_neg (by omega)]
    simp only [bind, Except.bind, if_neg (Nat.not_le.2 hsmall), mapped_of_le_length _ hsize]
  · split
    · exact ⟨_, rfl⟩
    · simp only [bind, Except.bind]
      exact ⟨_, rfl⟩

/-- What has been mapped of a file are its first bytes, some, but not far too many. -/
theorem eq_of_mapFile {m : Machine L} {file : Descriptor} {size : Nat} {mapped contents : Bytes}
    {executable : Bool} (h : m.mapFile file size = .ok mapped)
    (hnode : m.node file = .ok (.file contents executable)) (hlength : size ≤ contents.length)
    (hsize : size ≠ 0) :
    mapped = contents.take size ∧ ¬ (mapped = [] ∨ mapped.length ≥ mapLimit) := by
  obtain ⟨hsmall, hlarge⟩ := mapFile_of_file hnode hlength
  have hlimit : size < mapLimit := by
    refine Nat.lt_of_not_le fun hlimit => ?_
    obtain ⟨error, herror⟩ := hlarge hlimit
    cases h.symm.trans herror
  obtain rfl := Except.ok.inj (h.symm.trans (hsmall hlimit))
  refine ⟨rfl, ?_⟩
  rw [← List.length_eq_zero_iff, List.length_take_of_le hlength]
  omega

/-- The next free number is larger than all those in use. -/
theorem lt_freeDescriptor (m : Machine L) : ∀ entry ∈ m.opened, entry.1 < m.freeDescriptor := by
  have hmax : ∀ (numbers : List Int) (start : Int),
      start ≤ numbers.foldl max start ∧ ∀ n ∈ numbers, n ≤ numbers.foldl max start := by
    intro numbers
    induction numbers with
    | nil => simp
    | cons n numbers ih =>
        intro start
        obtain ⟨hstart, hnumbers⟩ := ih (max start n)
        simp only [List.foldl_cons, List.mem_cons, forall_eq_or_imp]
        exact ⟨by omega, by omega, hnumbers⟩
  intro entry hentry
  exact Int.lt_add_one_of_le ((hmax (m.opened.map (·.1)) 2).2 _ (List.mem_map_of_mem hentry))

/-- The machine with one more open file, under the next free number. -/
def opening (m : Machine L) (l : Location) : Machine L :=
  { m with opened := (m.freeDescriptor, l) :: m.opened }

theorem node_opening (m : Machine L) (l : Location) :
    (m.opening l).node m.freeDescriptor = .ok ((m.disk.tree.get? l).getD (.file [] false)) := by
  simp [node, opening]

/-- A file that is closed again leaves no trace. -/
theorem closeFile_opening (m : Machine L) (l : Location) :
    (m.opening l).closeFile m.freeDescriptor = m := by
  have hkept : m.opened.filter (·.1 != m.freeDescriptor) = m.opened := by
    rw [List.filter_eq_self]
    intro entry hentry
    have hlt := m.lt_freeDescriptor entry hentry
    simpa using Int.ne_of_lt hlt
  simp only [closeFile, opening]
  rw [List.filter_cons_of_neg (by simp), hkept]

/-- **The bytes are those of an open file** from a position on. -/
def HasBytes (m : Machine L) (file : Descriptor) (position : Nat) (bytes : Bytes) : Prop :=
  bytes ≠ [] → ∃ n, m.node file = .ok n ∧ Disk.part n position bytes.length = .ok bytes

/-- The bytes of a file. -/
theorem HasBytes.eq_of_file {m : Machine L} {file : Descriptor} {position : Nat}
    {bytes contents : Bytes} {executable : Bool} (h : m.HasBytes file position bytes)
    (hnode : m.node file = .ok (.file contents executable)) :
    (contents.drop position).take bytes.length = bytes := by
  by_cases hbytes : bytes = []
  · subst hbytes
    rfl
  · obtain ⟨n, hn, hpart⟩ := h hbytes
    obtain rfl := Except.ok.inj (hnode.symm.trans hn)
    exact Except.ok.inj hpart

theorem hasBytes_of_readAt {m : Machine L} {file : Descriptor} {position count : Nat}
    {bytes : Bytes} (h : (m.readAt file position count).1 = .ok bytes) :
    bytes.length ≤ count ∧ m.HasBytes file position bytes := by
  obtain ⟨k, hk, -, hread⟩ := m.readAt_fst file (lt_positionLimit_of_readAt h)
  rw [h] at hread
  obtain ⟨n, hnode, hpart⟩ := exists_of_bind_eq_ok hread.symm
  refine ⟨Nat.le_trans (Disk.length_part_le hpart) hk, fun _ => ?_⟩
  exact ⟨n, hnode, Disk.part_length hpart⟩

/-- **Some of the bytes of a file are read**, at least one of them if there is one. -/
theorem readAt_of_file {m : Machine L} {file : Descriptor} {position count : Nat} {contents : Bytes}
    {executable : Bool} (hnode : m.node file = .ok (.file contents executable))
    (hlimit : position + count < positionLimit) (hcount : 0 < count) :
    ∃ k, 0 < k ∧ k ≤ count ∧
      (m.readAt file position count).1 = .ok ((contents.drop position).take k) := by
  obtain ⟨k, hk, hpos, hread⟩ := m.readAt_fst file hlimit
  refine ⟨k, hpos hcount, hk, ?_⟩
  rw [hread, hnode]
  rfl

/-- Something is read of a file, unless its end has been reached. -/
theorem exists_readAt {m : Machine L} {file : Descriptor} {position count : Nat} {contents : Bytes}
    {executable : Bool} (hnode : m.node file = .ok (.file contents executable))
    (hend : position + count ≤ contents.length) (hlimit : position + count < positionLimit)
    (hcount : 0 < count) : ∃ bytes ≠ [], (m.readAt file position count).1 = .ok bytes := by
  obtain ⟨k, hpos, hk, hread⟩ := readAt_of_file hnode hlimit hcount
  refine ⟨_, ?_, hread⟩
  rw [← List.length_pos_iff, List.length_take, List.length_drop]
  omega

theorem HasBytes.append {m : Machine L} {file : Descriptor} {position : Nat} {bytes bytes' : Bytes}
    (h : m.HasBytes file position bytes) (h' : m.HasBytes file (position + bytes.length) bytes') :
    m.HasBytes file position (bytes ++ bytes') := by
  intro hne
  by_cases hbytes : bytes = []
  · subst hbytes
    exact h' hne
  by_cases hbytes' : bytes' = []
  · subst hbytes'
    simpa using h hbytes
  obtain ⟨n, hnode, hpart⟩ := h hbytes
  obtain ⟨n', hnode', hpart'⟩ := h' hbytes'
  obtain rfl : n' = n := by
    rw [hnode] at hnode'
    exact (Except.ok.inj hnode').symm
  exact ⟨n', hnode, Disk.part_append hpart hpart'⟩

/-- The machine with a file at a location, and with other plans for reads. -/
def withFile (m : Machine L) (l : Location) (contents : Bytes) (executable : Bool)
    (readPlan : List ReadStep) : Machine L :=
  { m with disk := m.disk.put l (.file contents executable), readPlan }

/-- What is open elsewhere does not change. -/
theorem node_withFile {m : Machine L} {l : Location} {file : Descriptor}
    (hl : Disk.isOpenTo m.disk.tree l) (hfile : m.opened.lookup file ≠ some l) (contents : Bytes)
    (executable : Bool) (readPlan : List ReadStep) :
    (m.withFile l contents executable readPlan).node file = m.node file := by
  unfold node withFile
  cases hopened : m.opened.lookup file with
  | none => rfl
  | some l' =>
      have hne : l' ≠ l := by
        rintro rfl
        exact hfile hopened
      simp only [Disk.get?_put_of_ne hl _ hne]

end Machine

namespace Extraction

variable {L : Type} [Linker L]

/-! ### Copying -/

/-- **How far the copying got**: if it came to its end, the bytes that were copied are those of the
member, and it does come to its end if the member is within a file. -/
structure Copied (m : Machine L) (source : Descriptor) (position length : Nat) (bytes : Bytes)
    (r : Except Failure Unit) : Prop where
  hasBytes : r = .ok () → bytes.length = length ∧ m.HasBytes source position bytes
  complete : ∀ contents executable, m.node source = .ok (.file contents executable) →
    position + length ≤ contents.length → position + length < Machine.positionLimit → r = .ok ()

omit [Linker L] in
/-- A piece that was copied before counts as well. -/
theorem Copied.prepend {m : Machine L} {source : Descriptor} {position length : Nat}
    {piece bytes : Bytes} {r : Except Failure Unit}
    (h : Copied m source (position + piece.length) (length - piece.length) bytes r)
    (hpiece : m.HasBytes source position piece) (hlength : piece.length ≤ length) :
    Copied m source position length (piece ++ bytes) r := by
  refine ⟨fun hr => ?_, fun contents executable hnode hend hlimit => ?_⟩
  · obtain ⟨hbytes, hlater⟩ := h.hasBytes hr
    exact ⟨by rw [List.length_append]; omega, hpiece.append hlater⟩
  · exact h.complete contents executable hnode (by omega) (by omega)

/-- The copy at a location, as far as it got. -/
def Copies (m : Machine L) (l : Location) (executable : Bool) (start : Bytes)
    (source : Descriptor) (position length : Nat) (r : Except Failure Unit)
    (cs : List (Call (Machine L))) (t : Traced (Machine L)) : Prop :=
  (∀ c ∈ cs, c.effect.IsOwn) ∧ ∃ bytes readPlan,
    t.world = m.withFile l (start ++ bytes) executable readPlan ∧
    (m.opened.lookup source ≠ some l → Copied m source position length bytes r)

section

variable {m : Machine L} {l : Location} {executable : Bool} {start : Bytes} {source : Descriptor}
  {path : Path} {position length : Nat}

omit [Linker L] in
/-- Nothing more was copied. -/
theorem Copies.of_failed {e : Failure} {cs : List (Call (Machine L))} {t : Traced (Machine L)}
    {readPlan : List ReadStep} (hcs : ∀ c ∈ cs, c.effect.IsOwn)
    (ht : t.world = m.withFile l start executable readPlan)
    (hfile : m.opened.lookup source ≠ some l → ∀ contents executable,
      m.node source = .ok (.file contents executable) → position + length ≤ contents.length →
        ¬ position + length < Machine.positionLimit) :
    Copies m l executable start source position length (.error e) cs t := by
  refine ⟨hcs, [], readPlan, by rw [List.append_nil, ht], fun hsource => ⟨nofun, ?_⟩⟩
  intro contents executable hnode hend hlimit
  exact absurd hlimit (hfile hsource contents executable hnode hend)

/-- A piece of an open file is read. -/
theorem yields_readAt (count : Nat) {readPlan : List ReadStep} {t : Traced (Machine L)}
    (ht : t.world = m.withFile l start executable readPlan) :
    ((Act.ofOs (Platform.readAt source position count)).within .readingMember).Yields t
      fun r cs t' => cs = [⟨.readAt source position count, t.world⟩] ∧
        (∃ readPlan', t'.world = m.withFile l start executable readPlan') ∧
        ∀ piece, (t.world.readAt source position count).1 = .ok piece ↔ r = .ok piece := by
  refine Act.yields_within_iff.2 (.ofOs rfl ⟨rfl, ⟨(Machine.nextRead readPlan).2, ?_⟩, ?_⟩)
  · change (t.world.readAt source position count).2 = _
    rw [Machine.readAt_snd, ht]
    rfl
  · intro piece
    change _ ↔ whileDoing _ ((t.world.readAt source position count).1.mapError _) = _
    cases (t.world.readAt source position count).1 with
    | error error => exact ⟨nofun, nofun⟩
    | ok piece' =>
        constructor
        · rintro ⟨⟩
          rfl
        · rintro ⟨⟩
          rfl

/-- A piece is added to the copy, which cannot fail. -/
theorem yields_appendFile (htarget : m.disk.IsTarget path l) (piece : Bytes)
    {readPlan : List ReadStep} {t : Traced (Machine L)}
    (ht : t.world = m.withFile l start executable readPlan) :
    ((Act.ofOs (Platform.appendFile path piece)).within (.writing path)).Yields t
      fun r cs t' => cs = [⟨.appendFile path piece, t.world⟩] ∧
        t'.world = m.withFile l (start ++ piece) executable readPlan ∧ r = .ok () := by
  have happend : t.world.disk.append path piece =
      .ok (m.disk.put l (.file (start ++ piece) executable)) := by
    rw [ht]
    exact htarget.append_put start piece executable
  have hdisk : Machine.onDisk (·.append path piece) t.world =
      (.ok (), m.withFile l (start ++ piece) executable readPlan) := by
    simp only [Machine.onDisk, happend]
    rw [ht]
    rfl
  refine Act.yields_within_iff.2 (.ofOs rfl ⟨rfl, congrArg Prod.snd hdisk, ?_⟩)
  change whileDoing _ ((Machine.onDisk (·.append path piece) t.world).1.mapError _) = _
  rw [hdisk]
  rfl

/-- The copy is made, or made empty, which cannot fail either. -/
theorem yields_createFile (htarget : m.disk.IsTarget path l) {t : Traced (Machine L)}
    (ht : t.world = m) :
    ((Act.ofOs (Platform.createFile path)).within (.creating path)).Yields t
      fun r cs t' => cs = [⟨.createFile path, m⟩] ∧
        t'.world = m.withFile l [] (Disk.executableAt m.disk.tree l) m.readPlan ∧ r = .ok () := by
  subst ht
  have hcreated : Machine.onDisk (·.create path) t.world = (.ok (), t.world.withFile l []
      (Disk.executableAt t.world.disk.tree l) t.world.readPlan) := by
    simp only [Machine.onDisk, htarget.create_eq]
    rfl
  refine Act.yields_within_iff.2 (.ofOs rfl ⟨rfl, congrArg Prod.snd hcreated, ?_⟩)
  change whileDoing _ ((Machine.onDisk (·.create path) t.world).1.mapError _) = _
  rw [hcreated]
  rfl

/-- **One piece after the other is added to the copy.** -/
theorem yields_copyFrom (hspot : m.disk.IsSpot path l) (total remaining : Nat)
    {readPlan : List ReadStep} {t : Traced (Machine L)}
    (ht : t.world = m.withFile l start executable readPlan) :
    (copyFrom source path total position remaining).Yields t
      (Copies m l executable start source position remaining) := by
  -- on what remains to be copied, which gets less with each piece, since no piece is empty
  induction remaining using Nat.strongRecOn generalizing position start readPlan t with
  | ind remaining ih =>
      unfold copyFrom
      split
      · rename_i hremaining
        subst hremaining
        refine .pure ⟨by simp, [], readPlan, by rw [List.append_nil, ht], fun _ => ⟨?_, ?_⟩⟩
        · exact fun _ => ⟨rfl, fun h => absurd rfl h⟩
        · exact fun _ _ _ _ _ => rfl
      rename_i hremaining
      let count := min remaining chunkSize
      have hcount : 0 < count ∧ count ≤ remaining :=
        ⟨Nat.lt_min.2 ⟨by omega, by decide⟩, Nat.min_le_left ..⟩
      -- within a file, something is read
      have hread : m.opened.lookup source ≠ some l → ∀ contents executable,
          m.node source = .ok (.file contents executable) →
          position + remaining ≤ contents.length → position + remaining < Machine.positionLimit →
          ∃ bytes ≠ [], (t.world.readAt source position count).1 = .ok bytes := by
        intro hsource contents executable' hnode hend hlimit
        have hnode' : t.world.node source = .ok (.file contents executable') := by
          rw [ht, Machine.node_withFile hspot.isOpen hsource, hnode]
        exact Machine.exists_readAt hnode' (by omega) (by omega) hcount.1
      refine (yields_readAt count ht).bind ?_ ?_
      · rintro piece cs t' ⟨rfl, ⟨readPlan', ht'⟩, hpiece⟩
        split
        · rename_i hempty
          refine .fail (.of_failed (by simp; rfl) ht' ?_)
          intro hsource contents _ hnode hend hlimit
          obtain ⟨bytes, hbytes, hok⟩ := hread hsource contents _ hnode hend hlimit
          obtain rfl := Except.ok.inj ((hpiece bytes).1 hok)
          exact hbytes (List.length_eq_zero_iff.1 hempty)
        · rename_i hpiece'
          refine (yields_appendFile hspot.isTarget piece ht').bind ?_ ?_
          · rintro _ cs' t'' ⟨rfl, ht'', -⟩
            obtain ⟨hlength, hbytes⟩ := Machine.hasBytes_of_readAt ((hpiece piece).2 rfl)
            refine (ih (remaining - piece.length) (by omega) ht'').mono ?_
            rintro r cs'' t₃ ⟨hcs'', bytes, readPlan'', ht₃, hcopied⟩
            refine ⟨?_, piece ++ bytes, readPlan'', by rw [ht₃, List.append_assoc], ?_⟩
            · simp only [List.mem_append, List.mem_singleton]
              rintro c (rfl | rfl | hc)
              · rfl
              · rfl
              · exact hcs'' c hc
            · intro hsource
              refine (hcopied hsource).prepend (fun hne => ?_) (by omega)
              obtain ⟨n, hnode, hpart⟩ := hbytes hne
              rw [ht, Machine.node_withFile hspot.isOpen hsource] at hnode
              exact ⟨n, hnode, hpart⟩
          · rintro _ _ _ ⟨-, -, ⟨⟩⟩
      · rintro e cs t' ⟨rfl, ⟨readPlan', ht'⟩, he⟩
        refine .of_failed (by simp; rfl) ht' fun hsource contents _ hnode hend hlimit => ?_
        obtain ⟨bytes, -, hok⟩ := hread hsource contents _ hnode hend hlimit
        cases (he bytes).1 hok

/-- **The copy holds the bytes of the member**, if the copying came to its end. -/
theorem yields_copyRange (hspot : m.disk.IsSpot path l) {t : Traced (Machine L)}
    (ht : t.world = m) :
    (copyRange source position length path).Yields t
      (Copies m l (Disk.executableAt m.disk.tree l) [] source position length) := by
  refine (yields_createFile hspot.isTarget ht).bind ?_ ?_
  · rintro _ cs t' ⟨rfl, ht', -⟩
    refine (yields_copyFrom hspot length length ht').mono ?_
    rintro r cs' t'' ⟨hcs', hbytes⟩
    refine ⟨?_, hbytes⟩
    simp only [List.mem_append, List.mem_singleton]
    rintro c (rfl | hc)
    · rfl
    · exact hcs' c hc
  · rintro _ _ _ ⟨-, -, ⟨⟩⟩

/-- No copy is made under a name that leads nowhere. -/
theorem yields_copyRange_of_not_located {t : Traced (Machine L)}
    (hpath : ∀ l, t.world.disk.locate path ≠ .ok l) :
    (copyRange source position length path).Yields t fun r cs t' =>
      r.isOk = false ∧ t'.world = t.world ∧ (∀ c ∈ cs, c.effect.IsOwn) ∧
        ∃ c ∈ cs, c.effect = .createFile path ∧ c.succeeded = false := by
  cases hresult : t.world.disk.create path with
  | ok disk =>
      obtain ⟨-, l, hl⟩ := Disk.locate_of_create hresult
      exact absurd hl (hpath l)
  | error error =>
      have hcreated : Machine.onDisk (·.create path) t.world = (.error error, t.world) := by
        simp only [Machine.onDisk, hresult]
      have hcreate : ((Act.ofOs (Platform.createFile path)).within (.creating path)).Yields t
          fun r cs t' => r.isOk = false ∧ t'.world = t.world ∧ (∀ c ∈ cs, c.effect.IsOwn) ∧
            ∃ c ∈ cs, c.effect = .createFile path ∧ c.succeeded = false := by
        refine Act.yields_within_iff.2
          (.ofOs rfl ⟨?_, congrArg Prod.snd hcreated, by simp; rfl, ?_⟩)
        · change (whileDoing _ ((Machine.onDisk (·.create path) t.world).1.mapError _)).isOk = _
          rw [hcreated]
          rfl
        · refine ⟨_, List.mem_singleton_self _, rfl, ?_⟩
          change (Machine.onDisk (·.create path) t.world).1.isOk = false
          rw [hcreated]
          rfl
      refine hcreate.bind ?_ fun _ _ _ h => ?_
      · rintro _ _ _ ⟨⟨⟩, -⟩
      · exact h

end

end Extraction

namespace Claim

variable {L : Type} [Linker L]

/-! ### Symbol tables -/

/-- What can be found in some contents: a symbol table, none, or a malformed one. -/
abbrev Finding := Except SymbolTable.Malformed (Option SymbolTable)

/-- How a finding is reported about a file. -/
def Finding.result (path : Path) (found : Finding) : Except Failure (Option SymbolTable) :=
  found.mapError fun fault => ⟨.malformedTable fault, [.symbolTable path]⟩

/-- **The symbol table in some contents.**  What cannot be mapped, because there is nothing or far
too much of it, counts as having none. -/
def tableIn (contents : Bytes) : Finding :=
  if contents = [] ∨ contents.length ≥ Machine.mapLimit then .ok none
  else match Elf.findSymbolTable? contents with
    | none => .ok none
    | some stored => (SymbolTable.decode stored).map some

section

variable {t : Traced (Machine L)}

/-- What reading a symbol table does: nothing but reports, and what was found is the result. -/
def Finds (path : Path) (t : Traced (Machine L)) (found : Finding → Prop)
    (r : Except Failure (Option SymbolTable)) (cs : List (Call (Machine L)))
    (t' : Traced (Machine L)) : Prop :=
  (∀ c ∈ cs, c.effect.IsOwn) ∧ (∃ journal, t'.world = { t.world with journal }) ∧
    ∃ f, found f ∧ r = f.result path

/-- What is found in a file that is mapped with its first bytes. -/
theorem yields_readSymbols_machine (span : Option Span) (file : Descriptor) (size : Nat)
    (path : Path) :
    (readSymbols span file size path).Yields t (Finds path t fun f =>
      ∀ contents executable, t.world.node file = .ok (.file contents executable) →
        size ≤ contents.length → f = tableIn (contents.take size)) := by
  unfold readSymbols
  split
  · rename_i hsize
    subst hsize
    refine .pure ⟨by simp, ⟨t.world.journal, rfl⟩, .ok none, ?_, rfl⟩
    intro contents _ _ _
    simp [tableIn]
  rename_i hsize
  refine Act.Yields.answer_bind rfl ?_
  cases hmap : (Platform.mapFile file size t.world).1 with
  | error error =>
      -- of a file that is long enough, only too much of it cannot be mapped
      refine Act.Yields.change_bind rfl (.pure ⟨?_, ⟨_, rfl⟩, .ok none, ?_, rfl⟩)
      · simpa using ⟨rfl, rfl⟩
      · intro contents executable hnode hlength
        have hlarge : Machine.mapLimit ≤ size := by
          refine Nat.le_of_not_lt fun hsmall => ?_
          cases hmap.symm.trans ((Machine.mapFile_of_file hnode hlength).1 hsmall)
        rw [tableIn, List.length_take_of_le hlength, if_pos (.inr hlarge)]
  | ok mapped =>
      have hown : ∀ c ∈ [(⟨.mapFile file size, t.world⟩ : Call (Machine L))],
          c.effect.IsOwn := by
        simp
        rfl
      dsimp only
      split
      · rename_i hnone
        refine .pure ⟨hown, ⟨t.world.journal, rfl⟩, .ok none, ?_, rfl⟩
        intro contents executable hnode hlength
        obtain ⟨rfl, hmapped⟩ := Machine.eq_of_mapFile hmap hnode hlength hsize
        rw [tableIn, if_neg hmapped, hnone]
      · rename_i stored hstored
        have hfound : ∀ contents executable, t.world.node file = .ok (.file contents executable) →
            size ≤ contents.length →
              (SymbolTable.decode stored).map some = tableIn (contents.take size) := by
          intro contents executable hnode hlength
          obtain ⟨rfl, hmapped⟩ := Machine.eq_of_mapFile hmap hnode hlength hsize
          rw [tableIn, if_neg hmapped, hstored]
        split
        · rename_i table hdecode
          rw [hdecode] at hfound
          exact .pure ⟨hown, ⟨t.world.journal, rfl⟩, .ok (some table), hfound, rfl⟩
        · rename_i fault hdecode
          rw [hdecode] at hfound
          exact Act.yields_within_iff.2
            (.fail ⟨hown, ⟨t.world.journal, rfl⟩, .error fault, hfound, rfl⟩)

/-- All of an open file is read, once its size has been asked for. -/
theorem yields_readAll_machine (span : Option Span) (path : Path) {file : Descriptor}
    {contents : Bytes} {executable : Bool}
    (hnode : t.world.node file = .ok (.file contents executable)) :
    Act.Yields (do
        let size ← Act.ofOs (Platform.fileSize file)
        readSymbols span file size path) t (Finds path t (· = tableIn contents)) := by
  have hsize : (Act.ofOs (Platform.fileSize (W := Traced (Machine L)) file)).Yields t
      fun r cs t' => (∀ c ∈ cs, c.effect.IsOwn) ∧ t'.world = t.world ∧
        r = .ok contents.length := by
    refine .ofOs rfl ⟨by simp; rfl, rfl, ?_⟩
    change (t.world.fileSize file).mapError _ = _
    rw [Machine.fileSize, hnode]
    rfl
  refine hsize.bind ?_ ?_
  · rintro _ cs t' ⟨hcs, ht', ⟨⟩⟩
    refine (yields_readSymbols_machine span file contents.length path).mono ?_
    rintro r cs' t'' ⟨hcs', ⟨journal, ht''⟩, found, hfound, hr⟩
    refine ⟨fun c hc => (List.mem_append.1 hc).elim (hcs c) (hcs' c), ⟨journal, by rw [ht'', ht']⟩,
      found, ?_, hr⟩
    rw [hfound contents executable (by rw [ht', hnode]) (Nat.le_refl _), List.take_length]
  · rintro _ _ _ ⟨-, -, ⟨⟩⟩

/-- **What is found in a copy is the table in its contents**, and the machine is as before. -/
theorem yields_loadCopy_machine (span : Option Span) {path : Path} {l : Location}
    {contents : Bytes} {executable : Bool} (hspot : t.world.disk.IsSpot path l)
    (hcopy : t.world.disk.tree.get? l = some (.file contents executable)) :
    (loadCopy span path).Yields t (Finds path t (· = tableIn contents)) := by
  let m := t.world
  let file := m.freeDescriptor
  have hopened : Platform.openFile path m = (.ok file, m.opening l) := by
    simp only [Platform.openFile, Machine.openFile, m,
      Disk.find_eq_ok hspot.locate hcopy hspot.separator]
    rfl
  have hopen : ((Act.ofOs (Platform.openFile (W := Traced (Machine L)) path)).within
      (.opening path)).Yields t fun r cs t' =>
        (∀ c ∈ cs, c.effect.IsOwn) ∧ t'.world = m.opening l ∧ r = .ok file := by
    refine Act.yields_within_iff.2 (.ofOs rfl ⟨by simp; rfl, congrArg Prod.snd hopened, ?_⟩)
    change whileDoing _ ((Platform.openFile path m).1.mapError _) = _
    rw [hopened]
    rfl
  refine hopen.bind ?_ ?_
  · rintro _ cs t' ⟨hcs, ht', ⟨⟩⟩
    have hnode : t'.world.node file = .ok (.file contents executable) := by
      rw [ht', Machine.node_opening, hcopy]
      rfl
    refine (yields_readAll_machine span path hnode).attempt_bind ?_
    rintro loaded cs' t'' ⟨hcs', ⟨journal, ht''⟩, found, hfound, hloaded⟩
    refine Act.Yields.change_bind rfl (.ofResult ⟨?_, ⟨journal, ?_⟩, found, hfound, hloaded⟩)
    · simp only [List.mem_append, List.mem_singleton]
      rintro c (hc | hc | rfl)
      · exact hcs c hc
      · exact hcs' c hc
      · rfl
    · change t''.world.closeFile file = _
      rw [ht'', ht']
      exact congrArg (fun m : Machine L => { m with journal }) (m.closeFile_opening l)
  · rintro _ _ _ ⟨-, -, ⟨⟩⟩

end

end Claim
end LtoBridge
