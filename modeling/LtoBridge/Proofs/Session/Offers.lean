/-
**What an offer depends on, and what it leaves.**

An offer is about some bytes, of a file or of a member of an archive.  What becomes of it depends on
nothing else: a member fares as a file would that holds the same bytes.  And an offer that is not
claimed leaves everything as it was, except that a copy whose making failed is still there.

Main definitions:

* `LtoBridge.Machine.Offers`: the bytes that an offer is about;
* `LtoBridge.Session.HasPlace`: the copy of an offered member can be made;
* `LtoBridge.Session.CameOut`: an offer came out as a judgement says.

Main results:

* `LtoBridge.Session.yields_claimFile_cameOut`: **an offer is judged by its bytes**;
* `LtoBridge.Session.members_fare_as_files`: offers of the same bytes come out alike;
* `LtoBridge.Session.unclaimed_leaves_all_but_partial_copies`: what is not claimed leaves nothing
  behind, unless its copy could not be made.
-/

import LtoBridge.Proofs.Session.KeptCopies

set_option autoImplicit false

namespace LtoBridge

variable {L : Type}

/-- **An offer is about some bytes**: they are in a file, from the place of the offer on.  No file
has more bytes than there are positions. -/
def Machine.Offers (m : Machine L) (input : InputFile) (bytes : Bytes) : Prop :=
  ∃ contents executable, m.node input.file = .ok (.file contents executable) ∧
    input.offset + input.size ≤ contents.length ∧ contents.length < Machine.positionLimit ∧
    (contents.drop input.offset).take input.size = bytes

namespace Session

variable {path : Path} {directory : Location}

/-! ### Offers and judgements -/

/-- **The copy of an offered member can be made**: it can be counted, and if its name leads
anywhere, then to a spot for a file, which is not that of the archive. -/
structure HasPlace (path : Path) (s : Live (Traced (Machine L))) (input : InputFile) : Prop where
  directory : s.session.temporaryDirectory = some path
  counted : s.session.copied < copyLimit
  spot : input.isMember = true → ∀ l,
    s.world.world.disk.locate (Claim.memberPath path s.session.copied) = .ok l →
      s.world.world.disk.IsSpot (Claim.memberPath path s.session.copied) l ∧
        s.world.world.opened.lookup input.file ≠ some l

/-- The session once a number has been used for the copy of a member. -/
def counting (session : Session) (input : InputFile) : Session :=
  if input.isMember then copiedOne session else session

/-- **An offer came out as a judgement says.** -/
structure CameOut (j : Judgement L) (session : Session) (input : InputFile)
    (r : Except Failure Bool) (cs : List (Call (Machine L))) (s' : Live (Traced (Machine L))) :
    Prop where
  result : r = j.verdict.result input.path (keptPath session input)
  heard : heard cs = j.asked
  linker : s'.world.world.linker = j.linker
  session : s'.session = j.verdict.enter (session.counting input) input (keptPath session input)

theorem Decided.cameOut {j : Judgement L} {session session' : Session} {input : InputFile}
    {kept : Path} {m : Machine L} {unclaimed : Disk} {r : Except Failure Bool}
    {cs : List (Call (Machine L))} {s' : Live (Traced (Machine L))}
    (h : Decided input kept j session' m unclaimed r cs s') (hkept : keptPath session input = kept)
    (hsession : session.counting input = session') : CameOut j session input r cs s' := by
  obtain ⟨hr, hcs, hs', journal, hw'⟩ := h
  subst hkept hsession
  exact ⟨hr, hcs, by rw [hw'], hs'⟩

/-- The copy of an offered member was created, if one was to be. -/
def CopyCreated (session : Session) (input : InputFile) [Linker L] (cs : List (Call (Machine L))) :
    Prop :=
  ∀ c ∈ cs, c.effect = .createFile (keptPath session input) → c.succeeded = true

variable [Linker L] {s s' : Live (Traced (Machine L))} {input input' : InputFile} {bytes : Bytes}

/-- **An offer is judged by its bytes.** -/
theorem yields_claimFile_cameOut (hplace : HasPlace path s input)
    (hoffers : s.world.world.Offers input bytes) :
    (claimFile input).Yields s fun r cs s' => CopyCreated s.session input cs →
      CameOut (judge input.handle s.world.world.linker (Claim.tableIn bytes)) s.session input r cs
        s' := by
  obtain ⟨contents, executable, hnode, hend, hlimit, rfl⟩ := hoffers
  cases hmember : input.isMember with
  | false =>
      have hlive : s.session.temporaryDirectory.isSome = true := by
        rw [hplace.directory]
        rfl
      refine (yields_claimFile_of_file hmember hlive).mono ?_
      rintro r cs s' ⟨found, hfound, hdecided⟩ -
      have hoffset : input.offset = 0 := by simpa [InputFile.isMember] using hmember
      rw [hoffset, Nat.zero_add] at hend
      obtain rfl := hfound contents executable hnode hend
      rw [hoffset]
      exact hdecided.cameOut (by simp [keptPath, hmember]) (by simp [counting, hmember])
  | true =>
      by_cases hlocated : ∃ l, s.world.world.disk.locate
          (Claim.memberPath path s.session.copied) = .ok l
      · obtain ⟨l, hl⟩ := hlocated
        obtain ⟨hspot, hsource⟩ := hplace.spot hmember l hl
        refine (yields_claimFile_of_member hmember hplace.directory hspot).mono ?_
        rintro r cs s' (hstuck | ⟨copied, m, ⟨readPlan, rfl⟩, hcopied, hdecided⟩) -
        · exact absurd (by omega) (hstuck.incomplete hsource contents executable hnode hend)
        · obtain ⟨hlength, hhas⟩ := hcopied hsource
          have hbytes := hhas.eq_of_file hnode
          rw [hlength] at hbytes
          rw [hbytes]
          exact hdecided.cameOut (by simp [keptPath, hmember, hplace.directory])
            (by simp [counting, hmember])
      · -- without a place for the copy, its creation has failed
        have hpath : ∀ l, s.world.world.disk.locate
            (Claim.memberPath path s.session.copied) ≠ .ok l := fun l hl => hlocated ⟨l, hl⟩
        refine (yields_claimFile_of_not_located hmember hplace.directory hpath).mono ?_
        intro r cs s' hunplaced hcreated
        obtain ⟨c, hc, hcreate, hfailed⟩ := hunplaced.failed
        have hkept : keptPath s.session input = Claim.memberPath path s.session.copied := by
          simp [keptPath, hmember, hplace.directory]
        rw [hcreated c hc (hkept ▸ hcreate)] at hfailed
        cases hfailed

/-- **An archive member fares as a file does that holds the same bytes.**  Two offers of the same
bytes, be they about files or about members of archives, get the same verdict, the linker hears the
same from both of them, and what they enter in the registry differs at most in its name and in
whether it is a copy.  The copy of a member has a place in every state of a session. -/
theorem members_fare_as_files :
    (∀ (L : Type) [Linker L] (path : Path) (s s' : Live (Traced (Machine L)))
      (input input' : InputFile) (bytes : Bytes),
      HasPlace path s input → HasPlace path s' input' → s'.session = s.session →
      s'.world.world.linker = s.world.world.linker → input'.handle = input.handle →
      s.world.world.Offers input bytes → s'.world.world.Offers input' bytes →
      (claimFile input).Yields s fun r cs t => CopyCreated s.session input cs →
        (claimFile input').Yields s' fun r' cs' t' => CopyCreated s.session input' cs' →
          ∃ j : Judgement L, CameOut j s.session input r cs t ∧
            CameOut j s.session input' r' cs' t') ∧
    (∀ (L : Type) [Linker L] (path : Path) (directory : Location) (s : Live (Traced (Machine L)))
      (origins : List (Machine L × InputFile)), Reached path directory s origins →
      ProgramsKeepOut path directory s.world.calls →
      ResolutionsElsewhere directory s.session.options s.world.calls →
      ∀ input, HasPlace path s input) := by
  refine ⟨?_, ?_⟩
  · intro L _ path s s' input input' bytes hplace hplace' hsession hlinker hhandle hoffers hoffers'
    refine (yields_claimFile_cameOut hplace hoffers).mono fun r cs t hcameOut hcreated => ?_
    refine (yields_claimFile_cameOut hplace' hoffers').mono fun r' cs' t' hcameOut' hcreated' => ?_
    -- both offers are judged by the same bytes, with the same linker
    rw [hsession, hlinker, hhandle] at hcameOut'
    exact ⟨_, hcameOut hcreated, hcameOut' hcreated'⟩
  · intro L _ path directory s origins h hprograms hresolutions input
    obtain ⟨hdirectory, hhosts⟩ := h.hosts hprograms
    have hcopies := h.hasCopies hprograms hresolutions
    refine ⟨hdirectory, h.copied_lt, fun _ l hl => ?_⟩
    obtain rfl := hhosts.eq_of_locateWith (.copy s.session.copied) hl
    exact ⟨hhosts.isSpot (.copy _) hl, hcopies.lookup_ne input.file⟩

/-- A session that can begin to claim them. -/
def sampleBegun : Live (Traced (Machine (BoundLinker (Watched RecordedLinker)))) :=
  begun sampleOptions [47, 116] archiveMachine

theorem reached_sampleBegun : Reached [47, 116] [[116]] sampleBegun [] :=
  .begin isFresh_archiveMachine

/-- Where all calls so far have succeeded, so has the creation of the copy. -/
theorem copyCreated_of_all {cs : List (Call (Machine L))} {input : InputFile}
    (hext : s.world.Extends cs (claimFile input s).2.world) (hcalls : s.world.calls = [])
    (h : ((claimFile input s).2.world.calls.all (·.succeeded)) = true) :
    CopyCreated s.session input cs := by
  have hall := hext.calls_eq
  rw [hcalls, List.nil_append] at hall
  rw [hall] at h
  exact fun c hc _ => List.all_eq_true.1 h c hc

theorem members_fare_as_files_sample :
    ∃ (j : Judgement (BoundLinker (Watched RecordedLinker)))
      (cs cs' : List (Call (Machine (BoundLinker (Watched RecordedLinker)))))
      (t t' : Live (Traced (Machine (BoundLinker (Watched RecordedLinker))))),
      CameOut j sampleBegun.session memberInput (.ok true) cs t ∧
        CameOut j sampleBegun.session fileInput (.ok true) cs' t' := by
  have hmember : sampleBegun.world.world.Offers memberInput (sampleObject sampleTable.encode) :=
    ⟨33 :: sampleObject sampleTable.encode, false, by decide +kernel⟩
  have hfile : sampleBegun.world.world.Offers fileInput (sampleObject sampleTable.encode) :=
    ⟨sampleObject sampleTable.encode, false, by decide +kernel⟩
  have hplace := members_fare_as_files.2 _ [47, 116] [[116]] sampleBegun []
    reached_sampleBegun (programsKeepOut_of_all rfl)
    (resolutionsElsewhere_of_all (show _ = some [47, 114] from rfl) rfl)
  obtain ⟨cs, hext, hagree⟩ := members_fare_as_files.1 _ [47, 116] sampleBegun sampleBegun
    memberInput fileInput _ (hplace memberInput) (hplace fileInput) rfl rfl rfl hmember hfile
  obtain ⟨cs', hext', hagree⟩ := hagree (copyCreated_of_all hext rfl (by decide +kernel))
  obtain ⟨j, hcameOut, hcameOut'⟩ := hagree (copyCreated_of_all hext' rfl (by decide +kernel))
  have hmember : (claimFile memberInput sampleBegun).1 = .ok true := by decide +kernel
  have hfile : (claimFile fileInput sampleBegun).1 = .ok true := by decide +kernel
  rw [hmember] at hcameOut
  rw [hfile] at hcameOut'
  exact ⟨j, cs, cs', _, _, hcameOut, hcameOut'⟩

/-! ### What is not claimed -/

/-- **What is not claimed leaves nothing behind**, unless its copy could not be made: then the part
of it that was made is still there. -/
theorem unclaimed_leaves_all_but_partial_copies
    (hdirectory : s.session.temporaryDirectory = some path)
    (hhosts : Hosts s.world.world.disk path directory)
    (hvacant : s.world.world.disk.tree.get? (copyLocation directory s.session) = none)
    (input : InputFile) :
    (claimFile input).Yields s fun r _ s' => r ≠ .ok true →
      s'.session = { s.session with copied := s'.session.copied } ∧
      (s'.world.world.disk = s.world.world.disk ∨
        (∃ failure : Failure, r = .error (failure.within (.extracting input.offset input.path))) ∧
          ∃ bytes, s'.world.world.disk =
            s.world.world.disk.put (copyLocation directory s.session) (.file bytes false)) := by
  refine (yields_claimFile_handled hdirectory hhosts input).mono fun r cs s' hhandled hr => ?_
  cases hhandled with
  | file found hmember hfound hdecided =>
      obtain ⟨hs', journal, hw'⟩ := hdecided.of_unclaimed hr
      exact ⟨by rw [hs'], .inl (by rw [hw'])⟩
  | unplaced hmember hunplaced =>
      exact ⟨by rw [hunplaced.session]; rfl, .inl (by rw [hunplaced.world])⟩
  | stuck hmember hspot hstuck =>
      obtain ⟨bytes, readPlan, hw'⟩ := hstuck.world
      refine ⟨by rw [hstuck.session]; rfl, .inr ⟨hstuck.result, bytes, ?_⟩⟩
      rw [hw', Disk.executableAt, hvacant]
      rfl
  | member bytes readPlan hmember hspot hbytes hdecided =>
      obtain ⟨hs', journal, hw'⟩ := hdecided.of_unclaimed hr
      refine ⟨by rw [hs']; rfl, .inl ?_⟩
      rw [hw']
      -- the copy was put where nothing was, and has been taken away again
      exact Disk.erase_put hvacant _

/-- An offer of a member for which the archive is too short. -/
def shortInput : InputFile := { memberInput with size := 1000 }

theorem unclaimed_leaves_all_but_partial_copies_sample :
    (claimFile shortInput sampleBegun).2.session = { sampleBegun.session with copied := 1 } ∧
      ∃ bytes, (claimFile shortInput sampleBegun).2.world.world.disk =
        sampleBegun.world.world.disk.put [[116], Claim.memberName 0] (.file bytes false) := by
  obtain ⟨hdirectory, hhosts⟩ := reached_sampleBegun.hosts (programsKeepOut_of_all rfl)
  obtain ⟨cs, -, hleft⟩ := unclaimed_leaves_all_but_partial_copies hdirectory hhosts
    (by decide +kernel) shortInput
  obtain ⟨hsession, hsame | ⟨-, hcopy⟩⟩ := hleft (by decide +kernel)
  · have hthere : ((claimFile shortInput sampleBegun).2.world.world.disk.tree.get?
        [[116], Claim.memberName 0]).isSome = true := by
      decide +kernel
    have hvacant : (sampleBegun.world.world.disk.tree.get?
        [[116], Claim.memberName 0]).isSome = false := by
      decide +kernel
    rw [hsame, hvacant] at hthere
    cases hthere
  · have hcopied : (claimFile shortInput sampleBegun).2.session.copied = 1 := by decide +kernel
    rw [hcopied] at hsession
    exact ⟨hsession, hcopy⟩

/-- **A copy that could not be made is left behind**, although the member is not claimed. -/
theorem partial_copy_left_behind :
    (claimFile shortInput sampleBegun).1.isOk = false ∧
      sampleBegun.world.world.disk.tree.get? (copyLocation [[116]] sampleBegun.session) = none ∧
      (claimFile shortInput sampleBegun).2.world.world.disk.tree.get?
          (copyLocation [[116]] sampleBegun.session) =
        some (.file (sampleObject sampleTable.encode) false) := by
  decide +kernel

end Session

end LtoBridge
