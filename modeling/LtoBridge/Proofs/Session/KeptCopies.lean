/-
**Copies stay what they are.**

An archive member that is claimed is kept as a copy in the temporary directory.  Until the cleanup,
whatever else is offered, claimed or not, and whatever fails, each copy is found under its own name
and holds the bytes of the member that was claimed with it.

Main definitions:

* `LtoBridge.Machine.HasMember`: the bytes of a member of an archive;
* `LtoBridge.Session.HasCopies`: the claimed members are kept.

Main results:

* `LtoBridge.Session.Handled.entered`: what an offer adds to the registry;
* `LtoBridge.Session.Reached.hasCopies`: **the claimed members are kept in every state**;
* `LtoBridge.Session.members_keep_their_bytes`: every copy has a name of its own in the temporary
  directory, and the bytes of its member are read under it.
-/

import LtoBridge.Proofs.Session.TemporaryFiles
import Mathlib.Data.List.Forall2

set_option autoImplicit false

namespace LtoBridge

variable {L : Type}

/-- **The bytes of an archive member**: as many as it has, from its place in the open file on. -/
def Machine.HasMember (m : Machine L) (input : InputFile) (bytes : Bytes) : Prop :=
  bytes.length = input.size ∧
    ∃ n, m.node input.file = .ok n ∧ Disk.part n input.offset input.size = .ok bytes

/-- There are no symbols where there are no bytes. -/
theorem Claim.ne_nil_of_tableIn {contents : Bytes} {table : SymbolTable}
    (h : Claim.tableIn contents = .ok (some table)) : contents ≠ [] := by
  rintro rfl
  simp [Claim.tableIn] at h

namespace Session

variable {path : Path} {directory : Location}

/-! ### The names of copies -/

theorem memberPath_injective {m n : Nat} (hpath : path ≠ [])
    (h : Claim.memberPath path m = Claim.memberPath path n) : m = n := by
  have hm := (IsOwnName.copy m).isEntryName
  exact Claim.memberName_injective (hm.join_injective (IsOwnName.copy n).isEntryName hpath h)

theorem memberPath_ne_argumentsPath (number : Nat) (hpath : path ≠ []) :
    Claim.memberPath path number ≠ path.join Backend.argumentsName := by
  intro h
  have hname := (IsOwnName.copy number).isEntryName
  exact Claim.memberName_ne_argumentsName number
    (hname.join_injective IsOwnName.arguments.isEntryName hpath h)

/-! ### Members that are kept -/

/-- **A file is the copy with a number** of an archive member that was offered. -/
structure IsCopy (path : Path) (directory : Location) (m : Machine L)
    (origin : Machine L × InputFile) (kept : Path) (number : Nat) : Prop where
  name : kept = Claim.memberPath path number
  short : (Claim.memberName number).length ≤ Disk.nameLimit ∧ kept.length < Disk.pathLimit
  contents : ∃ bytes executable, origin.1.HasMember origin.2 bytes ∧
    m.disk.tree.get? (directory ++ [Claim.memberName number]) = some (.file bytes executable)

/-- **A claimed file is kept**, for an archive member as one of the copies that have been made. -/
def IsKept (path : Path) (directory : Location) (copied : Nat) (m : Machine L)
    (entry : Path × Handle × Bool) (origin : Machine L × InputFile) : Prop :=
  entry.2 = (origin.2.handle, origin.2.isMember) ∧
    (origin.2.isMember = true → ∃ number < copied, IsCopy path directory m origin entry.1 number)

/-- The claimed files that are copies, by name. -/
def copyPaths (entries : List (Path × Handle × Bool)) : List Path :=
  (entries.filter (·.2.2)).map (·.1)

/-- **The claimed members are kept**, each under a name of its own, and there is nothing yet where
further copies will be. -/
structure HasCopies (path : Path) (directory : Location) (s : Live (Traced (Machine L)))
    (origins : List (Machine L × InputFile)) : Prop where
  kept : List.Forall₂ (IsKept path directory s.session.copied s.world.world)
    s.session.registry.identities origins
  distinct : (copyPaths s.session.registry.identities).Nodup
  vacant : ∀ number, s.session.copied ≤ number →
    s.world.world.disk.tree.get? (directory ++ [Claim.memberName number]) = none
  unopened : ∀ number, s.session.copied ≤ number →
    ∀ entry ∈ s.world.world.opened, entry.2 ≠ directory ++ [Claim.memberName number]

/-- Where copies are that have been made before a session got on, or will be made after that. -/
def IsOtherCopyLocation (directory : Location) (session session' : Session) (l : Location) : Prop :=
  ∃ number, l = directory ++ [Claim.memberName number] ∧
    (number < session.copied ∨ session'.copied ≤ number)

theorem IsKept.mono {copied copied' : Nat} {m m' : Machine L} {entry : Path × Handle × Bool}
    {origin : Machine L × InputFile} (h : IsKept path directory copied m entry origin)
    (hcopied : copied ≤ copied')
    (hsame : ∀ number < copied, m'.disk.tree.get? (directory ++ [Claim.memberName number]) =
      m.disk.tree.get? (directory ++ [Claim.memberName number])) :
    IsKept path directory copied' m' entry origin := by
  refine ⟨h.1, fun hmember => ?_⟩
  obtain ⟨number, hnumber, hcopy⟩ := h.2 hmember
  refine ⟨number, Nat.lt_of_lt_of_le hnumber hcopied, hcopy.name, hcopy.short, ?_⟩
  rw [hsame number hnumber]
  exact hcopy.contents

namespace HasCopies

variable {s s' : Live (Traced (Machine L))} {origins : List (Machine L × InputFile)}

/-- No open file is where the next copy will be. -/
theorem lookup_ne (h : HasCopies path directory s origins) (file : Descriptor) :
    s.world.world.opened.lookup file ≠ some (copyLocation directory s.session) := by
  intro hlookup
  obtain ⟨before, after, hopened, -⟩ := List.lookup_eq_some_iff.1 hlookup
  have hmem : (file, copyLocation directory s.session) ∈ s.world.world.opened := by
    rw [hopened]
    simp
  exact h.unopened _ (Nat.le_refl _) _ hmem rfl

/-- Every copy among the claimed files has a number, which is below that of the next one. -/
theorem exists_isCopy (h : HasCopies path directory s origins) {kept : Path}
    (hkept : kept ∈ copyPaths s.session.registry.identities) :
    ∃ number < s.session.copied, ∃ origin,
      IsCopy path directory s.world.world origin kept number := by
  obtain ⟨entry, hentry, rfl⟩ := List.mem_map.1 hkept
  obtain ⟨hentry, htemporary⟩ := List.mem_filter.1 hentry
  obtain ⟨i, hi, rfl⟩ := List.mem_iff_getElem.1 hentry
  obtain ⟨hsame, hcopy⟩ := h.kept.get hi (h.kept.length_eq ▸ hi)
  obtain ⟨number, hnumber, hcopy⟩ := hcopy ((congrArg Prod.snd hsame).symm.trans htemporary)
  exact ⟨number, hnumber, _, hcopy⟩

/-- **What is done elsewhere does not matter**, nor does a copy that is about to be made; and what
has been claimed is kept, if it is kept under a new name. -/
theorem extend (h : HasCopies path directory s origins) (hpath : path ≠ [])
    {entries : List (Path × Handle × Bool)} {claimed : List (Machine L × InputFile)}
    (hcopied : s.session.copied ≤ s'.session.copied)
    (hspares : s.world.world.Spares (IsOtherCopyLocation directory s.session s'.session)
      s'.world.world)
    (hidentities : s'.session.registry.identities = s.session.registry.identities ++ entries)
    (hclaimed : List.Forall₂ (IsKept path directory s'.session.copied s'.world.world) entries
      claimed)
    (hnew : (copyPaths entries).Sublist [Claim.memberPath path s.session.copied]) :
    HasCopies path directory s' (origins ++ claimed) where
  kept := by
    rw [hidentities]
    refine List.rel_append (h.kept.imp fun entry origin hkept => ?_) hclaimed
    exact hkept.mono hcopied fun number hnumber => hspares.get? _ ⟨number, rfl, .inl hnumber⟩
  distinct := by
    rw [hidentities, copyPaths, List.filter_append, List.map_append]
    refine List.nodup_append.2 ⟨h.distinct, hnew.nodup (by simp), ?_⟩
    -- the numbers of all other copies are below that of the new one
    rintro kept hkept _ hkept' rfl
    obtain ⟨number, hnumber, _, hcopy⟩ := h.exists_isCopy hkept
    have hname := (List.mem_singleton.1 (hnew.subset hkept')).symm.trans hcopy.name
    exact Nat.ne_of_gt hnumber (memberPath_injective hpath hname)
  vacant number hnumber := by
    rw [hspares.get? _ ⟨number, rfl, .inr hnumber⟩]
    exact h.vacant number (Nat.le_trans hcopied hnumber)
  unopened number hnumber entry hentry hl := by
    -- nothing can have been opened where there has been nothing
    have hvacant := h.vacant number (Nat.le_trans hcopied hnumber)
    obtain hold | hthere := hspares.opened entry hentry ⟨number, hl, .inr hnumber⟩
    · exact h.unopened number (Nat.le_trans hcopied hnumber) entry hold hl
    · rw [hl] at hthere
      exact hthere hvacant

/-- **What is done elsewhere does not matter.** -/
theorem of_spares (h : HasCopies path directory s origins) (hpath : path ≠ [])
    (hcopied : s'.session.copied = s.session.copied)
    (hspares : s.world.world.Spares (IsCopyLocation directory) s'.world.world)
    (hidentities : s'.session.registry.identities = s.session.registry.identities) :
    HasCopies path directory s' origins := by
  have hcopies := h.extend hpath (Nat.le_of_eq hcopied.symm)
    (hspares.mono fun l ⟨number, hl, _⟩ => ⟨number, hl⟩)
    (by rw [hidentities, List.append_nil]) .nil (List.nil_sublist _)
  rwa [List.append_nil] at hcopies

end HasCopies

/-! ### What an offer enters -/

section

variable {input : InputFile} {s s' : Live (Traced (Machine L))} {r : Except Failure Bool}
  {cs : List (Call (Machine L))}

/-- **What an offer adds to the registry**: nothing unless it is claimed, and then one file, which
is kept. -/
structure Entered (path : Path) (directory : Location) (input : InputFile)
    (s : Live (Traced (Machine L))) (r : Except Failure Bool) (s' : Live (Traced (Machine L))) :
    Prop where
  copied : s.session.copied ≤ s'.session.copied
  spares : s.world.world.Spares (IsOtherCopyLocation directory s.session s'.session) s'.world.world
  entries : ∃ entries, s'.session.registry.identities = s.session.registry.identities ++ entries ∧
    List.Forall₂ (IsKept path directory s'.session.copied s'.world.world) entries
      (if r = .ok true then [(s.world.world, input)] else []) ∧
    (copyPaths entries).Sublist [Claim.memberPath path s.session.copied]

theorem Entered.of_unclaimed (hr : r ≠ .ok true)
    (hidentities : s'.session.registry.identities = s.session.registry.identities)
    (hcopied : s.session.copied ≤ s'.session.copied)
    (hspares : s.world.world.Spares (IsOtherCopyLocation directory s.session s'.session)
      s'.world.world) : Entered path directory input s r s' := by
  refine ⟨hcopied, hspares, [], by rw [hidentities, List.append_nil], ?_, List.nil_sublist _⟩
  rw [if_neg hr]
  exact .nil

theorem Entered.of_claimed {entry : Path × Handle × Bool} (hr : r = .ok true)
    (hidentities : s'.session.registry.identities = s.session.registry.identities ++ [entry])
    (hkept : IsKept path directory s'.session.copied s'.world.world entry (s.world.world, input))
    (hname : entry.2.2 = true → entry.1 = Claim.memberPath path s.session.copied)
    (hcopied : s.session.copied ≤ s'.session.copied)
    (hspares : s.world.world.Spares (IsOtherCopyLocation directory s.session s'.session)
      s'.world.world) : Entered path directory input s r s' := by
  refine ⟨hcopied, hspares, [entry], hidentities, ?_, ?_⟩
  · rw [if_pos hr]
    exact .cons hkept .nil
  · cases htemporary : entry.2.2 with
    | false => simp [copyPaths, htemporary]
    | true => simp [copyPaths, htemporary, hname htemporary]

variable [Linker L]

/-- An offer spares all other copies. -/
theorem Handled.spares (h : Handled input path directory s r cs s') :
    s.world.world.Spares (· ≠ copyLocation directory s.session) s'.world.world := by
  obtain ⟨-, hopened, hsame | ⟨d, hput, hsame | herase⟩⟩ := h.changes
  · exact .of_disk_eq hsame hopened
  · rw [← hsame] at hput
    exact .of_changesFile hput hopened (fun hne => hne rfl)
  · refine ⟨fun l hl => ?_, fun entry hentry _ => .inl (by rwa [← hopened])⟩
    rw [herase.get?_of_ne hl, hput.get?_of_ne hl]

/-- Copies with other numbers are at other locations. -/
theorem ne_copyLocation {session : Session} {number : Nat} (hnumber : number ≠ session.copied) :
    directory ++ [Claim.memberName number] ≠ copyLocation directory session := by
  intro hl
  exact hnumber (Claim.memberName_injective (List.singleton_inj.1 (List.append_cancel_left hl)))

/-- Nothing but its number is taken by a member that is not claimed. -/
theorem Handled.spares_other (h : Handled input path directory s r cs s')
    (hcopied : s'.session.copied = s.session.copied + 1) :
    s.world.world.Spares (IsOtherCopyLocation directory s.session s'.session) s'.world.world := by
  refine h.spares.mono ?_
  rintro _ ⟨number, rfl, hnumber⟩
  exact ne_copyLocation (by omega)

/-- A member that is not claimed adds nothing. -/
theorem Handled.entered_of_unclaimed (h : Handled input path directory s r cs s')
    (hs' : s'.session = copiedOne s.session) (hr : r ≠ .ok true) :
    Entered path directory input s r s' := by
  have hcopied : s'.session.copied = s.session.copied + 1 := by
    rw [hs']
    rfl
  exact .of_unclaimed hr (by rw [hs']; rfl) (by omega) (h.spares_other hcopied)

/-- **An offer adds at most one file to the registry**, which is kept. -/
theorem Handled.entered (h : Handled input path directory s r cs s') (hpath : path ≠ [])
    (hopened : s.world.world.opened.lookup input.file ≠ some (copyLocation directory s.session)) :
    Entered path directory input s r s' := by
  have hhandled := h
  cases h with
  | file found hmember hfound hdecided =>
      by_cases hr : r = .ok true
      · obtain ⟨table, journal, -, hs', hw'⟩ := hdecided.of_claimed hr
        refine .of_claimed hr (by rw [hs']; exact Registry.identities_push _ _)
          ⟨rfl, fun h => ?_⟩ (fun h => ?_) (Nat.le_of_eq (by rw [hs']))
          (.of_disk_eq (by rw [hw']) (by rw [hw']))
        · cases hmember.symm.trans h
        · cases hmember.symm.trans h
      · obtain ⟨hs', journal, hw'⟩ := hdecided.of_unclaimed hr
        exact .of_unclaimed hr (by rw [hs']) (Nat.le_of_eq (by rw [hs']))
          (.of_disk_eq (by rw [hw']) (by rw [hw']))
  | unplaced hmember hunplaced =>
      obtain ⟨failure, hresult⟩ := hunplaced.result
      exact hhandled.entered_of_unclaimed hunplaced.session (by rw [hresult]; nofun)
  | stuck hmember hspot hstuck =>
      obtain ⟨failure, hresult⟩ := hstuck.result
      exact hhandled.entered_of_unclaimed hstuck.session (by rw [hresult]; nofun)
  | member bytes readPlan hmember hspot hbytes hdecided =>
      by_cases hr : r = .ok true
      · obtain ⟨table, journal, hverdict, hs', hw'⟩ := hdecided.of_claimed hr
        have hcopied : s'.session.copied = s.session.copied + 1 := by
          rw [hs']
          rfl
        have hcopy : s'.world.world.disk.tree.get? (copyLocation directory s.session) = some
            (.file bytes (Disk.executableAt s.world.world.disk.tree
              (copyLocation directory s.session))) := by
          rw [hw']
          exact Disk.get?_put_self hspot.isOpen _
        -- the bytes that were copied are those of the member, since there are some
        have hhas : s.world.world.HasMember input bytes := by
          obtain ⟨hlength, hbytes⟩ := hbytes hopened
          obtain ⟨n, hnode, hpart⟩ :=
            hbytes (Claim.ne_nil_of_tableIn (eq_of_judge_claimed hverdict))
          exact ⟨hlength, n, hnode, hlength ▸ hpart⟩
        have hshort := Disk.short_of_locateWith_join hpath
          (IsOwnName.copy s.session.copied).isEntryName hspot.locate
        refine .of_claimed hr (by rw [hs']; exact Registry.identities_push _ _)
          ⟨rfl, fun _ => ?_⟩ (fun _ => rfl) (by omega) (hhandled.spares_other hcopied)
        exact ⟨s.session.copied, by omega, rfl, hshort, bytes, _, hhas, hcopy⟩
      · exact hhandled.entered_of_unclaimed (hdecided.of_unclaimed hr).1 hr

end

/-! ### The copies of a session -/

section

variable [Linker L] {s : Live (Traced (Machine L))} {origins : List (Machine L × InputFile)}

theorem IsCopyLocation.isPrefix {l : Location} (h : IsCopyLocation directory l) :
    directory <+: l := by
  obtain ⟨number, rfl⟩ := h
  exact List.prefix_append _ _

omit [Linker L] in
theorem ResolutionsElsewhere.mono {options options' : Options}
    {calls calls' : List (Call (Machine L))}
    (h : ResolutionsElsewhere directory options calls)
    (hoptions : options'.resolutionFile = options.resolutionFile) (hcalls : calls' ⊆ calls) :
    ResolutionsElsewhere directory options' calls' :=
  fun c hc file hfile => h c (hcalls hc) file (hoptions ▸ hfile)

/-- The resolution file stays the same. -/
theorem resolutionFile_after (op : Operation) (hop : op ≠ .cleanup) :
    (op.after s).session.options.resolutionFile = s.session.options.resolutionFile := by
  cases op with
  | offer input =>
      obtain ⟨cs, -, ⟨-, table, haccepts⟩ | ⟨-, hdeclines⟩⟩ := yields_claimFile (s := s) input
      · exact congrArg (·.options.resolutionFile) haccepts.session_eq
      · exact congrArg (·.options.resolutionFile) hdeclines.session_eq
  | allSymbolsRead =>
      obtain ⟨cs, hext, hcs, registry, outputs, passThrough, -, hs'⟩ :=
        yields_allSymbolsRead_settling s
      change (Session.allSymbolsRead s).2.session.options.resolutionFile = _
      rw [hs']
  | release => rfl
  | cleanup => exact absurd rfl hop

/-- What is not claimed has no origin. -/
theorem Operation.claims_offer (input : InputFile) (s : Live (Traced (Machine L))) :
    (Operation.offer input).claims s =
      if (claimFile input s).1 = .ok true then [(s.world.world, input)] else [] := by
  unfold Operation.claims
  dsimp only
  split
  · rename_i hr
    rw [if_pos hr]
  · rename_i hr
    rw [if_neg hr]

/-- The claimed members are kept when all symbols have been read. -/
theorem HasCopies.allSymbolsRead (h : HasCopies path directory s origins)
    (hdirectory : s.session.temporaryDirectory = some path)
    (hhosts : Hosts s.world.world.disk path directory)
    (hprograms : ProgramsKeepOut path directory (Session.allSymbolsRead s).2.world.calls)
    (hresolutions : ResolutionsElsewhere directory s.session.options
      (Session.allSymbolsRead s).2.world.calls) :
    HasCopies path directory (Session.allSymbolsRead s).2 origins := by
  obtain ⟨cs, hext, hcs, registry, outputs, passThrough, hidentities, hs'⟩ :=
    yields_allSymbolsRead_settling s
  -- each call finds the directory in place and leaves the copies alone
  have hinvariant := hext.invariant (P := fun m => Hosts m.disk path directory ∧
      s.world.world.Spares (IsCopyLocation directory) m) ?_ ⟨hhosts, .refl _⟩
  · exact h.of_spares hhosts.path_ne_nil (by rw [hs']) hinvariant.2
      (by rw [hs']; exact hidentities)
  · rintro c hc ⟨hhosts, hspares⟩
    have horderly := (hcs c hc).orderly hdirectory (hprograms c (hext.subset hc))
    have hwrites : WritesElsewhere path directory c :=
      (hcs c hc).writesElsewhere hdirectory (hresolutions c (hext.subset hc))
    exact ⟨hhosts.after horderly, hspares.trans (spares_after hhosts horderly hwrites)⟩

/-- **The claimed members are kept in every state.** -/
theorem Reached.hasCopies (h : Reached path directory s origins)
    (hprograms : ProgramsKeepOut path directory s.world.calls)
    (hresolutions : ResolutionsElsewhere directory s.session.options s.world.calls) :
    HasCopies path directory s origins := by
  induction h with
  | begin hfresh =>
      refine ⟨.nil, List.nodup_nil, fun number _ => ?_, fun number _ entry hentry hl => ?_⟩
      · exact hfresh.empty _ (List.prefix_append _ _) (by simp)
      · have hdirectory := hfresh.unopened entry hentry (hl ▸ List.prefix_append _ _)
        rw [hl] at hdirectory
        simp at hdirectory
  | @operate s origins op hop h _ ih =>
      have hcalls := calls_subset_after op s
      have hprograms₀ : ProgramsKeepOut path directory s.world.calls :=
        fun c hc => hprograms c (hcalls hc)
      obtain ⟨hdirectory, hhosts⟩ := h.hosts hprograms₀
      have hcopies := ih hprograms₀ (hresolutions.mono (resolutionFile_after op hop).symm hcalls)
      have hpath := hhosts.path_ne_nil
      cases op with
      | offer input =>
          obtain ⟨cs, hext, hhandled⟩ := yields_claimFile_handled hdirectory hhosts input
          have hentered := hhandled.entered hpath (hcopies.lookup_ne input.file)
          obtain ⟨entries, hidentities, hkept, hnew⟩ := hentered.entries
          rw [Operation.claims_offer]
          exact hcopies.extend hpath hentered.copied hentered.spares hidentities hkept hnew
      | allSymbolsRead =>
          change HasCopies path directory (Session.allSymbolsRead s).2 (origins ++ [])
          rw [List.append_nil]
          exact hcopies.allSymbolsRead hdirectory hhosts hprograms
            (hresolutions.mono (resolutionFile_after _ hop).symm (List.Subset.refl _))
      | release =>
          change HasCopies path directory (releaseSymbols s).2 (origins ++ [])
          rw [List.append_nil]
          exact hcopies.of_spares hpath rfl (.of_disk_eq rfl rfl) (Registry.identities_release _)
      | cleanup => exact absurd rfl hop
  | meanwhile h hkeeps ih =>
      have hcopies := ih hprograms hresolutions
      have hpath := (h.hosts hprograms).2.path_ne_nil
      exact hcopies.of_spares hpath rfl (hkeeps.spares.mono fun l hl => hl.isPrefix) rfl

/-- **No members are mixed up**: the copies have different names, which lead to entries of the
temporary directory, and under each name the bytes are read that the member had when it was
offered. -/
structure MembersKept (path : Path) (directory : Location) (s : Live (Traced (Machine L)))
    (origins : List (Machine L × InputFile)) : Prop where
  located : s.session.temporaryDirectory = some path ∧
    s.world.world.disk.locate path = .ok directory
  distinct : ((s.session.registry.files.filter (·.temporary)).map (·.path)).Nodup
  entries : ∀ file ∈ s.session.registry.files, file.temporary = true →
    file.path ≠ s.session.argumentsPath ∧ ∃ name, Disk.IsEntryName name ∧
      file.path = path.join name ∧ s.world.world.disk.locate file.path = .ok (directory ++ [name])
  bytes : List.Forall₂ (fun file origin => file.handle = origin.2.handle ∧
      file.temporary = origin.2.isMember ∧ (file.temporary = true →
        ∃ bytes, origin.1.HasMember origin.2 bytes ∧
          s.world.world.disk.read file.path = .ok bytes))
    s.session.registry.files origins

omit [Linker L] in
/-- The name of a copy leads to it. -/
theorem IsCopy.isSpot {origin : Machine L × InputFile} {m : Machine L} {kept : Path} {number : Nat}
    (h : IsCopy path directory m origin kept number) (hhosts : Hosts m.disk path directory) :
    m.disk.IsSpot kept (directory ++ [Claim.memberName number]) := by
  obtain ⟨rfl, ⟨hlength, hlong⟩, -⟩ := h
  exact hhosts.isSpot_of_short (.copy number) hlength hlong

/-- **Members are never mixed up.**  Whatever the linker does with a session before its cleanup, if
others keep out of the temporary directory and the resolution file is not where copies are, then the
copies of the claimed members have different names in the temporary directory, none of them is the
arguments file, and each of them has the bytes of the member that was claimed with it. -/
theorem members_keep_their_bytes (h : Reached path directory s origins)
    (hprograms : ProgramsKeepOut path directory s.world.calls)
    (hresolutions : ResolutionsElsewhere directory s.session.options s.world.calls) :
    MembersKept path directory s origins := by
  obtain ⟨hdirectory, hhosts⟩ := h.hosts hprograms
  have hcopies := h.hasCopies hprograms hresolutions
  have hkept : List.Forall₂ (fun file origin =>
      IsKept path directory s.session.copied s.world.world file.identity origin)
      s.session.registry.files origins := List.forall₂_map_left_iff.1 hcopies.kept
  refine ⟨⟨hdirectory, hhosts.locate⟩, ?_, ?_, ?_⟩
  · have hdistinct := hcopies.distinct
    simpa [copyPaths, Registry.identities, List.filter_map, Function.comp_def,
      ClaimedFile.identity] using hdistinct
  · intro file hfile htemporary
    have hmem : file.path ∈ copyPaths s.session.registry.identities := by
      refine List.mem_map.2 ⟨file.identity, List.mem_filter.2 ⟨?_, htemporary⟩, rfl⟩
      exact List.mem_map_of_mem hfile
    obtain ⟨number, -, origin, hcopy⟩ := hcopies.exists_isCopy hmem
    refine ⟨?_, Claim.memberName number, (IsOwnName.copy number).isEntryName, hcopy.name,
      (hcopy.isSpot hhosts).locate⟩
    rw [argumentsPath_eq hdirectory, hcopy.name]
    exact memberPath_ne_argumentsPath number hhosts.path_ne_nil
  · refine hkept.imp ?_
    rintro file origin ⟨hidentity, hcopy⟩
    obtain ⟨hhandle, htemporary⟩ := Prod.mk.inj hidentity
    refine ⟨hhandle, htemporary, fun hmember => ?_⟩
    obtain ⟨number, -, hcopy⟩ := hcopy (htemporary.symm.trans hmember)
    obtain ⟨bytes, executable, hbytes, hget⟩ := hcopy.contents
    have hspot := hcopy.isSpot hhosts
    exact ⟨bytes, hbytes, Disk.read_eq_ok hspot.locate hget hspot.separator⟩

end

/-! ### A small archive -/

section

variable [Linker L]

/-- Where no programs are run, they keep out of everything. -/
theorem programsKeepOut_of_all {calls : List (Call (Machine L))}
    (h : (calls.all fun c => !c.effect.reachesFurther) = true) :
    ProgramsKeepOut path directory calls := by
  intro c hc program arguments hlaunch
  have hnear := List.all_eq_true.1 h c hc
  rw [hlaunch] at hnear
  cases hnear

omit [Linker L] in
/-- A resolution file whose name never leads to the directory is not written over copies. -/
theorem resolutionsElsewhere_of_all {options : Options} {file : Path}
    {calls : List (Call (Machine L))} (hfile : options.resolutionFile = some file)
    (h : (calls.all fun c =>
      (c.before.disk.locate file).toOption.all fun l => !directory.isPrefixOf l) = true) :
    ResolutionsElsewhere directory options calls := by
  intro c hc file' hfile' _ l hl hcopy
  obtain rfl : file' = file := Option.some.inj (hfile'.symm.trans hfile)
  have hout := List.all_eq_true.1 h c hc
  rw [hl] at hout
  have hprefix := List.isPrefixOf_iff_prefix.2 hcopy.isPrefix
  simp [Except.toOption, hprefix] at hout

end

/-- A directory is empty if the tree lists nothing in it. -/
theorem isFresh_of_nodes {L : Type} {m : Machine L} {path : Path} {directory : Location}
    (hlocate : m.disk.locate path = .ok directory)
    (hdirectory : m.disk.tree.get? directory = some .directory)
    (hnodes : ∀ entry ∈ m.disk.tree.nodes, directory <+: entry.1 → entry.1 = directory)
    (hopened : ∀ entry ∈ m.opened, directory <+: entry.2 → entry.2 = directory) :
    IsFresh m path directory where
  locate := hlocate
  isDirectory := hdirectory
  empty l hl hne := by
    have hnil : l ≠ [] := by
      rintro rfl
      exact hne (List.prefix_nil.1 hl).symm
    have hnone : m.disk.tree.nodes.find? (·.1 == l) = none := by
      refine List.find?_eq_none.2 fun entry hentry hsame => ?_
      obtain rfl := eq_of_beq hsame
      exact hne (hnodes entry hentry hl)
    rw [FileTree.get?, if_neg hnil, hnone]
    rfl
  unopened := hopened

/-- A machine with an empty directory `/t`, an archive with a single member, and a file that holds
the same bytes as the member. -/
def archiveMachine : Machine (BoundLinker (Watched RecordedLinker)) :=
  let object := sampleObject sampleTable.encode
  { sampleMachine with
    disk :=
      { tree := ⟨[([[116]], .directory), ([[97]], .file (33 :: object) false),
          ([[98]], .file object false)]⟩
        current := [] }
    opened := [(3, [[97]]), (4, [[98]])] }

/-- An offer of the member. -/
def memberInput : InputFile := { sampleInput with offset := 1 }

/-- An offer of the file that holds the same bytes as the member. -/
def fileInput : InputFile := { sampleInput with path := [98], file := 4 }

/-- The session after the member has been offered. -/
def offeredMember (options : Options) :
    Live (Traced (Machine (BoundLinker (Watched RecordedLinker)))) :=
  (Operation.offer memberInput).after (begun options [47, 116] archiveMachine)

theorem isFresh_archiveMachine : IsFresh archiveMachine [47, 116] [[116]] :=
  isFresh_of_nodes (by decide) (by decide) (by decide) (by decide)

theorem reached_offeredMember (options : Options)
    (hcopied : (offeredMember options).session.copied < copyLimit) :
    Reached [47, 116] [[116]] (offeredMember options)
      ((Operation.offer memberInput).claims (begun options [47, 116] archiveMachine)) :=
  .operate (.offer memberInput) nofun (.begin isFresh_archiveMachine) hcopied

/-- An object with another table. -/
def secondObject : Bytes :=
  sampleObject (SymbolTable.encode ⟨[⟨⟨.upToZero [104], none, .common, .hidden, 8, .unknown⟩, 1⟩]⟩)

/-- A machine with an empty directory `/t` and an archive with two members. -/
def twoMembersMachine : Machine (BoundLinker (Watched RecordedLinker)) :=
  { sampleMachine with
    disk :=
      { tree := ⟨[([[116]], .directory),
          ([[97]], .file (33 :: (sampleObject sampleTable.encode ++ secondObject)) false)]⟩
        current := [] } }

/-- An offer of the second member. -/
def secondInput : InputFile :=
  { memberInput with
    offset := 1 + memberInput.size, size := secondObject.length, handle := 6 }

/-- The session after the first member has been offered. -/
def offeredFirst : Live (Traced (Machine (BoundLinker (Watched RecordedLinker)))) :=
  (Operation.offer memberInput).after (begun sampleOptions [47, 116] twoMembersMachine)

/-- The session after both members have been offered and all symbols have been read. -/
def offeredBoth : Live (Traced (Machine (BoundLinker (Watched RecordedLinker)))) :=
  Operation.allSymbolsRead.after ((Operation.offer secondInput).after offeredFirst)

/-- Of two members that were claimed, each has its own bytes under its own name. -/
theorem members_keep_their_bytes_sample :
    ∃ origins, MembersKept [47, 116] [[116]] offeredBoth origins ∧
      origins.map (·.2.offset) = [memberInput.offset, secondInput.offset] ∧
      (offeredBoth.world.world.disk.read (Claim.memberPath [47, 116] 0)).toOption =
        some (sampleObject sampleTable.encode) ∧
      (offeredBoth.world.world.disk.read (Claim.memberPath [47, 116] 1)).toOption =
        some secondObject := by
  have hfresh : IsFresh twoMembersMachine [47, 116] [[116]] :=
    isFresh_of_nodes (by decide) (by decide) (by decide) (by decide)
  have hfirst : Reached [47, 116] [[116]] offeredFirst _ :=
    .operate (.offer memberInput) nofun (.begin hfresh) (by decide +kernel)
  have hboth : Reached [47, 116] [[116]] ((Operation.offer secondInput).after offeredFirst) _ :=
    .operate (.offer secondInput) nofun hfirst (by decide +kernel)
  have hreached : Reached [47, 116] [[116]] offeredBoth _ :=
    .operate .allSymbolsRead nofun hboth (by decide +kernel)
  refine ⟨_, members_keep_their_bytes hreached ?_ ?_, ?_, ?_, ?_⟩
  · exact programsKeepOut_of_all (by decide +kernel)
  · exact resolutionsElsewhere_of_all (show _ = some [47, 114] from by decide +kernel)
      (by decide +kernel)
  · decide +kernel
  · decide +kernel
  · decide +kernel

/-! ### Resolutions over a copy -/

/-- The session after somebody has made `/r` a link to the temporary directory. -/
def linked (s : Live (Traced (Machine L))) : Live (Traced (Machine L)) :=
  let m := s.world.world
  { s with
    world :=
      { s.world with
        world := { m with disk := m.disk.put [[114]] (.link [47, 116]) } } }

theorem keepsOut_linked (s : Live (Traced (Machine L)))
    (hlocate : (linked s).world.world.disk.locate [47, 116] = .ok [[116]]) :
    s.world.world.KeepsOut [47, 116] [[116]] (linked s).world.world := by
  refine ⟨fun _ => hlocate, fun l hl => ?_, fun entry hentry _ => .inl hentry⟩
  have hne : l ≠ [[114]] := by
    rintro rfl
    exact absurd hl (by decide)
  rw [linked, Disk.put, FileTree.get?_put _ _ _ _ (by decide), if_neg hne]

/-- The resolution file is `/r/obj0.o`. -/
def linkedOptions : Options :=
  { sampleOptions with resolutionFile := some ([47, 114, 47] ++ Claim.memberName 0) }

/-- The session after all symbols have been read in the end. -/
def overwritten : Live (Traced (Machine (BoundLinker (Watched RecordedLinker)))) :=
  Operation.allSymbolsRead.after (linked (offeredMember linkedOptions))

theorem reached_overwritten :
    Reached [47, 116] [[116]] overwritten [(archiveMachine, memberInput)] := by
  have hclaims : (Operation.offer memberInput).claims
      (begun linkedOptions [47, 116] archiveMachine) = [(archiveMachine, memberInput)] := by
    rw [Operation.claims_offer, if_pos (by decide +kernel)]
    rfl
  have hreached := reached_offeredMember linkedOptions (by decide +kernel)
  rw [hclaims] at hreached
  exact .operate .allSymbolsRead nofun (hreached.meanwhile (keepsOut_linked _ (by decide +kernel)))
    (by decide +kernel)

/-- **A resolution file whose name leads to a copy is written over it**, although nobody else has
touched the temporary directory. -/
theorem copy_overwritten_by_resolutions :
    Reached [47, 116] [[116]] overwritten [(archiveMachine, memberInput)] ∧
      ProgramsKeepOut [47, 116] [[116]] overwritten.world.calls ∧
      ¬ MembersKept [47, 116] [[116]] overwritten [(archiveMachine, memberInput)] := by
  refine ⟨reached_overwritten, programsKeepOut_of_all (by decide +kernel), fun hkept => ?_⟩
  -- what is read under the name of the copy is too short for the member
  have hshort : ∀ file ∈ overwritten.session.registry.files,
      ((overwritten.world.world.disk.read file.path).toOption.all
        (·.length < memberInput.size)) = true := by
    decide +kernel
  obtain ⟨file, rest, ⟨-, htemporary, hbytes⟩, -, hfiles⟩ :=
    List.forall₂_cons_right_iff.1 hkept.bytes
  obtain ⟨bytes, ⟨hlength, -⟩, hread⟩ := hbytes htemporary
  have hlt := hshort file (by rw [hfiles]; exact List.mem_cons_self)
  rw [hread] at hlt
  simp only [Except.toOption, Option.all_some, decide_eq_true_eq] at hlt
  exact Nat.ne_of_lt hlt hlength

end Session

end LtoBridge
