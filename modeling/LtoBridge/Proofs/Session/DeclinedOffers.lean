/-
**Declined offers are invisible.**

A file that is offered and declined leaves nothing behind, except that the number of a copy is used
up if the file is a member of an archive.  So after a file of its own, everything goes on as it
would without the offer.  After a member, nothing can be told from what is done with the session but
the numbers of later copies: the linker and the backend get the same, under names with these
numbers.  That holds as long as these names are not too long, lead to the temporary directory, and
are not read by the session itself in a file that it has written.

Main definitions:

* `LtoBridge.Session.LeavesNoTrace`: what the offer of a declined member does;
* `LtoBridge.Renumbering.Oblivious`: a run in which nothing around the session depends on the
  numbers of copies;
* `LtoBridge.Renumbering.Hides`: nothing tells that a number is left out.

Main results:

* `LtoBridge.Session.Handled.leavesNoTrace`: **a declined offer leaves all as it was**;
* `LtoBridge.Renumbering.declined_offers_are_invisible`: every turn after a declined offer is the
  same as without that offer, or is seen alike;
* `LtoBridge.Session.declined_members_may_be_noticed`: what may go wrong with a member.
-/

import LtoBridge.Linker.Scripted
import LtoBridge.Proofs.Session.Offers
import LtoBridge.Proofs.Session.ParallelRuns
import Mathlib.Algebra.Ring.Nat

set_option autoImplicit false

namespace LtoBridge

/-! ### Short numbers -/

/-- A number has no more digits than it needs. -/
theorem Bytes.length_decimal_le {n k : Nat} (hk : 0 < k) (h : n < 10 ^ k) :
    (decimal n).length ≤ k := by
  induction k generalizing n with
  | zero => omega
  | succ k ih =>
      rcases Nat.lt_or_ge n 10 with hn | hn
      · rw [decimal_of_lt hn, List.length_singleton]
        omega
      · have hpower : 10 ^ (k + 1) = 10 ^ k * 10 := Nat.pow_succ _ _
        have hpositive : 0 < k := by
          rcases Nat.eq_zero_or_pos k with rfl | hk
          · simp at h
            omega
          · exact hk
        have hothers : (decimal (n / 10)).length ≤ k := ih hpositive (by omega)
        rw [decimal_of_ge hn, decimal_of_lt (Nat.mod_lt n (by omega)), List.length_append,
          List.length_singleton]
        omega

/-- As long as the numbers of copies are small, no directory minds their names. -/
theorem Claim.length_memberName_le {n : Nat} (h : n < 2 ^ 32) :
    (memberName n).length ≤ Disk.nameLimit := by
  have hdigits : (Bytes.decimal n).length ≤ 10 := Bytes.length_decimal_le (by omega) (by omega)
  rw [memberName_eq, Disk.nameLimit]
  simp only [List.length_append, List.length_cons, List.length_nil]
  omega

namespace Session

/-! ### Declined offers -/

/-- Of a file that is declined the linker hears nothing. -/
theorem judge_of_declined {L : Type} [Linker L] {handle : Handle} {linker : L}
    {found : Claim.Finding} (h : (judge handle linker found).verdict = .declined) :
    judge handle linker found = ⟨.declined, [], linker⟩ := by
  match found with
  | .error fault => cases h
  | .ok none => rfl
  | .ok (some table) =>
      unfold judge at h
      dsimp only at h
      split at h <;> cases h

section

variable {L : Type} [Linker L] {path : Path} {directory : Location} {input : InputFile}
  {s s' : Live (Traced (Machine L))} {cs : List (Call (Machine L))}

/-- What is declined is given up, and the linker hears nothing of it. -/
theorem Decided.of_declined {kept : Path} {handle : Handle} {linker : L} {found : Claim.Finding}
    {session : Session} {m : Machine L} {unclaimed : Disk}
    (h : Decided input kept (judge handle linker found) session m unclaimed (.ok false) cs s') :
    LtoBridge.heard cs = [] ∧ s'.session = session ∧
      ∃ journal, s'.world.world = { m with disk := unclaimed, linker, journal } := by
  obtain ⟨hresult, hheard, hsession, journal, hworld⟩ := h
  have hdeclined : (judge handle linker found).verdict = .declined := by
    revert hresult
    cases (judge handle linker found).verdict with
    | declined => exact fun _ => rfl
    | _ => exact fun hresult => by cases hresult
  rw [judge_of_declined hdeclined] at hheard hsession hworld
  exact ⟨hheard, hsession, journal, hworld⟩

/-- **An offer leaves no trace**: the linker has heard nothing of it, and all is as it was, except
that a number has been used up if it was the offer of a member, for what reads have used up, and
for reports. -/
structure LeavesNoTrace (input : InputFile) (s : Live (Traced (Machine L)))
    (cs : List (Call (Machine L))) (s' : Live (Traced (Machine L))) : Prop where
  heard : heard cs = []
  session : s'.session = s.session.counting input
  machine : ∃ readPlan journal, s'.world.world = { s.world.world with readPlan, journal }

/-- **A declined offer leaves all as it was.** -/
theorem Handled.leavesNoTrace (h : Handled input path directory s (.ok false) cs s')
    (hvacant : s.world.world.disk.tree.get? (copyLocation directory s.session) = none) :
    LeavesNoTrace input s cs s' := by
  cases h with
  | file found hmember hfound hdecided =>
      obtain ⟨hheard, hsession, journal, hworld⟩ := hdecided.of_declined
      refine ⟨hheard, ?_, s.world.world.readPlan, journal, hworld⟩
      rw [hsession, counting, hmember]
      rfl
  | unplaced hmember hunplaced =>
      obtain ⟨failure, hresult⟩ := hunplaced.result
      cases hresult
  | stuck hmember hspot hstuck =>
      obtain ⟨failure, hresult⟩ := hstuck.result
      cases hresult
  | member bytes readPlan hmember hspot hbytes hdecided =>
      obtain ⟨hheard, hsession, journal, hworld⟩ := hdecided.of_declined
      refine ⟨hheard, ?_, readPlan, journal, ?_⟩
      · rw [hsession, counting, if_pos hmember]
      · -- the copy was put where nothing was, and has been taken away again
        rw [hworld, Machine.withFile]
        exact congrArg (fun disk => ({ s.world.world with disk, readPlan, journal } : Machine L))
          (Disk.erase_put hvacant _)

end

end Session

namespace Renumbering

open Session

variable {L : Type} [Linker L] (σ : Renumbering) (Q : L → L → Prop)

/-! ### The same without the offer -/

/-- Copies that have been made stay where they are. -/
theorem move_of_lt {l : Location} (h : ∀ n, σ.first ≤ n → l ≠ σ.copyAt n) : σ.move l = l := by
  rcases σ.move_eq_or l with hsame | ⟨n, rfl, hmoved⟩
  · exact hsame
  · rcases Nat.lt_or_ge n σ.first with hn | hn
    · rw [hmoved, σ.number_of_lt hn]
    · exact absurd rfl (h n hn)

/-- **Nothing around a session depends on the numbers of its copies**, from a state on and in some
turns: neither the linker nor the programs, nor the names that are used in the options, for files
that have been claimed where they are, for what the backend has produced and for what is offered.
Nobody has opened a file that lists the names of copies. -/
structure Oblivious (s : Live (Traced (Machine L))) (turns : List (Turn L)) : Prop where
  linkers : σ.LinkersAlike Q
  linker : Q s.world.world.linker s.world.world.linker
  programs : σ.ProgramsAlike s.world.world.launcher
  opened : ∀ entry ∈ s.world.world.opened, ¬ σ.listing entry.2
  options : σ.NamesNoCopies s.session.options
  claimed : ∀ file ∈ s.session.registry.files, file.temporary = false →
    σ.rename file.path = file.path
  produced : ∀ p ∈ s.session.outputs, σ.rename p = p
  during : ∀ turn ∈ turns, σ.Indifferent Q turn
  resolutions : ∀ earlier turn later, turns = earlier ++ turn :: later →
    σ.WritesPast turn (play s earlier)

/-- **Nothing tells that a number is left out**, from a state of a session on and in some turns:
copies get numbers larger by one, and nothing around the session depends on numbers.  Others have
kept out of the temporary directory, and the resolution file has not been where copies are.  Less
than 2 ^ 32 members are offered, and the names of their copies are not too long for the operating
system. -/
structure Hides (s : Live (Traced (Machine L))) (turns : List (Turn L)) : Prop where
  reached : ∃ origins, Reached σ.path σ.directory s origins
  keepOut : ProgramsKeepOut σ.path σ.directory s.world.calls
  elsewhere : ResolutionsElsewhere σ.directory s.session.options s.world.calls
  first : σ.first = s.session.copied
  step : σ.step = 1
  oblivious : σ.Oblivious Q s turns
  count : σ.first + 1 + memberOffers turns ≤ 2 ^ 32
  short : ∀ n < σ.first + 1 + memberOffers turns,
    (Claim.memberPath σ.path n).length < Disk.pathLimit

variable {σ Q} {s s' : Live (Traced (Machine L))} {turns : List (Turn L)} {input : InputFile}
  {cs : List (Call (Machine L))} {origins : List (Machine L × InputFile)}

/-- The copies that have been made keep their names, and so the registry stays the same. -/
theorem Oblivious.renameRegistry_eq (h : σ.Oblivious Q s turns)
    (hcopies : HasCopies σ.path σ.directory s origins) (hfirst : σ.first = s.session.copied) :
    σ.renameRegistry s.session.registry = s.session.registry := by
  have hfile : ∀ file ∈ s.session.registry.files, σ.renameFile file = file := by
    intro file hfile
    have hpath : σ.rename file.path = file.path := by
      cases htemporary : file.temporary with
      | false => exact h.claimed file hfile htemporary
      | true =>
          have hmem : file.path ∈ copyPaths s.session.registry.identities :=
            List.mem_map.2 ⟨file.identity,
              List.mem_filter.2 ⟨List.mem_map_of_mem hfile, htemporary⟩, rfl⟩
          obtain ⟨number, hnumber, _, hcopy⟩ := hcopies.exists_isCopy hmem
          rw [show file.path = σ.copyName number from hcopy.name, σ.rename_copyName,
            σ.number_of_lt (by omega)]
    rw [renameFile, hpath]
  rw [renameRegistry, List.map_congr_left hfile, List.map_id']

/-- **With and without a declined offer**, the same has been claimed. -/
theorem parallel_of_leavesNoTrace (h : LeavesNoTrace input s cs s')
    (hdirectory : s.session.temporaryDirectory = some σ.path)
    (hhosts : σ.Hosts s.world.world.disk) (hcopies : HasCopies σ.path σ.directory s origins)
    (hfirst : σ.first = s.session.copied) (hstep : σ.step = if input.isMember then 1 else 0)
    (hoblivious : σ.Oblivious Q s turns) : σ.Parallel Q s s' := by
  obtain ⟨-, hsession, readPlan, journal, hmachine⟩ := h
  have hcounting : s'.session = { s.session with copied := s.session.copied + σ.step } := by
    rw [hsession, counting, hstep]
    split <;> rfl
  refine ⟨⟨?_, ?_, ?_, ?_, ?_, ?_, hoblivious.options⟩, ?_, .inl ⟨hdirectory, hhosts⟩⟩
  · rw [hoblivious.renameRegistry_eq hcopies hfirst, hcounting]
  · rw [List.map_congr_left hoblivious.produced, List.map_id', hcounting]
  · rw [hcounting]
  · rw [hcounting]
  · exact fun _ => ⟨Nat.le_of_eq hfirst, by rw [hcounting]⟩
  · intro entry hentry htemporary
    -- a copy that has been made has a number below that of the next one
    have hmem : entry.1 ∈ copyPaths s.session.registry.identities :=
      List.mem_map.2 ⟨entry, List.mem_filter.2 ⟨hentry, htemporary⟩, rfl⟩
    obtain ⟨number, hnumber, _, hcopy⟩ := hcopies.exists_isCopy hmem
    have hname : entry.1 = σ.copyName number := hcopy.name
    have hsame : σ.number number = number := σ.number_of_lt (by omega)
    have hshort := hcopy.short
    rw [hname] at hshort
    refine ⟨number, hname, hshort.1, ?_, hshort.2, ?_⟩
    · rw [hsame]
      exact hshort.1
    · rw [hsame]
      exact hshort.2
  · rw [hmachine]
    have hopened : ∀ entry ∈ s.world.world.opened, (entry.1, σ.move entry.2) = entry := by
      intro entry hentry
      have hmove : σ.move entry.2 = entry.2 :=
        σ.move_of_lt fun n hn => hcopies.unopened n (hfirst ▸ hn) entry hentry
      rw [hmove]
    exact ⟨.of_vacant hhosts fun n hn => hcopies.vacant n (hfirst ▸ hn),
      (List.map_congr_left hopened).trans (List.map_id' _) |>.symm, hoblivious.opened, rfl, rfl,
      hoblivious.programs, hoblivious.linker⟩

/-- A declined file leaves nothing but a report behind. -/
theorem quiet_of_declined_file (hmember : input.isMember = false)
    (hdeclined : (claimFile input s).1 = .ok false) :
    ((Operation.offer input).after s).quiet = s.quiet := by
  have hlive : s.session.temporaryDirectory.isSome = true := by
    cases hdirectory : s.session.temporaryDirectory with
    | some path => rfl
    | none =>
        have hfailed : (claimFile input s).1.isOk = false := (inert_offer hdirectory input).result
        rw [hdeclined] at hfailed
        cases hfailed
  obtain ⟨cs, -, found, -, hdecided⟩ := yields_claimFile_of_file hmember hlive
  rw [hdeclined] at hdecided
  obtain ⟨-, hsession, journal, hworld⟩ := hdecided.of_declined
  refine Live.quiet_eq_iff.2 ⟨hsession, ?_⟩
  change (claimFile input s).2.world.world.quiet = _
  rw [hworld]
  rfl

/-- A declined member leaves nothing but a report behind, and a number that is left out. -/
theorem Hides.parallel (h : σ.Hides Q s turns) (hmember : input.isMember = true)
    (hdeclined : (claimFile input s).1 = .ok false) :
    LeavesNoTrace input s ((Operation.offer input).calls s) ((Operation.offer input).after s) ∧
      σ.Parallel Q s ((Operation.offer input).after s) := by
  obtain ⟨origins, hreached⟩ := h.reached
  obtain ⟨hdirectory, hhosts⟩ := hreached.hosts h.keepOut
  have hcopies := hreached.hasCopies h.keepOut h.elsewhere
  obtain ⟨cs, hext, hhandled⟩ := yields_claimFile_handled hdirectory hhosts input
  rw [hdeclined] at hhandled
  have htrace : LeavesNoTrace input s ((Operation.offer input).calls s)
      ((Operation.offer input).after s) := by
    rw [(Operation.offer input).calls_eq hext]
    exact hhandled.leavesNoTrace (hcopies.vacant _ (Nat.le_refl _))
  have hstep : σ.step = if input.isMember then 1 else 0 := by rw [h.step, if_pos hmember]
  exact ⟨htrace,
    parallel_of_leavesNoTrace htrace hdirectory hhosts hcopies h.first hstep h.oblivious⟩

/-- No name of a copy gets too long. -/
theorem Hides.isShort (h : σ.Hides Q s turns) {n : Nat}
    (hn : n < s.session.copied + memberOffers turns) : σ.Short n := by
  have hfirst := h.first
  have hcount := h.count
  have hnumber : σ.number n ≤ n + 1 := by
    rw [← h.step, number]
    split <;> omega
  exact ⟨Claim.length_memberName_le (by omega), Claim.length_memberName_le (by omega),
    h.short n (by omega), h.short _ (by omega)⟩

/-- **Declined offers are invisible.**  Let a session, whatever has been done with it, decline a
file that it is offered.  Then the linker hears nothing of it.  If it was a file of its own,
everything that is done with the session after that is the same as it would be without the offer.
If it was a member of an archive, the files and the registry are what they were, and everything is
seen as it would be seen without the offer, with copies that have numbers larger by one.  Nothing
around the session must depend on these numbers, then. -/
theorem declined_offers_are_invisible (L : Type) [Linker L] (s : Live (Traced (Machine L)))
    (input : InputFile) (hdeclined : (claimFile input s).1 = .ok false) :
    let offer := Operation.offer input
    let s' := offer.after s
    heard (offer.calls s) = [] ∧
    (input.isMember = false → s'.quiet = s.quiet ∧ ∀ (earlier : List (Turn L)) (turn : Turn L),
      turn.SeenSame (play s earlier) (play s' earlier)) ∧
    (input.isMember = true → ∀ (Q : L → L → Prop) (σ : Renumbering) (turns : List (Turn L)),
      σ.Hides Q s turns →
        (s'.session.registry = s.session.registry ∧ s'.world.world.disk = s.world.world.disk) ∧
        ∀ earlier turn later, turns = earlier ++ turn :: later →
          σ.SeenAlike turn (play s earlier) (play s' earlier)) := by
  intro offer s'
  refine ⟨?_, fun hmember => ?_, fun hmember Q σ turns hhides => ?_⟩
  · obtain ⟨cs, hext, hown⟩ := yields_claimFile_declined (s := s) input
    rw [offer.calls_eq hext]
    exact heard_of_own (hown hdeclined)
  · have hquiet := quiet_of_declined_file hmember hdeclined
    exact ⟨hquiet, fun earlier turn => seenSame_play hquiet earlier turn⟩
  · obtain ⟨htrace, hparallel⟩ := hhides.parallel hmember hdeclined
    obtain ⟨readPlan, journal, hmachine⟩ := htrace.machine
    refine ⟨⟨?_, by rw [hmachine]⟩, fun earlier turn later hsplit => ?_⟩
    · rw [htrace.session, counting, if_pos hmember]
      rfl
    · exact hparallel.seenAlike hhides.oblivious.linkers hhides.oblivious.during
        hhides.oblivious.resolutions (fun n hn => hhides.isShort hn) hsplit

/-! ### A declined member -/

/-- A name that leads to a file which lists others does so however copies are numbered. -/
theorem leadsPast_of_locate {d : Disk} {file : Path} {l : Location} (hl : d.locate file = .ok l)
    (hlisting : σ.listing l) (hseparator : Disk.endsInSeparator file = false) :
    σ.LeadsPast d file := by
  intro d' hdisks
  refine ⟨?_, fun hends => ?_, fun l' hl' => ?_⟩
  · rw [hl]
    exact (Disk.locateWith_congr hdisks.sameWays hdisks.current).1 hl
  · rw [hseparator] at hends
    cases hends
  · obtain rfl := Except.ok.inj (hl.symm.trans hl')
    exact hlisting

/-- Two linkers follow the same script from here on. -/
def FollowsScript (l l' : ScriptedLinker) : Prop :=
  l'.resolutions = l.resolutions ∧ l'.planned = l.planned

/-- **A linker that follows a script does not look at names.** -/
theorem linkersAlike_scripted (σ : Renumbering) : σ.LinkersAlike FollowsScript := by
  have htake : ∀ (l l' : ScriptedLinker) function call call', FollowsScript l l' →
      σ.AnswersAlike FollowsScript (l.take function call) (l'.take function call') := by
    rintro l l' function call call' ⟨hresolutions, hplanned⟩
    unfold AnswersAlike ScriptedLinker.take
    rw [hplanned]
    rcases ScriptedLinker.due function l.planned with ⟨_ | message, planned⟩
    · exact ⟨rfl, hresolutions, rfl⟩
    · exact ⟨rfl, hresolutions, rfl⟩
  refine ⟨fun l l' _ _ h => htake l l' _ _ _ h, fun l l' handle symbols h => ?_,
    fun l l' _ h => htake l l' _ _ _ h, fun l l' _ h => htake l l' _ _ _ h, fun _ _ h => h⟩
  obtain ⟨hresult, hafter⟩ := htake l l' .getSymbols
    (.getSymbols handle (symbols.map (·.name.bytes)))
    (.getSymbols handle (symbols.map (·.name.bytes))) h
  simp only [Linker.getSymbols]
  generalize l.take _ _ = x at hresult hafter ⊢
  generalize l'.take _ _ = x' at hresult hafter ⊢
  obtain ⟨answer, l⟩ := x
  obtain ⟨answer', l'⟩ := x'
  obtain rfl : answer' = σ.renameResult answer := hresult
  have hresolutions : l'.resolutions = l.resolutions := hafter.1
  cases answer with
  | error failure => exact ⟨rfl, rfl, hafter⟩
  | ok _ =>
      simp only [renameResult, Except.mapError, hresolutions]
      cases l.resolutions.lookup handle with
      | none => exact ⟨rfl, rfl, hafter⟩
      | some entered => exact ⟨rfl, rfl, hafter⟩

/-- A backend that has nothing to say. -/
def silentBackend : Launcher := fun disk _ _ => (.ok { output := [], status := .exited 0 }, disk)

theorem programsAlike_silentBackend (σ : Renumbering) : σ.ProgramsAlike silentBackend :=
  fun _ _ _ _ hdisks hhosts => ⟨.ok ⟨rfl, rfl, rfl, rfl⟩, hdisks, hhosts⟩

/-- The machine with the archive, with such a backend. -/
def silentMachine : Machine ScriptedLinker where
  disk := archiveMachine.disk
  opened := archiveMachine.opened
  launcher := silentBackend
  linker := {}
  journal := { subscriber := .nobody }

/-- A session on it. -/
def silentSession : Live (Traced (Machine ScriptedLinker)) :=
  begun { resolutionFile := some [47, 114], backendWords := ["b"] } [47, 116] silentMachine

/-- All copies have the next numbers; `/r` lists files, too. -/
def nextNumbers : Renumbering where
  path := [47, 116]
  directory := [[116]]
  path_ne_nil := nofun
  first := 0
  step := 1
  listing l := l = [[116], Backend.argumentsName] ∨ l = [[114]]
  arguments := .inl rfl
  copies number := by
    rintro (h | h)
    · exact not_isCopyLocation_arguments [[116]] ⟨number, h.symm⟩
    · cases h

/-- A member of a single byte. -/
def byteInput : InputFile := { memberInput with size := 1 }

/-- The object is offered, and the session goes on to its end. -/
def silentTurns : List (Turn ScriptedLinker) :=
  [{ operation := .offer memberInput }, { operation := .allSymbolsRead }, { operation := .cleanup }]

theorem oblivious_silentSession :
    nextNumbers.Oblivious FollowsScript silentSession silentTurns where
  linkers := linkersAlike_scripted _
  linker := ⟨rfl, rfl⟩
  programs := programsAlike_silentBackend _
  opened := by
    rintro entry hentry (h | h) <;> revert entry <;> decide
  options := by
    refine ⟨?_, nofun⟩
    rintro p (hp | hp)
    · cases hp
    · obtain rfl := Option.some.inj hp
      decide +kernel
  claimed := nofun
  produced := nofun
  during := by
    intro turn hturn
    have hmeanwhile : turn.meanwhile = id ∧ ∀ input, turn.operation = .offer input →
        input = memberInput := by
      simp only [silentTurns, List.mem_cons, List.not_mem_nil, or_false] at hturn
      rcases hturn with rfl | rfl | rfl
      · exact ⟨rfl, fun input hinput => (Operation.offer.inj hinput).symm⟩
      · exact ⟨rfl, nofun⟩
      · exact ⟨rfl, nofun⟩
    refine ⟨?_, ?_, fun input hinput => ?_⟩
    · rw [hmeanwhile.1]
      exact fun _ _ h => h
    · rw [hmeanwhile.1]
      exact fun _ h => h
    · rw [hmeanwhile.2 input hinput]
      decide +kernel
  resolutions := by
    intro earlier turn later hsplit hread file hfile
    -- only the second turn writes resolutions
    rcases earlier with _ | ⟨first, _ | ⟨second, _ | ⟨third, rest⟩⟩⟩
    · cases hsplit
      cases hread
    · cases hsplit
      have hresolutions : (play silentSession [{ operation := .offer memberInput }]
          ).session.options.resolutionFile = some [47, 114] := by
        decide +kernel
      obtain rfl := Option.some.inj (hfile.symm.trans hresolutions)
      exact leadsPast_of_locate (l := [[114]]) (by decide +kernel) (.inr rfl) (by decide)
    · cases hsplit
      cases hread
    · simp [silentTurns] at hsplit

theorem hides_silentSession : nextNumbers.Hides FollowsScript silentSession silentTurns where
  reached := ⟨[], .begin { isFresh_archiveMachine with }⟩
  keepOut := programsKeepOut_of_all rfl
  elsewhere := resolutionsElsewhere_of_all (show _ = some [47, 114] from rfl) rfl
  first := rfl
  step := rfl
  oblivious := oblivious_silentSession
  count := by decide
  short := by decide +kernel

theorem declined_offers_are_invisible_sample :
    let first : Turn ScriptedLinker := { operation := .offer memberInput }
    let second : Turn ScriptedLinker := { operation := .allSymbolsRead }
    let member := (Operation.offer byteInput).after silentSession
    let file := (Operation.offer { fileInput with size := 1 }).after silentSession
    ((claimFile byteInput silentSession).1 = .ok false ∧
      (play member [first]).session.registry.paths = [nextNumbers.copyName 1] ∧
      nextNumbers.SeenAlike second (play silentSession [first]) (play member [first])) ∧
    ((claimFile { fileInput with size := 1 } silentSession).1 = .ok false ∧
      (play file [first]).session.registry.paths = [nextNumbers.copyName 0] ∧
      second.SeenSame (play silentSession [first]) (play file [first])) := by
  intro first second member file
  have hmember : (claimFile byteInput silentSession).1 = .ok false := by decide +kernel
  have hfile : (claimFile { fileInput with size := 1 } silentSession).1 = .ok false := by
    decide +kernel
  obtain ⟨-, -, hseen⟩ := declined_offers_are_invisible ScriptedLinker silentSession _ hmember
  obtain ⟨-, hseen⟩ := hseen rfl FollowsScript nextNumbers silentTurns hides_silentSession
  obtain ⟨-, hsame, -⟩ := declined_offers_are_invisible ScriptedLinker silentSession _ hfile
  exact ⟨⟨hmember, by decide +kernel, hseen [first] second _ rfl⟩,
    hfile, by decide +kernel, (hsame rfl).2 [first] second⟩

end Renumbering

namespace Session

/-! ### Names that are too long -/

section

variable {L : Type} [Linker L] {path : Path} {directory : Location} {input : InputFile}
  {s : Live (Traced (Machine L))}

/-- An empty member is declined, if its copy can be made. -/
theorem claimFile_of_empty_member (hdirectory : s.session.temporaryDirectory = some path)
    (hspot : s.world.world.disk.IsSpot (Claim.memberPath path s.session.copied)
      (copyLocation directory s.session))
    (hsource : s.world.world.opened.lookup input.file ≠ some (copyLocation directory s.session))
    (hmember : input.isMember = true) (hsize : input.size = 0)
    (hplace : input.offset < Machine.positionLimit) {contents : Bytes} {executable : Bool}
    (hnode : s.world.world.node input.file = .ok (.file contents executable))
    (hoffset : input.offset ≤ contents.length) : (claimFile input s).1 = .ok false := by
  obtain ⟨cs, -, hstuck | ⟨bytes, m, -, hbytes, hdecided⟩⟩ :=
    yields_claimFile_of_member hmember hdirectory hspot
  · exact absurd (by omega) (hstuck.incomplete hsource contents executable hnode (by omega))
  · obtain rfl : bytes = [] := List.eq_nil_of_length_eq_zero ((hbytes hsource).1.trans hsize)
    exact hdecided.result

end

/-- The directory `/t`, under a name with more separators than it needs. -/
def spacious (separators : Nat) : Path := List.replicate separators Path.separator ++ [116]

theorem length_spacious (separators : Nat) : (spacious separators).length = separators + 1 := by
  simp [spacious]

theorem spacious_ne_nil (separators : Nat) : spacious separators ≠ [] := by
  simp [spacious]

theorem isFresh_spacious {separators : Nat} (hone : 0 < separators)
    (hlong : separators + 1 < Disk.pathLimit) :
    IsFresh Renumbering.silentMachine (spacious separators) [[116]] := by
  have hcomponents : Disk.components (spacious separators) = [[116]] := by
    unfold spacious
    induction separators with
    | zero => decide
    | succ n ih =>
        rcases Nat.eq_zero_or_pos n with rfl | hn
        · decide
        · rw [← ih hn (by omega), List.replicate_succ, List.cons_append]
          simp [Disk.components, Disk.split]
  have horigin : Renumbering.silentMachine.disk.origin (spacious separators) = [] := by
    obtain ⟨n, rfl⟩ := Nat.exists_eq_succ_of_ne_zero (Nat.ne_of_gt hone)
    rfl
  have hname : 0 ∉ spacious separators ∧ spacious separators ≠ [] ∧
      (spacious separators).length < Disk.pathLimit := by
    refine ⟨?_, spacious_ne_nil _, by rwa [length_spacious]⟩
    simp [spacious, List.mem_replicate, Path.separator]
  refine { isFresh_archiveMachine with
    locate := Disk.locateWith_eq_ok_iff.2 ⟨hname, ?_⟩ }
  rw [horigin, hcomponents]
  decide

/-- The name of a copy is as long as all its parts. -/
theorem length_memberPath_spacious (separators number : Nat) :
    (Claim.memberPath (spacious separators) number).length =
      separators + 2 + (Claim.memberName number).length := by
  have hlast : (spacious separators).getLast? ≠ some Path.separator := by
    simp [spacious, Path.separator]
  have hpath : Claim.memberPath (spacious separators) number = spacious separators ++
      Path.separator :: Claim.memberName number :=
    ((IsOwnName.copy number).isEntryName.join_eq (spacious_ne_nil _)).trans (if_neg hlast)
  rw [hpath, List.length_append, length_spacious, List.length_cons]
  omega

/-- A name that leaves room for few more bytes. -/
def longPath : Path := spacious 4087

theorem isFresh_longPath : IsFresh Renumbering.silentMachine longPath [[116]] :=
  isFresh_spacious (by decide) (by decide)

/-- An empty member. -/
def emptyInput : InputFile := { memberInput with size := 0 }

/-- A session in this directory has done nothing but decline members. -/
structure HasDeclined (members : Nat) (s : Live (Traced (Machine ScriptedLinker))) : Prop where
  session : s.session = { options := {}, temporaryDirectory := some longPath, copied := members }
  disk : s.world.world.disk = Renumbering.silentMachine.disk
  opened : s.world.world.opened = Renumbering.silentMachine.opened

namespace HasDeclined

variable {members : Nat} {s : Live (Traced (Machine ScriptedLinker))}

theorem directory (h : HasDeclined members s) : s.session.temporaryDirectory = some longPath := by
  rw [h.session]

theorem hosts (h : HasDeclined members s) : Hosts s.world.world.disk longPath [[116]] := by
  have hreached : Reached longPath [[116]] (begun {} longPath Renumbering.silentMachine) [] :=
    .begin isFresh_longPath
  rw [h.disk]
  exact (hreached.hosts (programsKeepOut_of_all rfl)).2

/-- Ten empty members are declined. -/
theorem decline (h : HasDeclined members s) (hfew : members < 10) :
    (claimFile emptyInput s).1 = .ok false ∧
      HasDeclined (members + 1) ((Operation.offer emptyInput).after s) := by
  have hcopied : s.session.copied = members := by rw [h.session]
  have hspot : s.world.world.disk.IsSpot (Claim.memberPath longPath s.session.copied)
      (copyLocation [[116]] s.session) := by
    rw [hcopied, copyLocation, hcopied]
    refine h.hosts.isSpot_of_short (.copy members) (Claim.length_memberName_le (by omega)) ?_
    change (Claim.memberPath longPath members).length < Disk.pathLimit
    have hdigits : (Bytes.decimal members).length ≤ 1 :=
      Bytes.length_decimal_le (by omega) (by omega)
    rw [longPath, length_memberPath_spacious, Claim.memberName_eq, Disk.pathLimit]
    simp only [List.length_append, List.length_cons, List.length_nil]
    omega
  have hlookup : s.world.world.opened.lookup emptyInput.file = some [[97]] := by
    rw [h.opened]
    rfl
  have hnode : s.world.world.node emptyInput.file =
      .ok (.file (33 :: sampleObject sampleTable.encode) false) := by
    rw [Machine.node, hlookup, h.disk]
    rfl
  have hsource : s.world.world.opened.lookup emptyInput.file ≠
      some (copyLocation [[116]] s.session) := by
    rw [hlookup]
    simp [copyLocation]
  have hdeclined : (claimFile emptyInput s).1 = .ok false :=
    claimFile_of_empty_member h.directory hspot hsource rfl rfl (by decide) hnode
      (by simp [emptyInput, memberInput])
  obtain ⟨cs, hext, hhandled⟩ := yields_claimFile_handled h.directory h.hosts emptyInput
  rw [hdeclined] at hhandled
  have hvacant : s.world.world.disk.tree.get? (copyLocation [[116]] s.session) = none := by
    rw [h.disk]
    exact isFresh_longPath.empty _ (List.prefix_append _ _) (by simp [copyLocation])
  obtain ⟨-, hsession, readPlan, journal, hmachine⟩ := hhandled.leavesNoTrace hvacant
  refine ⟨hdeclined, ?_, ?_, ?_⟩
  · change (claimFile emptyInput s).2.session = _
    rw [hsession, h.session]
    rfl
  · change (claimFile emptyInput s).2.world.world.disk = _
    rw [hmachine, ← h.disk]
  · change (claimFile emptyInput s).2.world.world.opened = _
    rw [hmachine, ← h.opened]

/-- The next one is not declined, since its copy cannot be made. -/
theorem fail (h : HasDeclined 10 s) : (claimFile emptyInput s).1.isOk = false := by
  have hlong : ∀ l, s.world.world.disk.locate (Claim.memberPath longPath s.session.copied) ≠
      .ok l := by
    rw [h.session]
    intro l hl
    have hshort : (Claim.memberPath longPath 10).length < Disk.pathLimit :=
      (Disk.short_of_locateWith_join (spacious_ne_nil _) (IsOwnName.copy 10).isEntryName hl).2
    rw [longPath, length_memberPath_spacious] at hshort
    exact absurd hshort (by decide)
  have hoffer : (claimFile emptyInput).Yields s _ :=
    yields_claimFile_of_not_located rfl h.directory hlong
  obtain ⟨cs, -, ⟨failure, hresult⟩, -⟩ := hoffer
  rw [hresult]
  rfl

end HasDeclined

/-- **A declined offer is noticed**: whether one more file is handled in the end, after some
operations, depends on whether the declined one was offered before. -/
def IsNoticed {L : Type} [Linker L] (s : Live (Traced (Machine L))) (input : InputFile)
    (ops : List Operation) (last : InputFile) : Prop :=
  (claimFile input s).1 = .ok false ∧
    (claimFile last (run ((Operation.offer input).after s) ops)).1.isOk ≠
      (claimFile last (run s ops)).1.isOk

instance {L : Type} [Linker L] (s : Live (Traced (Machine L))) (input : InputFile)
    (ops : List Operation) (last : InputFile) : Decidable (IsNoticed s input ops last) :=
  inferInstanceAs (Decidable (_ ∧ _))

/-- The tenth empty member is declined, but not if one more has been declined before it. -/
theorem isNoticed_by_long_name :
    IsNoticed (run (begun {} longPath Renumbering.silentMachine)
      (List.replicate 9 (.offer emptyInput))) emptyInput [] emptyInput := by
  have hstart : HasDeclined 0 (begun {} longPath Renumbering.silentMachine) := ⟨rfl, rfl, rfl⟩
  have hrun : ∀ members ≤ 9, HasDeclined members (run (begun {} longPath Renumbering.silentMachine)
      (List.replicate members (.offer emptyInput))) := by
    intro members
    induction members with
    | zero => exact fun _ => hstart
    | succ members ih =>
        intro hle
        rw [List.replicate_succ', run_concat]
        exact ((ih (by omega)).decline (by omega)).2
  obtain ⟨hdeclined, hafter⟩ := (hrun 9 (Nat.le_refl _)).decline (by omega)
  refine ⟨hdeclined, ?_⟩
  have hnil : ∀ s : Live (Traced (Machine ScriptedLinker)), run s [] = s := fun _ => rfl
  rw [hnil, hnil, hafter.fail, hdeclined]
  decide

/-! ### Another directory, and a list of names -/

/-- A machine with another directory `/u`, in which there are an arguments file and a directory
`obj1.o`.  The backend puts a link to it in place of the temporary directory. -/
def replacingMachine : Machine ScriptedLinker :=
  { Renumbering.silentMachine with
    disk :=
      { tree := ⟨archiveMachine.disk.tree.nodes ++ [([[117]], .directory),
          ([[117], Backend.argumentsName], .file [] false),
          ([[117], Claim.memberName 1], .directory)]⟩
        current := [] }
    launcher := fun disk _ _ => (.ok { output := [], status := .exited 0 },
      { disk with tree := disk.tree.eraseBelow [[116]] }.put [[116]] (.link [47, 117])) }

/-- The session after a file has been claimed. -/
def claimedOne : Live (Traced (Machine ScriptedLinker)) :=
  (Operation.offer fileInput).after (begun { backendWords := ["b"] } [47, 116] replacingMachine)

/-- A machine on which the resolution file `/r` has been opened. -/
def readingMachine : Machine ScriptedLinker :=
  { Renumbering.silentMachine with
    disk :=
      { tree := ⟨([[114]], .file [] false) :: archiveMachine.disk.tree.nodes⟩, current := [] }
    opened := (5, [[114]]) :: archiveMachine.opened }

/-- The session after nine members have been declined. -/
def declinedNine : Live (Traced (Machine ScriptedLinker)) :=
  run (begun sampleOptions [47, 116] readingMachine) (List.replicate 9 (.offer emptyInput))

/-- An offer of a member of the resolution file. -/
def listedInput : InputFile := { path := [114], file := 5, offset := 1, size := 34, handle := 9 }

/-- **A declined member may be noticed**, for different reasons: because the names of later copies
get too long; because the backend has put another directory in place of the temporary directory,
before the member is offered or after that, with something else under the name of a copy; and
because the linker offers the resolution file, in which the copies are listed. -/
theorem declined_members_may_be_noticed :
    IsNoticed (run (begun {} longPath Renumbering.silentMachine)
        (List.replicate 9 (.offer emptyInput))) emptyInput [] emptyInput ∧
      IsNoticed (run claimedOne [.allSymbolsRead]) emptyInput [] emptyInput ∧
      IsNoticed claimedOne emptyInput [.allSymbolsRead] emptyInput ∧
      IsNoticed declinedNine emptyInput [.offer memberInput, .allSymbolsRead] listedInput :=
  ⟨isNoticed_by_long_name, by decide +kernel, by decide +kernel, by decide +kernel⟩

end Session

end LtoBridge
