/-
**What is decided about an offered file.**

On a machine, everything that the session decides about an offer follows from the table that was
found and from what the linker says to its symbols.  A file that is not claimed leaves no copy.

Main definitions:

* `LtoBridge.Session.Verdict`: what becomes of an offered file;
* `LtoBridge.Session.judge`: the verdict, and what the linker hears before it;
* `LtoBridge.Session.Decided`: an offer came out as a judgement says;
* `LtoBridge.Session.Handled`: all that an offer can do.

Main results:

* `LtoBridge.Session.yields_claimFile_of_file`, `LtoBridge.Session.yields_claimFile_of_member`:
  **what is decided about an offer**;
* `LtoBridge.Session.yields_claimFile_handled`: an offer does nothing else.
-/

import LtoBridge.Proofs.Session.Copies
import LtoBridge.Proofs.Session.Place

set_option autoImplicit false

namespace LtoBridge

variable {L : Type}

/-! ### What the linker hears -/

/-- **What the linker hears**: the calls that reach it, each with what it was like then. -/
def heard (cs : List (Call (Machine L))) : List (Effect × L) :=
  (cs.filter (·.effect.isLinker)).map fun c => (c.effect, c.before.linker)

@[simp] theorem heard_append (cs cs' : List (Call (Machine L))) :
    heard (cs ++ cs') = heard cs ++ heard cs' := by
  simp [heard]

/-- Nothing is heard of the session's own calls. -/
theorem heard_of_own {cs : List (Call (Machine L))} (h : ∀ c ∈ cs, c.effect.IsOwn) :
    heard cs = [] := by
  simpa [heard, List.filter_eq_nil_iff] using h

namespace Session

/-! ### Verdicts -/

/-- What becomes of an offered file. -/
inductive Verdict
  | claimed (table : SymbolTable)
  | declined
  | malformed (fault : SymbolTable.Malformed)
  | rejected (failure : Failure)
  deriving DecidableEq

namespace Verdict

/-- The symbols of a file that is claimed. -/
def table? : Verdict → Option SymbolTable
  | claimed table => some table
  | _ => none

/-- How the verdict comes out on a file that was offered under one name and is kept under
another. -/
def result (offered kept : Path) : Verdict → Except Failure Bool
  | claimed _ => .ok true
  | declined => .ok false
  | malformed fault => .error ⟨.malformedTable fault, [.symbolTable kept]⟩
  | rejected failure => .error (failure.within (.addingSymbols offered))

/-- The session after the verdict on a file that is kept under a name. -/
def enter (session : Session) (input : InputFile) (kept : Path) (v : Verdict) : Session :=
  match v.table? with
  | some table =>
      { session with
        registry := session.registry.push ⟨kept, input.handle, input.isMember, some table⟩ }
  | none => session

end Verdict

/-- A verdict, what the linker heard before it, and the linker afterwards. -/
structure Judgement (L : Type) where
  verdict : Verdict
  asked : List (Effect × L)
  linker : L

/-- **What is decided about a file** with a handle in which something was found. -/
def judge [Linker L] (handle : Handle) (linker : L) : Claim.Finding → Judgement L
  | .error fault => ⟨.malformed fault, [], linker⟩
  | .ok none => ⟨.declined, [], linker⟩
  | .ok (some table) =>
      let asked := [(Effect.addSymbols handle table.symbols, linker)]
      match Linker.addSymbols handle table.symbols linker with
      | (.ok (), linker) => ⟨.claimed table, asked, linker⟩
      | (.error failure, linker) => ⟨.rejected failure, asked, linker⟩

variable [Linker L]

/-- **An offer came out as a judgement says**, with a session and a machine on which all has been
read: the result and what the linker heard are those of the judgement, and a file that is not
claimed leaves the disk with which it is given up. -/
structure Decided (input : InputFile) (kept : Path) (j : Judgement L) (session : Session)
    (m : Machine L) (unclaimed : Disk) (r : Except Failure Bool) (cs : List (Call (Machine L)))
    (s' : Live (Traced (Machine L))) : Prop where
  result : r = j.verdict.result input.path kept
  heard : heard cs = j.asked
  session : s'.session = j.verdict.enter session input kept
  world : ∃ journal, s'.world.world =
    { m with
      disk := if j.verdict.table?.isSome then m.disk else unclaimed
      linker := j.linker
      journal }

/-- Only a file with a table is claimed. -/
theorem eq_of_judge_claimed {handle : Handle} {linker : L} {found : Claim.Finding}
    {table : SymbolTable} (h : (judge handle linker found).verdict = .claimed table) :
    found = .ok (some table) := by
  match found with
  | .error fault => cases h
  | .ok none => cases h
  | .ok (some table') =>
      obtain ⟨answer, linker', hadded⟩ : ∃ answer linker',
          Linker.addSymbols handle table'.symbols linker = (answer, linker') := ⟨_, _, rfl⟩
      cases answer with
      | ok _ =>
          simp only [judge, hadded, Verdict.claimed.injEq] at h
          rw [h]
      | error failure => simp [judge, hadded] at h

namespace Decided

variable {input : InputFile} {kept : Path} {j : Judgement L} {session : Session} {m : Machine L}
  {unclaimed : Disk} {r : Except Failure Bool} {cs : List (Call (Machine L))}
  {s' : Live (Traced (Machine L))}

omit [Linker L] in
/-- What is claimed is kept and entered in the registry. -/
theorem of_claimed (h : Decided input kept j session m unclaimed r cs s') (hr : r = .ok true) :
    ∃ table journal, j.verdict = .claimed table ∧
      s'.session = { session with
        registry := session.registry.push ⟨kept, input.handle, input.isMember, some table⟩ } ∧
      s'.world.world = { m with linker := j.linker, journal } := by
  obtain ⟨hresult, -, hsession, journal, hworld⟩ := h
  rw [hr] at hresult
  cases hverdict : j.verdict with
  | claimed table =>
      rw [hverdict] at hsession hworld
      exact ⟨table, journal, rfl, hsession, hworld⟩
  | _ =>
      rw [hverdict] at hresult
      cases hresult

omit [Linker L] in
/-- What is not claimed is given up. -/
theorem of_unclaimed (h : Decided input kept j session m unclaimed r cs s') (hr : r ≠ .ok true) :
    s'.session = session ∧
      ∃ journal, s'.world.world = { m with disk := unclaimed, linker := j.linker, journal } := by
  obtain ⟨hresult, -, hsession, journal, hworld⟩ := h
  cases hverdict : j.verdict with
  | claimed table =>
      rw [hverdict] at hresult
      exact absurd hresult hr
  | _ =>
      rw [hverdict] at hsession hworld
      exact ⟨hsession, journal, hworld⟩

end Decided

/-- The disk without the copy of an offered file, if there is one. -/
def GivesUp (input : InputFile) (kept : Path) (d d' : Disk) : Prop :=
  if input.isMember then d.remove kept = .ok d' else d' = d

section

variable {s : Live (Traced (Machine L))} {input : InputFile} {kept : Path}

/-- A report changes nothing but the journal. -/
theorem yields_tell_machine (span : Span) (notice : Notice) :
    (tell span notice).Yields s fun r cs s' => r = .ok () ∧ heard cs = [] ∧
      s'.session = s.session ∧ ∃ journal, s'.world.world = { s.world.world with journal } :=
  ⟨[⟨.report ⟨notice, some span⟩, s.world.world⟩], .single _ _, rfl, rfl, rfl, _, rfl⟩

theorem yields_tell_each_machine (span : Span) (notice : Symbol → Notice) (symbols : List Symbol) :
    (Act.forEach (fun symbol => tell span (notice symbol)) symbols).Yields s fun r cs s' =>
      r = .ok () ∧ heard cs = [] ∧ s'.session = s.session ∧
        ∃ journal, s'.world.world = { s.world.world with journal } := by
  induction symbols generalizing s with
  | nil => exact .pure ⟨rfl, rfl, rfl, s.world.world.journal, rfl⟩
  | cons symbol symbols ih =>
      refine (yields_tell_machine span (notice symbol)).bind ?_ ?_
      · rintro _ cs s' ⟨-, hcs, hs', journal, hw⟩
        refine ih.mono ?_
        rintro r cs' s'' ⟨hr, hcs', hs'', journal', hw'⟩
        exact ⟨hr, by rw [heard_append, hcs, hcs']; rfl, hs''.trans hs', journal', by rw [hw', hw]⟩
      · rintro _ _ _ ⟨⟨⟩, -⟩

/-- A copy is given up without a failure. -/
theorem yields_discard {unclaimed : Disk}
    (hgive : GivesUp input kept s.world.world.disk unclaimed) :
    (discard input kept).Yields s fun r cs s' => r = .ok () ∧ heard cs = [] ∧
      s'.session = s.session ∧ s'.world.world = { s.world.world with disk := unclaimed } := by
  unfold GivesUp at hgive
  unfold discard
  split
  · rename_i hmember
    rw [if_pos hmember] at hgive
    have hremoved : Machine.onDisk (·.remove kept) s.world.world =
        (.ok (), { s.world.world with disk := unclaimed }) := by
      simp only [Machine.onDisk, hgive]
    refine yields_outside_iff.2 (Act.yields_within_iff.2
      (.ofOs rfl ⟨?_, rfl, rfl, congrArg Prod.snd hremoved⟩))
    change whileDoing _ ((Machine.onDisk (·.remove kept) s.world.world).1.mapError _) = _
    rw [hremoved]
    rfl
  · rename_i hmember
    rw [if_neg hmember] at hgive
    subst hgive
    exact .pure ⟨rfl, rfl, rfl, rfl⟩

/-- The linker gets the symbols of a file. -/
theorem yields_addSymbols (handle : Handle) (symbols : List Symbol) :
    (outside (Platform.addSymbols handle symbols)).Yields s fun r cs s' =>
      r = (Linker.addSymbols handle symbols s.world.world.linker).1 ∧
      heard cs = [(.addSymbols handle symbols, s.world.world.linker)] ∧ s'.session = s.session ∧
      s'.world.world =
        { s.world.world with
          linker := (Linker.addSymbols handle symbols s.world.world.linker).2 } :=
  ⟨[⟨.addSymbols handle symbols, s.world.world⟩], .single _ _, rfl, rfl, rfl, rfl⟩

/-- The symbols of a file are announced, and it is claimed or given up. -/
theorem yields_claim_machine (span : Span) (table : SymbolTable) {unclaimed : Disk}
    (hgive : GivesUp input kept s.world.world.disk unclaimed) :
    (claim span input kept table).Yields s fun r cs s' =>
      Decided input kept (judge input.handle s.world.world.linker (.ok (some table))) s.session
        s.world.world unclaimed (r.map fun _ => true) cs s' := by
  refine (yields_tell_each_machine span .offeredSymbol table.symbols).bind ?_ ?_
  · rintro _ cs s₁ ⟨-, hcs, hs₁, journal, hw₁⟩
    refine (yields_addSymbols input.handle table.symbols).attempt_bind ?_
    rintro answer cs₁ s₂ ⟨hanswer, hcs₁, hs₂, hw₂⟩
    have hlinker : s₁.world.world.linker = s.world.world.linker := by rw [hw₁]
    rw [hlinker] at hanswer hcs₁ hw₂
    generalize hadded : Linker.addSymbols input.handle table.symbols s.world.world.linker = added
      at hanswer hw₂
    obtain ⟨_, linker⟩ := added
    subst hanswer
    cases answer with
    | error failure =>
        -- the linker has rejected the symbols, and the copy is given up before that is reported
        have hgive₂ : GivesUp input kept s₂.world.world.disk unclaimed := by
          rw [hw₂, hw₁]
          exact hgive
        refine (yields_discard hgive₂).bind ?_ ?_
        · rintro _ cs₂ s₃ ⟨-, hcs₂, hs₃, hw₃⟩
          have hjudge : judge input.handle s.world.world.linker (.ok (some table)) =
              ⟨.rejected failure, [(.addSymbols input.handle table.symbols,
                s.world.world.linker)], linker⟩ := by
            simp only [judge, hadded]
          rw [hjudge]
          refine Act.yields_within_iff.2 (.ofResult ⟨rfl, ?_, ?_, journal, ?_⟩)
          · simp [hcs, hcs₁, hcs₂]
          · exact hs₃.trans (hs₂.trans hs₁)
          · rw [hw₃, hw₂, hw₁]
            rfl
        · rintro _ _ _ ⟨⟨⟩, -⟩
    | ok _ =>
        refine (yields_tell_machine span _).bind ?_ ?_
        · rintro _ cs₂ s₃ ⟨-, hcs₂, hs₃, journal', hw₃⟩
          refine (yields_update _).mono ?_
          rintro _ _ _ ⟨rfl, rfl, rfl⟩
          have hjudge : judge input.handle s.world.world.linker (.ok (some table)) =
              ⟨.claimed table, [(.addSymbols input.handle table.symbols,
                s.world.world.linker)], linker⟩ := by
            simp only [judge, hadded]
          rw [hjudge]
          refine ⟨rfl, ?_, ?_, journal', ?_⟩
          · simp [hcs, hcs₁, hcs₂]
          · rw [hs₃, hs₂, hs₁]
            rfl
          · rw [hw₃, hw₂, hw₁]
            rfl
        · rintro _ _ _ ⟨⟨⟩, -⟩
  · rintro _ _ _ ⟨⟨⟩, -⟩

/-- **Once something has been found, the offer comes out as it is judged.** -/
theorem yields_decide (span : Span) (found : Claim.Finding) {unclaimed : Disk}
    (hgive : GivesUp input kept s.world.world.disk unclaimed) :
    Act.Yields (match found.result kept with
      | .ok (some table) => do
          claim span input kept table
          pure true
      | .ok none => do
          discard input kept
          tell span .notAnObject
          pure false
      | .error failure => do
          discard input kept
          Act.ofResult (.error failure)) s
      (Decided input kept (judge input.handle s.world.world.linker found) s.session s.world.world
        unclaimed) := by
  match found with
  | .ok (some table) =>
      refine (yields_claim_machine span table hgive).bind ?_ fun _ _ _ h => h
      rintro _ cs s' h
      refine .pure ?_
      rw [List.append_nil]
      exact h
  | .ok none =>
      refine (yields_discard hgive).bind ?_ ?_
      · rintro _ cs s₁ ⟨-, hcs, hs₁, hw₁⟩
        refine (yields_tell_machine span .notAnObject).bind ?_ ?_
        · rintro _ cs₁ s₂ ⟨-, hcs₁, hs₂, journal, hw₂⟩
          refine .pure ⟨rfl, by simp [hcs, hcs₁, judge], hs₂.trans hs₁, journal, ?_⟩
          rw [hw₂, hw₁]
          rfl
        · rintro _ _ _ ⟨⟨⟩, -⟩
      · rintro _ _ _ ⟨⟨⟩, -⟩
  | .error fault =>
      refine (yields_discard hgive).bind ?_ ?_
      · rintro _ cs s₁ ⟨-, hcs, hs₁, hw₁⟩
        refine .ofResult ⟨rfl, by simp [hcs, judge], hs₁, s₁.world.world.journal, ?_⟩
        rw [hw₁]
        rfl
      · rintro _ _ _ ⟨⟨⟩, -⟩

end

/-! ### Offers -/

section

variable {s : Live (Traced (Machine L))} {input : InputFile}

/-- **What is decided about a file that is no member of an archive**: it is read where it is. -/
theorem yields_claimFile_of_file (hmember : input.isMember = false)
    (hlive : s.session.temporaryDirectory.isSome = true) :
    (claimFile input).Yields s fun r cs s' => ∃ found,
      (∀ contents executable, s.world.world.node input.file = .ok (.file contents executable) →
        input.size ≤ contents.length → found = Claim.tableIn (contents.take input.size)) ∧
      Decided input input.path (judge input.handle s.world.world.linker found) s.session
        s.world.world s.world.world.disk r cs s' := by
  obtain ⟨directory, hdirectory⟩ := Option.isSome_iff_exists.1 hlive
  have hload : (load (Span.claimFile input.path) input).Yields s fun r cs s' => ∃ found,
      (∀ contents executable, s.world.world.node input.file = .ok (.file contents executable) →
        input.size ≤ contents.length → found = Claim.tableIn (contents.take input.size)) ∧
      r = .ok (input.path, found.result input.path) ∧ heard cs = [] ∧ s'.session = s.session ∧
      ∃ journal, s'.world.world = { s.world.world with journal } := by
    unfold load
    rw [hmember]
    have hread := yields_outside (Claim.yields_readSymbols_machine (t := s.world)
      (some (Span.claimFile input.path)) input.file input.size input.path)
    refine hread.attempt_bind ?_
    rintro _ cs s' ⟨⟨hcs, hw, found, hfound, rfl⟩, hs'⟩
    refine .pure ⟨found, hfound, rfl, ?_, hs', hw⟩
    rw [List.append_nil]
    exact heard_of_own hcs
  refine (yields_directory_bind_iff hdirectory).2 (hload.bind ?_ ?_)
  · rintro ⟨path, loaded⟩ cs s₁ ⟨found, hfound, hr, hcs, hs₁, journal, hw₁⟩
    obtain ⟨rfl, rfl⟩ := Prod.mk.inj (Except.ok.inj hr)
    have hgive : GivesUp input input.path s₁.world.world.disk s.world.world.disk := by
      rw [GivesUp, hmember, hw₁]
      rfl
    refine (yields_decide (Span.claimFile input.path) found hgive).mono ?_
    rintro r cs₁ s' ⟨hr, hheard, hs', journal', hw'⟩
    rw [hw₁] at hr hheard hs' hw'
    refine ⟨found, hfound, hr, by rw [heard_append, hcs, hheard]; rfl, by rw [hs', hs₁],
      journal', hw'⟩
  · rintro _ _ _ ⟨_, -, ⟨⟩, -⟩

/-- **The copying of a member failed**: nothing is decided, and what was copied is still there. -/
structure Stuck (input : InputFile) (l : Location) (session : Session) (m : Machine L)
    (r : Except Failure Bool) (cs : List (Call (Machine L))) (s' : Live (Traced (Machine L))) :
    Prop where
  result : ∃ failure : Failure, r = .error (failure.within (.extracting input.offset input.path))
  heard : heard cs = []
  session : s'.session = session
  world : ∃ bytes readPlan, s'.world.world =
    m.withFile l bytes (Disk.executableAt m.disk.tree l) readPlan
  incomplete : m.opened.lookup input.file ≠ some l → ∀ contents executable,
    m.node input.file = .ok (.file contents executable) →
      input.offset + input.size ≤ contents.length →
        ¬ input.offset + input.size < Machine.positionLimit

/-- The session after one more member has been copied. -/
def copiedOne (session : Session) : Session := { session with copied := session.copied + 1 }

/-- An archive member is copied to its spot. -/
theorem yields_extract_of_spot {path : Path} {l : Location}
    (hdirectory : s.session.temporaryDirectory = some path)
    (hspot : s.world.world.disk.IsSpot (Claim.memberPath path s.session.copied) l) :
    (extract input).Yields s fun r cs s' => ∃ copying bytes readPlan,
      r = (whileDoing (.extracting input.offset input.path) copying).map
        (fun _ => Claim.memberPath path s.session.copied) ∧
      heard cs = [] ∧ s'.session = copiedOne s.session ∧
      s'.world.world = s.world.world.withFile l bytes
        (Disk.executableAt s.world.world.disk.tree l) readPlan ∧
      (s.world.world.opened.lookup input.file ≠ some l →
        Extraction.Copied s.world.world input.file input.offset input.size bytes copying) := by
  refine (yields_directory_bind_iff hdirectory).2
    (yields_view_bind_iff.2 (yields_update_bind_iff.2 ?_))
  let m := s.world.world
  let context := Context.extracting input.offset input.path
  have hcopy : ((Extraction.copyRange input.file input.offset input.size
      (Claim.memberPath path s.session.copied)).within context).Yields s.world fun r cs t =>
        ∃ copying, r = whileDoing context copying ∧ Extraction.Copies m l
          (Disk.executableAt m.disk.tree l) [] input.file input.offset input.size copying cs t :=
    Act.yields_within_iff.2 ((Extraction.yields_copyRange hspot rfl).mono
      fun copying _ _ h => ⟨copying, rfl, h⟩)
  refine (yields_outside (s := { s with session := copiedOne s.session }) hcopy).bind ?_ ?_
  · rintro _ cs s' ⟨⟨copying, hr, hcs, bytes, readPlan, hw, hcopied⟩, hs'⟩
    refine .pure ⟨copying, bytes, readPlan, ?_, ?_, hs', hw, hcopied⟩
    · rw [← hr]
      rfl
    · rw [List.append_nil]
      exact heard_of_own hcs
  · rintro failure cs s' ⟨⟨copying, hr, hcs, bytes, readPlan, hw, hcopied⟩, hs'⟩
    refine ⟨copying, bytes, readPlan, ?_, heard_of_own hcs, hs', hw, hcopied⟩
    rw [← hr]
    rfl

/-- A member is copied to its spot, if that can be done, and then the copy is read. -/
theorem yields_load_of_member {path : Path} {l : Location} (span : Span)
    (hmember : input.isMember = true) (hdirectory : s.session.temporaryDirectory = some path)
    (hspot : s.world.world.disk.IsSpot (Claim.memberPath path s.session.copied) l) :
    (load span input).Yields s fun r cs s' => heard cs = [] ∧
      s'.session = copiedOne s.session ∧ ∃ bytes m, (∃ readPlan, m = s.world.world.withFile l bytes
        (Disk.executableAt s.world.world.disk.tree l) readPlan) ∧
      ((∃ failure, r = .error (failure.within (.extracting input.offset input.path)) ∧
          s'.world.world = m ∧ (s.world.world.opened.lookup input.file ≠ some l →
            Extraction.Copied s.world.world input.file input.offset input.size bytes
              (.error failure))) ∨
        r = .ok (Claim.memberPath path s.session.copied,
            (Claim.tableIn bytes).result (Claim.memberPath path s.session.copied)) ∧
          (∃ journal, s'.world.world = { m with journal }) ∧
          (s.world.world.opened.lookup input.file ≠ some l →
            Extraction.Copied s.world.world input.file input.offset input.size bytes
              (.ok ()))) := by
  unfold load
  rw [hmember]
  refine (yields_extract_of_spot hdirectory hspot).bind ?_ ?_
  · rintro kept cs s₁ ⟨copying, bytes, readPlan, hr, hcs, hs₁, hw₁, hcopied⟩
    cases copying with
    | error _ => cases hr
    | ok _ =>
        obtain rfl : kept = Claim.memberPath path s.session.copied := Except.ok.inj hr
        have hspot₁ : s₁.world.world.disk.IsSpot (Claim.memberPath path s.session.copied) l := by
          rw [hw₁]
          exact hspot.put _ _
        have hget₁ : s₁.world.world.disk.tree.get? l = some (.file bytes
            (Disk.executableAt s.world.world.disk.tree l)) := by
          rw [hw₁]
          exact Disk.get?_put_self hspot.isOpen _
        have hread := yields_outside (s := s₁)
          (Claim.yields_loadCopy_machine (some span) hspot₁ hget₁)
        refine hread.attempt_bind ?_
        rintro loaded cs₁ s₂ ⟨⟨hcs₁, ⟨journal, hw₂⟩, found, rfl, hloaded⟩, hs₂⟩
        refine .pure ⟨?_, hs₂.trans hs₁, bytes, _, ⟨readPlan, rfl⟩,
          .inr ⟨by rw [hloaded], ⟨journal, ?_⟩, hcopied⟩⟩
        · rw [List.append_nil, heard_append, hcs, heard_of_own hcs₁]
          rfl
        · rw [hw₂, hw₁]
  · rintro failure cs s₁ ⟨copying, bytes, readPlan, hr, hcs, hs₁, hw₁, hcopied⟩
    refine ⟨hcs, hs₁, bytes, _, ⟨readPlan, rfl⟩, .inl ?_⟩
    cases copying with
    | ok _ => cases hr
    | error failure' =>
        refine ⟨failure', ?_, hw₁, hcopied⟩
        rw [Except.error.inj hr]

/-- **What is decided about a member of an archive**: nothing, if it could not be copied, and
otherwise what its copy says. -/
theorem yields_claimFile_of_member {path : Path} {l : Location} (hmember : input.isMember = true)
    (hdirectory : s.session.temporaryDirectory = some path)
    (hspot : s.world.world.disk.IsSpot (Claim.memberPath path s.session.copied) l) :
    (claimFile input).Yields s fun r cs s' =>
      Stuck input l (copiedOne s.session) s.world.world r cs s' ∨
      ∃ bytes m, (∃ readPlan, m = s.world.world.withFile l bytes
          (Disk.executableAt s.world.world.disk.tree l) readPlan) ∧
        (s.world.world.opened.lookup input.file ≠ some l → bytes.length = input.size ∧
          s.world.world.HasBytes input.file input.offset bytes) ∧
        Decided input (Claim.memberPath path s.session.copied)
          (judge input.handle s.world.world.linker (Claim.tableIn bytes)) (copiedOne s.session) m
          { m.disk with tree := m.disk.tree.erase l } r cs s' := by
  let span := Span.claimFile input.path
  let kept := Claim.memberPath path s.session.copied
  have hload := yields_load_of_member span hmember hdirectory hspot
  refine (yields_directory_bind_iff hdirectory).2 (hload.bind ?_ ?_)
  · rintro ⟨kept', loaded⟩ cs s₁ ⟨hcs, hs₁, bytes, m, ⟨readPlan, hm⟩, hr⟩
    obtain ⟨failure, ⟨⟩, -⟩ | ⟨hr, ⟨journal, hw₁⟩, hcopied⟩ := hr
    obtain ⟨rfl, rfl⟩ := Prod.mk.inj (Except.ok.inj hr)
    have hgive : GivesUp input kept s₁.world.world.disk
        { m.disk with tree := m.disk.tree.erase l } := by
      rw [GivesUp, if_pos hmember, hw₁, hm]
      exact hspot.remove_put _ _
    have hlinker : s₁.world.world.linker = s.world.world.linker := by
      rw [hw₁, hm]
      rfl
    refine (yields_decide span (Claim.tableIn bytes) hgive).mono ?_
    rintro r cs₁ s' ⟨hr, hheard, hs', journal', hw'⟩
    rw [hlinker] at hr hheard hs' hw'
    refine .inr ⟨bytes, m, ⟨readPlan, hm⟩, fun hsource => (hcopied hsource).hasBytes rfl, hr,
      ?_, ?_, journal', ?_⟩
    · rw [heard_append, hcs, hheard]
      rfl
    · rw [hs', hs₁]
    · rw [hw', hw₁]
  · -- the early end of the offer does not give up what was copied
    rintro failure cs s₁ ⟨hcs, hs₁, bytes, m, ⟨readPlan, hm⟩, hr⟩
    obtain ⟨failure', hr, hw₁, hcopied⟩ | ⟨⟨⟩, -⟩ := hr
    refine .inl ⟨⟨failure', by rw [Except.error.inj hr]⟩, hcs, hs₁, ⟨bytes, readPlan, ?_⟩, ?_⟩
    · rw [hw₁, hm]
    · intro hsource contents executable hnode hend hlimit
      cases (hcopied hsource).complete contents executable hnode hend hlimit

/-- **No copy of a member was made**, since its name leads nowhere. -/
structure Unplaced {α : Type} (input : InputFile) (kept : Path) (session : Session) (m : Machine L)
    (r : Except Failure α) (cs : List (Call (Machine L))) (s' : Live (Traced (Machine L))) :
    Prop where
  result : ∃ failure : Failure, r = .error (failure.within (.extracting input.offset input.path))
  heard : heard cs = []
  session : s'.session = session
  world : s'.world.world = m
  failed : ∃ c ∈ cs, c.effect = .createFile kept ∧ c.succeeded = false

/-- Then nothing else is done. -/
theorem Unplaced.bind {α β : Type} {act : Act (Live (Traced (Machine L))) α}
    {f : α → Act (Live (Traced (Machine L))) β} {kept : Path} {session : Session} {m : Machine L}
    (h : act.Yields s (Unplaced input kept session m)) :
    (act >>= f).Yields s (Unplaced input kept session m) := by
  refine Act.Yields.bind h ?_ ?_
  · rintro _ _ _ ⟨⟨_, ⟨⟩⟩, -⟩
  · rintro _ cs s' ⟨⟨failure, ⟨⟩⟩, hcs, hs', hw, hfailed⟩
    exact ⟨⟨failure, rfl⟩, hcs, hs', hw, hfailed⟩

theorem yields_claimFile_of_not_located {path : Path} (hmember : input.isMember = true)
    (hdirectory : s.session.temporaryDirectory = some path)
    (hpath : ∀ l, s.world.world.disk.locate (Claim.memberPath path s.session.copied) ≠ .ok l) :
    (claimFile input).Yields s (Unplaced input (Claim.memberPath path s.session.copied)
      (copiedOne s.session) s.world.world) := by
  let kept := Claim.memberPath path s.session.copied
  let context := Context.extracting input.offset input.path
  have hcopy : (outside ((Extraction.copyRange input.file input.offset input.size kept).within
      context)).Yields { s with session := copiedOne s.session }
        (Unplaced input kept (copiedOne s.session) s.world.world) := by
    refine yields_outside_iff.2 (Act.yields_within_iff.2
      ((Extraction.yields_copyRange_of_not_located hpath).mono ?_))
    rintro r cs t ⟨hr, ht, hcs, hfailed⟩
    cases r with
    | ok _ => cases hr
    | error failure => exact ⟨⟨failure, rfl⟩, heard_of_own hcs, rfl, ht, hfailed⟩
  have hextract : (extract input).Yields s
      (Unplaced input kept (copiedOne s.session) s.world.world) :=
    (yields_directory_bind_iff hdirectory).2
      (yields_view_bind_iff.2 (yields_update_bind_iff.2 (Unplaced.bind hcopy)))
  have hload : (load (Span.claimFile input.path) input).Yields s
      (Unplaced input kept (copiedOne s.session) s.world.world) := by
    unfold load
    rw [hmember]
    exact Unplaced.bind hextract
  exact (yields_directory_bind_iff hdirectory).2 (Unplaced.bind hload)

/-! ### All that an offer can do -/

/-- Where the next copy of a session goes that a directory hosts. -/
def copyLocation (directory : Location) (session : Session) : Location :=
  directory ++ [Claim.memberName session.copied]

/-- **All that an offer can do** to a session that a directory hosts. -/
inductive Handled (input : InputFile) (path : Path) (directory : Location)
    (s : Live (Traced (Machine L))) (r : Except Failure Bool) (cs : List (Call (Machine L)))
    (s' : Live (Traced (Machine L))) : Prop
  | file (found : Claim.Finding) (hmember : input.isMember = false)
      (hfound : ∀ contents executable,
        s.world.world.node input.file = .ok (.file contents executable) →
          input.size ≤ contents.length → found = Claim.tableIn (contents.take input.size))
      (hdecided : Decided input input.path (judge input.handle s.world.world.linker found)
        s.session s.world.world s.world.world.disk r cs s')
  | unplaced (hmember : input.isMember = true)
      (hunplaced : Unplaced input (Claim.memberPath path s.session.copied) (copiedOne s.session)
        s.world.world r cs s')
  | stuck (hmember : input.isMember = true)
      (hspot : s.world.world.disk.IsSpot (Claim.memberPath path s.session.copied)
        (copyLocation directory s.session))
      (hstuck : Stuck input (copyLocation directory s.session) (copiedOne s.session) s.world.world
        r cs s')
  | member (bytes : Bytes) (readPlan : List ReadStep) (hmember : input.isMember = true)
      (hspot : s.world.world.disk.IsSpot (Claim.memberPath path s.session.copied)
        (copyLocation directory s.session))
      (hbytes : s.world.world.opened.lookup input.file ≠ some (copyLocation directory s.session) →
        bytes.length = input.size ∧ s.world.world.HasBytes input.file input.offset bytes)
      (hdecided : let l := copyLocation directory s.session
        let m := s.world.world.withFile l bytes
          (Disk.executableAt s.world.world.disk.tree l) readPlan
        Decided input (Claim.memberPath path s.session.copied)
          (judge input.handle s.world.world.linker (Claim.tableIn bytes)) (copiedOne s.session) m
          { m.disk with tree := m.disk.tree.erase l } r cs s')

/-- **An offer does nothing else.** -/
theorem yields_claimFile_handled {path : Path} {directory : Location}
    (hdirectory : s.session.temporaryDirectory = some path)
    (hhosts : Hosts s.world.world.disk path directory) (input : InputFile) :
    (claimFile input).Yields s (Handled input path directory s) := by
  cases hmember : input.isMember with
  | false =>
      have hlive : s.session.temporaryDirectory.isSome = true := by rw [hdirectory]; rfl
      refine (yields_claimFile_of_file hmember hlive).mono ?_
      rintro r cs s' ⟨found, hfound, hdecided⟩
      exact .file found hmember hfound hdecided
  | true =>
      have hname := IsOwnName.copy s.session.copied
      by_cases hplace : ∃ l, s.world.world.disk.locate
          (Claim.memberPath path s.session.copied) = .ok l
      · obtain ⟨l, hl⟩ := hplace
        have hspot := hhosts.isSpot hname hl
        refine (yields_claimFile_of_member hmember hdirectory hspot).mono ?_
        rintro r cs s' (hstuck | ⟨bytes, m, ⟨readPlan, rfl⟩, hbytes, hdecided⟩)
        · exact .stuck hmember hspot hstuck
        · exact .member bytes readPlan hmember hspot hbytes hdecided
      · have hpath : ∀ l, s.world.world.disk.locate
            (Claim.memberPath path s.session.copied) ≠ .ok l := fun l hl => hplace ⟨l, hl⟩
        exact (yields_claimFile_of_not_located hmember hdirectory hpath).mono
          fun _ _ _ h => .unplaced hmember h

end

end Session

end LtoBridge
