/-
**The temporary files of a session.**

A session begins with an empty temporary directory.  Until its cleanup, the linker may do with it
what it likes, and others may do with the machine what they like, as long as they keep out of the
directory.  Then the directory goes on hosting the session.

Main definitions:

* `LtoBridge.Session.Makes`: a directory is made for a session;
* `LtoBridge.Session.Reached`: the states of a session before its cleanup;
* `LtoBridge.Session.ProgramsKeepOut`, `LtoBridge.Session.ResolutionsElsewhere`: what is asked of
  programs and of the name of the resolution file.

Main results:

* `LtoBridge.Session.yields_startIn`, `LtoBridge.Session.isFresh_of_startIn`: a session begins with
  a fresh directory;
* `LtoBridge.Session.Handled.changes`: what an offer leaves alone;
* `LtoBridge.Session.Reached.hosts`: **the temporary directory stays in place**.
-/

import LtoBridge.Proofs.Session.History
import LtoBridge.Proofs.Session.Undisturbed

set_option autoImplicit false

namespace LtoBridge.Session

variable {L : Type} [Linker L] {path : Path} {directory : Location}

/-! ### The beginning of a session -/

/-- **A session can begin with a directory**: its name leads to it, and there is nothing in it, and
nothing in it is open. -/
structure IsFresh (m : Machine L) (path : Path) (directory : Location) : Prop where
  locate : m.disk.locate path = .ok directory
  isDirectory : m.disk.tree.get? directory = some .directory
  empty : ∀ l, directory <+: l → l ≠ directory → m.disk.tree.get? l = none
  unopened : ∀ entry ∈ m.opened, directory <+: entry.2 → entry.2 = directory

/-- Everything in a tree is in a directory. -/
def IsWhole (t : FileTree) : Prop :=
  ∀ l name, t.get? (l ++ [name]) ≠ none → t.get? l = some .directory

/-- There is nothing below a location where nothing is. -/
theorem IsWhole.below {t : FileTree} {l : Location} (h : IsWhole t) (hl : t.get? l = none)
    (rest : Location) : t.get? (l ++ rest) = none := by
  -- from above, since what is there needs a directory right above it
  induction rest using List.reverseRecOn with
  | nil => rwa [List.append_nil]
  | append_singleton rest name ih =>
      refine Classical.byContradiction fun hthere => ?_
      rw [← List.append_assoc] at hthere
      rw [h _ _ hthere] at ih
      cases ih

/-- A name that is read from a directory is not empty. -/
theorem join_ne_nil {parent : Path} (hparent : parent ≠ []) (name : Path) :
    parent.join name ≠ [] := by
  unfold Path.join
  split
  · rintro rfl
    simp_all [Path.isAbsolute]
  · split <;> simp [hparent]

theorem currentPath_ne_nil (d : Disk) : d.currentPath ≠ [] := by
  unfold Disk.currentPath Disk.absolute
  split
  · simp
  · rename_i hcurrent
    obtain ⟨name, rest, h⟩ := List.exists_cons_of_ne_nil hcurrent
    simp [h]

/-- The name of a temporary directory is that of an entry of its parent. -/
theorem isEntryName_numbered (n : Nat) :
    Disk.IsEntryName (Disk.numbered directoryStem n) := by
  have hstem : directoryStem = 116 :: directoryStem.tail := by decide
  have hname : Disk.numbered directoryStem n =
      116 :: (directoryStem.tail ++ (List.replicate (6 - (Bytes.decimal n).length) 48 ++
        Bytes.decimal n)) := by
    simp only [Disk.numbered]
    rw [hstem]
    simp
  rw [hname]
  refine ⟨by simp, by simp, by simp, fun hmem => ?_⟩
  simp only [List.mem_cons, List.mem_append, List.mem_replicate] at hmem
  obtain hfirst | hrest | ⟨-, hzero⟩ | hdigit := hmem
  · exact absurd hfirst (by decide)
  · exact absurd hrest (by decide)
  · exact absurd hzero (by decide)
  · exact absurd (Bytes.digit_of_mem_decimal _ hdigit).1 (by decide)

/-- A new temporary directory was made under its name. -/
theorem makeDirectory_of_makeNumbered {d d' : Disk} {parent stem : Path} {numbers : List Nat}
    (h : d.makeNumbered parent stem numbers = .ok (path, d')) :
    (∃ n, path = parent.join (Disk.numbered stem n)) ∧ d.makeDirectory path = .ok d' := by
  induction numbers with
  | nil => cases h
  | cons n numbers ih =>
      simp only [Disk.makeNumbered] at h
      split at h
      · rename_i made hmade
        cases h
        exact ⟨⟨n, rfl⟩, hmade⟩
      · exact ih h
      · cases h

/-- **A directory is made for a session**, under a new name. -/
structure Makes (m m' : Machine L) (path : Path) (directory : Location) : Prop where
  name : ∃ parent n, parent ≠ [] ∧ path = Path.join parent (Disk.numbered directoryStem n)
  locate : m.disk.locateEntry path = .ok directory
  vacant : m.disk.tree.get? directory = none
  disk : m'.disk = m.disk.put directory .directory
  opened : m'.opened = m.opened

namespace Makes

variable {m m' : Machine L}

omit [Linker L]

theorem ne_nil (h : Makes m m' path directory) : directory ≠ [] := by
  rintro rfl
  have hvacant := h.vacant
  simp [FileTree.get?] at hvacant

theorem get? (h : Makes m m' path directory) (l : Location) :
    m'.disk.tree.get? l = if l = directory then some .directory else m.disk.tree.get? l := by
  rw [h.disk]
  exact FileTree.get?_put _ _ _ _ h.ne_nil

theorem endsInSeparator (h : Makes m m' path directory) : Disk.endsInSeparator path = false := by
  obtain ⟨parent, n, hparent, rfl⟩ := h.name
  exact (isEntryName_numbered n).endsInSeparator_join hparent

/-- The directory is where its name leads, whether or not a link would be followed. -/
theorem locateWith (h : Makes m m' path directory) (toEnd : Bool) :
    m'.disk.locateWith toEnd path = .ok directory := by
  -- names lead where they did, since there was no link at the location of the new directory
  have hways : m.disk.tree.KeepsWays m'.disk.tree := by
    refine ⟨fun l hl => ?_, fun l target => ?_⟩
    · rw [h.get?, hl, ite_self]
    · rw [h.get?]
      split
      · rename_i hsame
        rw [hsame, h.vacant]
        simp
      · exact Iff.rfl
  have hentry : m.disk.locateWith false path = .ok directory := by
    rw [← h.endsInSeparator]
    exact h.locate
  refine Disk.locateWith_of_keepsWays hways (by rw [h.disk]; rfl) ?_ hentry
  cases toEnd with
  | false => exact .inl rfl
  | true => exact .inr ⟨rfl, by simp [h.vacant]⟩

/-- There is nothing in the new directory. -/
theorem empty (h : Makes m m' path directory) (hwhole : IsWhole m.disk.tree) {l : Location}
    (hl : directory <+: l) (hne : l ≠ directory) : m'.disk.tree.get? l = none := by
  obtain ⟨rest, rfl⟩ := hl
  rw [h.get?, if_neg hne]
  exact hwhole.below h.vacant rest

/-- A session can begin with a directory that has just been made. -/
theorem isFresh (h : Makes m m' path directory) (hwhole : IsWhole m.disk.tree)
    (hopened : ∀ entry ∈ m.opened, m.disk.tree.get? entry.2 ≠ none) :
    IsFresh m' path directory := by
  refine ⟨h.locateWith true, (h.get? directory).trans (if_pos rfl), fun l => h.empty hwhole, ?_⟩
  rintro entry hentry ⟨rest, hrest⟩
  rw [h.opened] at hentry
  exact absurd (hrest ▸ hwhole.below h.vacant rest) (hopened entry hentry)

end Makes

/-- **A session begins with a directory that is made for it.** -/
theorem yields_startIn {options : Options} {parent : Path} {t : Traced (Machine L)} :
    (startIn options parent).Yields t fun r _ t' => ∀ session, r = .ok session →
      ∃ path directory, session = { options, temporaryDirectory := some path } ∧
        Makes t.world t'.world path directory := by
  let make : Act (Traced (Machine L)) Path :=
    (Act.ofOsAt (Platform.makeTemporaryDirectory parent directoryStem)).within
      (.temporaryDirectory parent)
  have hmade : make.Yields t fun r cs t' => ∀ path, r = .ok path →
      t'.world.opened = t.world.opened ∧
        t.world.disk.makeTemporary parent directoryStem = .ok (path, t'.world.disk) := by
    refine Act.yields_within_iff.2 (.ofOsAt rfl ?_)
    intro path hpath
    change whileDoing _ ((Platform.makeTemporaryDirectory parent directoryStem t.world).1.mapError
      _) = .ok path at hpath
    change (Platform.makeTemporaryDirectory parent directoryStem t.world).2.opened = _ ∧
      t.world.disk.makeTemporary parent directoryStem =
        .ok (path, (Platform.makeTemporaryDirectory parent directoryStem t.world).2.disk)
    cases hmake : t.world.disk.makeTemporary parent directoryStem with
    | error error =>
        simp only [Platform.makeTemporaryDirectory, hmake] at hpath
        cases hpath
    | ok made =>
        simp only [Platform.makeTemporaryDirectory, hmake] at hpath ⊢
        cases hpath
        exact ⟨trivial, rfl⟩
  refine hmade.bind ?_ ?_
  · intro path cs t' hpath
    obtain ⟨hsame, hmake⟩ := hpath path rfl
    obtain ⟨⟨n, hname⟩, hmake⟩ := makeDirectory_of_makeNumbered hmake
    obtain ⟨directory, hlocate, hmake⟩ := exists_of_bind_eq_ok hmake
    refine Act.Yields.change_bind rfl (.pure ?_)
    rintro _ ⟨⟩
    split at hmake
    · cases hmake
    · rename_i hvacant
      rw [if_neg (by simp)] at hmake
      exact ⟨path, directory, rfl, ⟨_, n, join_ne_nil (currentPath_ne_nil _) _, hname⟩, hlocate,
        hvacant, (Except.ok.inj hmake).symm, hsame⟩
  · rintro _ _ _ - _ ⟨⟩

theorem makes_of_startIn {options : Options} {parent : Path} {t t' : Traced (Machine L)}
    {session : Session} (h : startIn options parent t = (.ok session, t')) :
    ∃ path directory, session = { options, temporaryDirectory := some path } ∧
      Makes t.world t'.world path directory := by
  obtain ⟨cs, -, hmakes⟩ := @yields_startIn L _ options parent t
  rw [h] at hmakes
  exact hmakes session rfl

/-- **A session begins with a directory that is fresh.** -/
theorem isFresh_of_startIn {options : Options} {parent : Path} {t : Traced (Machine L)}
    (hwhole : IsWhole t.world.disk.tree)
    (hopened : ∀ entry ∈ t.world.opened, t.world.disk.tree.get? entry.2 ≠ none) :
    (startIn options parent).Yields t fun r _ t' => ∀ session, r = .ok session →
      ∃ path directory, session = { options, temporaryDirectory := some path } ∧
        IsFresh t'.world path directory := by
  refine yields_startIn.mono fun r _ t' hr session hsession => ?_
  obtain ⟨path, directory, hpath, hmakes⟩ := hr session hsession
  exact ⟨path, directory, hpath, hmakes.isFresh hwhole hopened⟩

/-! ### The states of a session -/

/-- The offer that is claimed by an operation, if one is, and the machine at that time. -/
def Operation.claims (op : Operation) (s : Live (Traced (Machine L))) :
    List (Machine L × InputFile) :=
  match op with
  | .offer input =>
      match (claimFile input s).1 with
      | .ok true => [(s.world.world, input)]
      | _ => []
  | _ => []

/-- **The states of a session before its cleanup**, each with the offers that have been claimed.
The session works in a directory, others keep out of that directory, and the members that have been
offered can still be counted. -/
inductive Reached (path : Path) (directory : Location) :
    Live (Traced (Machine L)) → List (Machine L × InputFile) → Prop
  | begin {options : Options} {m : Machine L} (hfresh : IsFresh m path directory) :
      Reached path directory (begun options path m) []
  | operate {s : Live (Traced (Machine L))} {origins : List (Machine L × InputFile)}
      (op : Operation) (hop : op ≠ .cleanup) (h : Reached path directory s origins)
      (hcopied : (op.after s).session.copied < copyLimit) :
      Reached path directory (op.after s) (origins ++ op.claims s)
  | meanwhile {s : Live (Traced (Machine L))} {origins : List (Machine L × InputFile)}
      {m : Machine L} (h : Reached path directory s origins)
      (hkeeps : s.world.world.KeepsOut path directory m) :
      Reached path directory { s with world := { s.world with world := m } } origins

/-- The programs that are run keep out of a directory. -/
def ProgramsKeepOut (path : Path) (directory : Location) (calls : List (Call (Machine L))) : Prop :=
  ∀ c ∈ calls, ∀ program arguments, c.effect = .launch program arguments →
    c.before.KeepsOut path directory c.after

/-- The resolution file is not where copies are whenever it is written. -/
def ResolutionsElsewhere (directory : Location) (options : Options)
    (calls : List (Call (Machine L))) : Prop :=
  ∀ c ∈ calls, ∀ file, options.resolutionFile = some file → c.effect.written? = some file →
    ∀ l, c.before.disk.locate file = .ok l → ¬ IsCopyLocation directory l

/-! ### The calls of a settled session -/

section

variable {session : Session} {c : Call (Machine L)}

omit [Linker L] in
theorem argumentsPath_eq (hdirectory : session.temporaryDirectory = some path) :
    session.argumentsPath = path.join Backend.argumentsName := by
  rw [argumentsPath, hdirectory]
  rfl

omit [Linker L] in
/-- What is written is the arguments file or the resolution file. -/
theorem IsSettling.written_cases {e : Effect} {file : Path} (h : IsSettling session e)
    (hwritten : e.written? = some file) :
    file = session.argumentsPath ∨ session.options.resolutionFile = some file := by
  cases h with
  | hidden h =>
      rw [(Effect.visible_of_written hwritten).1] at h
      cases h
  | linker h =>
      rw [(Effect.visible_of_written hwritten).2.1] at h
      cases h
  | resolutions file' hfile h =>
      rw [hwritten] at h
      rw [hfile, h]
      exact .inr rfl
  | arguments h =>
      obtain h | rfl := h
      · rw [hwritten] at h
        exact .inl (Option.some.inj h)
      · cases hwritten
  | launch _ _ h =>
      rw [h] at hwritten
      cases hwritten

theorem IsSettling.orderly (h : IsSettling session c.effect)
    (hdirectory : session.temporaryDirectory = some path)
    (hlaunch : ∀ program arguments, c.effect = .launch program arguments →
      c.before.KeepsOut path directory c.after) : Orderly path directory c := by
  refine ⟨fun file heffect => ?_, fun hfar => ?_⟩
  · rw [heffect] at h
    cases h with
    | arguments h =>
        obtain ⟨⟨⟩⟩ | h := h
        rw [← argumentsPath_eq hdirectory]
        exact Effect.removeFile.inj h
    | hidden h | linker h | resolutions _ _ h | launch _ _ h => cases h
  · obtain ⟨hvisible, hlinker⟩ := Effect.visible_of_reachesFurther hfar
    cases h with
    | launch _ _ h => exact hlaunch _ _ h
    | hidden h =>
        rw [hvisible] at h
        cases h
    | linker h =>
        rw [hlinker] at h
        cases h
    | resolutions _ _ h =>
        rw [(Effect.visible_of_written h).2.2] at hfar
        cases hfar
    | arguments h =>
        obtain h | h := h
        · rw [(Effect.visible_of_written h).2.2] at hfar
          cases hfar
        · rw [h] at hfar
          cases hfar

omit [Linker L] in
theorem IsSettling.writesElsewhere (h : IsSettling session c.effect)
    (hdirectory : session.temporaryDirectory = some path)
    (hfile : ∀ file, session.options.resolutionFile = some file → c.effect.written? = some file →
      ∀ l, c.before.disk.locate file = .ok l → ¬ IsCopyLocation directory l) :
    WritesElsewhere path directory c := by
  intro file hwritten
  obtain rfl | hresolutions := h.written_cases hwritten
  · exact .inl (argumentsPath_eq hdirectory)
  · exact .inr (hfile file hresolutions hwritten)

end

/-! ### What an offer leaves alone -/

section

variable {input : InputFile} {s s' : Live (Traced (Machine L))} {r : Except Failure Bool}
  {cs : List (Call (Machine L))}

omit [Linker L] in
/-- A verdict only adds to the registry. -/
theorem Verdict.enter_eq (v : Verdict) (session : Session) (kept : Path) :
    v.enter session input kept =
      { session with registry := (v.enter session input kept).registry } := by
  unfold Verdict.enter
  split <;> rfl

/-- What an offer does to the session, to what is open, and to files. -/
theorem Handled.changes (h : Handled input path directory s r cs s') :
    (∃ registry copied, s'.session = { s.session with registry, copied }) ∧
    s'.world.world.opened = s.world.world.opened ∧
    (s'.world.world.disk = s.world.world.disk ∨
      ∃ d, s.world.world.disk.ChangesFile d (copyLocation directory s.session) ∧
        (s'.world.world.disk = d ∨
          d.ChangesFile s'.world.world.disk (copyLocation directory s.session))) := by
  cases h with
  | file found hmember hfound hdecided =>
      obtain ⟨-, -, hs', journal, hw'⟩ := hdecided
      refine ⟨⟨_, s.session.copied, hs'.trans (Verdict.enter_eq _ _ _)⟩, by rw [hw'], .inl ?_⟩
      rw [hw']
      exact ite_self _
  | unplaced hmember hunplaced =>
      refine ⟨⟨s.session.registry, s.session.copied + 1, hunplaced.session⟩, ?_, .inl ?_⟩
      · rw [hunplaced.world]
      · rw [hunplaced.world]
  | stuck hmember hspot hstuck =>
      obtain ⟨bytes, readPlan, hw'⟩ := hstuck.world
      have hput := hspot.changesFile_put bytes
        (Disk.executableAt s.world.world.disk.tree (copyLocation directory s.session))
      refine ⟨⟨s.session.registry, s.session.copied + 1, hstuck.session⟩, by rw [hw']; rfl,
        .inr ⟨_, hput, .inl ?_⟩⟩
      rw [hw']
      rfl
  | member bytes readPlan hmember hspot hbytes hdecided =>
      obtain ⟨-, -, hs', journal, hw'⟩ := hdecided
      have hput := hspot.changesFile_put bytes
        (Disk.executableAt s.world.world.disk.tree (copyLocation directory s.session))
      refine ⟨⟨_, s.session.copied + 1, hs'.trans (Verdict.enter_eq _ _ _)⟩, by rw [hw']; rfl,
        .inr ⟨_, hput, ?_⟩⟩
      rw [hw']
      -- the copy stays if the file is claimed, and goes again if not
      dsimp only
      split
      · exact .inl rfl
      · exact .inr ⟨hput.isOpenTo_of_isOpenTo hspot.isOpen, .inr rfl⟩

/-- A directory goes on hosting the session after an offer. -/
theorem Handled.hosts (h : Handled input path directory s r cs s')
    (hhosts : Hosts s.world.world.disk path directory) :
    Hosts s'.world.world.disk path directory := by
  obtain ⟨-, -, hsame | ⟨d, hput, hsame | herase⟩⟩ := h.changes
  · rwa [hsame]
  · rw [hsame]
    exact hhosts.of_changesFile hput
  · exact (hhosts.of_changesFile hput).of_changesFile herase

end

/-! ### The directory stays in place -/

/-- What holds of all calls so far held of all calls before an operation. -/
theorem calls_subset_after (op : Operation) (s : Live (Traced (Machine L))) :
    s.world.calls ⊆ (op.after s).world.calls := by
  obtain ⟨cs, hext, -⟩ := keeps_after op s
  rw [hext.calls_eq]
  exact List.subset_append_left _ _

theorem Reached.copied_lt {s : Live (Traced (Machine L))} {origins : List (Machine L × InputFile)}
    (h : Reached path directory s origins) : s.session.copied < copyLimit := by
  induction h with
  | begin _ => exact Nat.zero_lt_succ _
  | operate _ _ _ hcopied => exact hcopied
  | meanwhile _ _ ih => exact ih

/-- **The temporary directory stays in place.** -/
theorem Reached.hosts {s : Live (Traced (Machine L))} {origins : List (Machine L × InputFile)}
    (h : Reached path directory s origins)
    (hprograms : ProgramsKeepOut path directory s.world.calls) :
    s.session.temporaryDirectory = some path ∧ Hosts s.world.world.disk path directory := by
  induction h with
  | begin hfresh =>
      refine ⟨rfl, hfresh.locate, hfresh.isDirectory, fun name _ => ?_⟩
      exact Disk.isOpenTo_of_none (hfresh.empty _ (List.prefix_append _ _) (by simp))
  | @operate s origins op hop h _ ih =>
      have hbefore := ih fun c hc => hprograms c (calls_subset_after op s hc)
      obtain ⟨hdirectory, hhosts⟩ := hbefore
      cases op with
      | offer input =>
          obtain ⟨cs, hext, hhandled⟩ := yields_claimFile_handled hdirectory hhosts input
          obtain ⟨⟨registry, copied, hs'⟩, -⟩ := hhandled.changes
          refine ⟨?_, hhandled.hosts hhosts⟩
          change (claimFile input s).2.session.temporaryDirectory = _
          rw [hs']
          exact hdirectory
      | allSymbolsRead =>
          obtain ⟨cs, hext, hcs, registry, outputs, passThrough, -, hs'⟩ :=
            yields_allSymbolsRead_settling s
          refine ⟨?_, ?_⟩
          · change (Session.allSymbolsRead s).2.session.temporaryDirectory = _
            rw [hs']
            exact hdirectory
          · refine hext.invariant (P := fun m => Hosts m.disk path directory) ?_ hhosts
            intro c hc hhosts
            exact hhosts.after ((hcs c hc).orderly hdirectory (hprograms c (hext.subset hc)))
      | release => exact ⟨hdirectory, hhosts⟩
      | cleanup => exact absurd rfl hop
  | meanwhile h hkeeps ih =>
      obtain ⟨hdirectory, hhosts⟩ := ih hprograms
      exact ⟨hdirectory, hhosts.of_keepsOut hkeeps⟩

end LtoBridge.Session
