/-
**What is left after a cleanup.**

After a cleanup that succeeds, the copies and the temporary directory are gone, or the directory is
kept and all that is in it except the copies; and the session does nothing any more.  A cleanup that
fails ends a session as well, unless it fails because of a copy that cannot be deleted: then the
session still has its files, and may hand over what has been deleted before that.

Main definitions:

* `LtoBridge.Session.Finished`: what the linker sees of the end of a session.

Main results:

* `LtoBridge.Session.successful_cleanup_is_final`: what is true after a cleanup that succeeds;
* `LtoBridge.Session.failed_cleanup_ends_the_session`: what is true after a cleanup that fails;
* `LtoBridge.Session.files_outlive_failed_cleanup`: a deleted file that is handed over.
-/

import LtoBridge.Proofs.Files.Losses
import LtoBridge.Proofs.Session.Teardown

set_option autoImplicit false

namespace LtoBridge.Session

/-! ### What the linker sees -/

section

variable {W : Type} [Platform W] {s s' : Live (Traced W)} {path : Path}
  {r : Except Failure Unit} {cs before : List (Call W)}

/-- **A session is finished**: nothing is left of it but its options, the linker got a single call,
by which the symbols are released, and nothing will be done any more. -/
structure Finished (s : Live (Traced W)) (cs : List (Call W)) (s' : Live (Traced W)) : Prop where
  session : s'.session =
    { options := { s.session.options with passThrough := [] }
      temporaryDirectory := none, registry := ⟨[]⟩, copied := 0, outputs := [] }
  linker : (cs.filter (·.effect.isLinker)).map (·.effect) = [.releaseSymbols]
  inert : ∀ others s₂, Later others s' s₂ → ∀ op : Operation, op ≠ .release → Inert op s₂

omit [Platform W] in
/-- All that the linker gets can be noticed. -/
theorem filter_isLinker_visible (cs : List (Call W)) :
    (visible cs).filter (·.effect.isLinker) = cs.filter (·.effect.isLinker) := by
  rw [visible, List.filter_filter]
  refine List.filter_congr fun c _ => ?_
  cases c.effect <;> rfl

/-- When the copies are deleted and the symbols are released, the linker gets the release only. -/
theorem linker_of_deletions
    (h : Follows (s.session.deletionScript ++ [.call .releaseSymbols]) before true)
    {after : List (Call W)} (hafter : ∀ c ∈ after, c.effect.IsOwn) :
    ((before ++ after).filter (·.effect.isLinker)).map (·.effect) = [.releaseSymbols] := by
  have hown : after.filter (·.effect.isLinker) = [] := by
    simpa [List.filter_eq_nil_iff] using hafter
  have hcopies : (s.session.temporaryPaths.map Effect.removeFile).filter (·.isLinker) = [] := by
    simp [List.filter_eq_nil_iff, Effect.isLinker]
  have hfilter : ∀ cs : List (Call W), (cs.filter (·.effect.isLinker)).map (·.effect) =
      (cs.map (·.effect)).filter (·.isLinker) := fun cs => by
    rw [List.filter_map]
    rfl
  rw [List.filter_append, hown, List.append_nil, hfilter, (effects_of_deletions h).1,
    List.filter_append, hcopies]
  rfl

/-- **A cleanup finishes the session**, unless there is a copy that cannot be deleted. -/
theorem Teardown.finished (h : Teardown s.session path r cs s'.session) :
    Finished s cs s' ∨ r.isOk = false ∧
      s'.session = { s.session with temporaryDirectory := none } ∧
      ∃ file ∈ s.session.temporaryPaths, ∃ c ∈ cs,
        c.effect = .removeFile file ∧ c.succeeded = false := by
  have hinert : s'.session = s.session.closed →
      ∀ others s₂, Later others s' s₂ → ∀ op : Operation, op ≠ .release → Inert op s₂ := by
    intro hclosed others s₂ hlater op hop
    exact inert_of_later_closed hlater (hclosed ▸ isClosed_closed s.session) hop
  cases h with
  | stopped before tree hr hcalls hbefore htree hsession =>
      obtain ⟨file, hfile, c, hc, heffect, hfailed⟩ := exists_failed_deletion hbefore
      refine .inr ⟨hr, hsession, file, hfile, c, ?_, heffect, hfailed⟩
      refine List.filter_subset_self _ (?_ : c ∈ visible cs)
      rw [hcalls]
      exact List.mem_append_left _ hc
  | kept hverbose hr hcalls hsession =>
      refine .inl ⟨hsession, ?_, hinert hsession⟩
      rw [← filter_isLinker_visible, ← List.append_nil (visible cs)]
      exact linker_of_deletions hcalls (by simp)
  | removed before arguments tree hverbose hcalls hbefore harguments htree hr hsession =>
      refine .inl ⟨hsession, ?_, hinert hsession⟩
      rw [← filter_isLinker_visible, hcalls]
      refine linker_of_deletions hbefore fun c hc => ?_
      simp only [List.mem_cons, List.not_mem_nil, or_false] at hc
      obtain rfl | rfl := hc
      · rw [harguments]
        rfl
      · rw [htree]
        rfl

/-- The last thing that a cleanup does before it fails is to remove the directory. -/
theorem Teardown.last_of_failed (h : Teardown s.session path r cs s'.session)
    (hr : r.isOk = false) :
    ∃ tree, (visible cs).getLast? = some tree ∧ tree.effect = .removeTree path := by
  cases h with
  | stopped before tree _ hcalls hbefore htree hsession =>
      exact ⟨tree, by rw [hcalls, List.getLast?_concat], htree⟩
  | kept hverbose hok hcalls hsession =>
      rw [hok] at hr
      cases hr
  | removed before arguments tree hverbose hcalls hbefore harguments htree hremoved hsession =>
      exact ⟨tree, by simp [hcalls], htree⟩

end

/-! ### What is left on a machine -/

section

variable {L : Type} [Linker L] {s s' : Live (Traced (Machine L))} {path : Path}
  {r : Except Failure Unit} {cs before : List (Call (Machine L))}

omit [Linker L] in
/-- The name of a session's directory never leads to the root. -/
theorem Makes.locateEntry_ne_root {m m' : Machine L} {directory : Location}
    (h : Makes m m' path directory) (d : Disk) : d.locateEntry path ≠ .ok [] := by
  obtain ⟨parent, n, hparent, rfl⟩ := h.name
  exact Disk.locateEntry_join_ne_root hparent (isEntryName_numbered n)

/-- A cleanup only takes files away. -/
theorem Teardown.onlyTakes (h : Teardown s.session path r cs s'.session) :
    ∀ c ∈ cs, c.effect.onlyTakes = true := by
  intro c hc
  cases hvisible : c.effect.visible with
  | false => exact Effect.onlyTakes_of_hidden hvisible
  | true =>
      cases h.isClearing c (List.mem_filter.2 ⟨hc, hvisible⟩) with
      | copy file hfile h => rw [h]; rfl
      | release h => rw [h]; rfl
      | arguments h => rw [h]; rfl
      | tree h => rw [h]; rfl

/-- The copies are gone in the end. -/
theorem isGone_of_deletions {t t' : Traced (Machine L)} (hext : t.Extends cs t')
    (htakes : ∀ c ∈ cs, c.effect.onlyTakes = true) (hbefore : before ⊆ cs)
    (h : Follows (s.session.deletionScript ++ [.call .releaseSymbols]) before true) :
    ∀ file ∈ s.session.temporaryPaths, t'.world.disk.IsGone file := by
  intro file hfile
  obtain ⟨heffects, hsucceeded⟩ := effects_of_deletions h
  have hmem : Effect.removeFile file ∈ before.map (·.effect) := by
    rw [heffects]
    exact List.mem_append_left _ (List.mem_map_of_mem hfile)
  obtain ⟨c, hc, hremoved⟩ := List.mem_map.1 hmem
  refine hext.isGone_of_removed htakes (hbefore hc) ?_
  exact Disk.isGone_of_remove (Machine.remove_of_succeeded hremoved (hsucceeded c hc))

/-- If only copies are deleted, everything else stays as it is. -/
theorem get?_of_deletions {t t' : Traced (Machine L)} (hext : t.Extends cs t')
    (htakes : ∀ c ∈ cs, c.effect.onlyTakes = true)
    (h : Follows (s.session.deletionScript ++ [.call .releaseSymbols]) (visible cs) true)
    (l : Location) : t'.world.disk.tree.get? l = t.world.disk.tree.get? l ∨
      ∃ file ∈ s.session.temporaryPaths, t.world.disk.locateEntry file = .ok l ∧
        t.world.disk.tree.get? l ≠ some .directory := by
  have hdeletion : ∀ c ∈ cs, c.effect.visible = true →
      (∃ file ∈ s.session.temporaryPaths, c.effect = .removeFile file) ∨
        c.effect = .releaseSymbols :=
    fun c hc hvisible =>
      eq_of_mem_deletionScript (h.effect_mem (List.mem_filter.2 ⟨hc, hvisible⟩))
  have hinvariant := hext.invariant (P := fun m => t.world.disk.Loses m.disk ∧
    (m.disk.tree.get? l = t.world.disk.tree.get? l ∨
      ∃ file ∈ s.session.temporaryPaths, t.world.disk.locateEntry file = .ok l ∧
        t.world.disk.tree.get? l ≠ some .directory)) ?_ ⟨.refl _, .inl rfl⟩
  · exact hinvariant.2
  · rintro c hc ⟨hloses, hsame | hcopy⟩
    · have htaken := c.takes (htakes c hc)
      refine ⟨hloses.trans htaken.loses, ?_⟩
      cases htaken with
      | nothing hdisk => exact .inl (by rw [hdisk, hsame])
      | entry file l' n heffect hl hget hn hdisk =>
          have hvisible : c.effect.visible = true := by
            obtain heffect | heffect := heffect
            · rw [heffect]
              rfl
            · rw [heffect]
              rfl
          obtain ⟨file', hfile, hremoved⟩ | hreleased := hdeletion c hc hvisible
          · rw [hremoved] at heffect
            obtain ⟨⟨⟩⟩ | ⟨⟨⟩⟩ := heffect
            have hthere : c.before.disk.tree.get? l' ≠ none := by simp [hget]
            by_cases hl' : l = l'
            · subst hl'
              refine .inr ⟨file, hfile, Disk.locateWith_of_loses hloses hl hthere, ?_⟩
              rw [← hsame, hget]
              simpa using hn
            · left
              rw [hdisk, ← hsame]
              exact (FileTree.get?_erase _ _ _ (Disk.ne_nil_of_get? hget hn)).trans (if_neg hl')
          · rw [hreleased] at heffect
            obtain ⟨⟨⟩⟩ | ⟨⟨⟩⟩ := heffect
      | tree file l' heffect hl hget hdisk =>
          obtain ⟨_, -, h⟩ | h := hdeletion c hc (by rw [heffect]; rfl)
          · cases heffect.symm.trans h
          · cases heffect.symm.trans h
    · exact ⟨hloses.trans (c.takes (htakes c hc)).loses, .inr hcopy⟩

/-- **A cleanup that succeeds leaves nothing behind**: the copies are gone, and so is the directory,
or it is kept with everything else that is in it. -/
theorem Teardown.complete {t : Traced (Machine L)} (h : Teardown s.session path r cs s'.session)
    (hext : s.world.Extends cs t) (hroot : ∀ d : Disk, d.locateEntry path ≠ .ok [])
    (hr : r.isOk = true) :
    (∀ file ∈ s.session.temporaryPaths, t.world.disk.IsGone file) ∧
      (s.session.options.verbose = false → t.world.disk.IsGone path) ∧
      (s.session.options.verbose = true → ∀ l,
        t.world.disk.tree.get? l = s.world.world.disk.tree.get? l ∨
          ∃ file ∈ s.session.temporaryPaths, s.world.world.disk.locateEntry file = .ok l ∧
            s.world.world.disk.tree.get? l ≠ some .directory) := by
  have htakes := h.onlyTakes
  have hsubset : visible cs ⊆ cs := List.filter_subset_self _
  cases h with
  | stopped before tree hfailed hcalls hbefore htree hsession =>
      rw [hr] at hfailed
      cases hfailed
  | kept hverbose _ hcalls hsession =>
      rw [hverbose]
      refine ⟨isGone_of_deletions hext htakes hsubset hcalls, nofun, fun _ => ?_⟩
      exact get?_of_deletions hext htakes hcalls
  | removed before arguments tree hverbose hcalls hbefore harguments htree hremoved hsession =>
      rw [hverbose]
      have hmem : before ⊆ cs ∧ tree ∈ cs := by
        refine ⟨fun c hc => hsubset ?_, hsubset ?_⟩
        · rw [hcalls]
          exact List.mem_append_left _ hc
        · rw [hcalls]
          simp
      refine ⟨isGone_of_deletions hext htakes hmem.1 hbefore, fun _ => ?_, nofun⟩
      refine hext.isGone_of_removed htakes hmem.2 ?_
      exact Disk.isGone_of_removeTree (Machine.removeTree_of_succeeded htree (hremoved hr))
        (hroot _)

/-- An operation that does nothing leaves the disk as it is. -/
theorem Inert.disk_eq {op : Operation} (h : Inert op s) :
    (op.after s).world.world.disk = s.world.world.disk := by
  obtain ⟨cs, hext, hcs⟩ := h.quiet
  refine hext.invariant (P := fun m => m.disk = s.world.world.disk) ?_ rfl
  intro c hc hdisk
  rw [Machine.disk_after_of_hidden (by simpa using List.filter_eq_nil_iff.1 hcs c hc), hdisk]

end

/-! ### Cleanups that succeed -/

/-- **A cleanup that succeeds is complete and final.**  Whatever was done with the session before,
and whatever others did: the copies are gone, and so is the temporary directory, or it is kept with
all that is in it except the copies.  The session is finished. -/
theorem successful_cleanup_is_final :
    (∀ (W : Type) [Platform W] (s : Live (Traced W)) (path : Path),
      s.session.temporaryDirectory = some path →
      cleanup.Yields s fun r cs s' => r.isOk = true → Finished s cs s') ∧
    (∀ (L : Type) [Linker L] (options : Options) (parent : Path) (t : Traced (Machine L))
      (s₀ s : Live (Traced (Machine L))) (path : Path),
      startIn options parent t = (.ok s₀.session, s₀.world) → Later (fun _ _ => True) s₀ s →
      s.session.temporaryDirectory = some path →
      cleanup.Yields s fun r _ s' => r.isOk = true →
        (∀ file ∈ s.session.temporaryPaths, s'.world.world.disk.IsGone file) ∧
        (s.session.options.verbose = false → s'.world.world.disk.IsGone path) ∧
        (s.session.options.verbose = true → ∀ l,
          s'.world.world.disk.tree.get? l = s.world.world.disk.tree.get? l ∨
            ∃ file ∈ s.session.temporaryPaths, s.world.world.disk.locateEntry file = .ok l ∧
              s.world.world.disk.tree.get? l ≠ some .directory) ∧
        ∀ others s₂, Later others s' s₂ → ∀ op : Operation, op ≠ .release →
          (op.after s₂).world.world.disk = s₂.world.world.disk) := by
  refine ⟨?_, ?_⟩
  · intro W _ s path hdirectory
    refine (yields_cleanup_teardown hdirectory).mono fun r cs s' hteardown hr => ?_
    obtain hfinished | ⟨hfailed, -⟩ := hteardown.finished
    · exact hfinished
    · rw [hr] at hfailed
      cases hfailed
  · intro L _ options parent t s₀ s path hbegin hlater hdirectory
    have hroot : ∀ d : Disk, d.locateEntry path ≠ .ok [] := by
      obtain ⟨path', directory, hsession, hmakes⟩ := makes_of_startIn hbegin
      obtain hsame | hnone := hlater.temporaryDirectory
      · rw [hdirectory, hsession] at hsame
        obtain rfl := Option.some.inj hsame
        exact hmakes.locateEntry_ne_root
      · rw [hdirectory] at hnone
        cases hnone
    obtain ⟨cs, hext, hteardown⟩ := yields_cleanup_teardown hdirectory
    refine ⟨cs, hext, fun hr => ?_⟩
    have hfinished : Finished s cs (cleanup s).2 :=
      hteardown.finished.resolve_right fun ⟨hfailed, _⟩ => nomatch hr.symm.trans hfailed
    obtain ⟨hcopies, hremoved, hkept⟩ := hteardown.complete hext hroot hr
    refine ⟨hcopies, hremoved, hkept, fun others s₂ h op hop => ?_⟩
    exact (hfinished.inert others s₂ h op hop).disk_eq

/-- The name of a session's directory right below the root. -/
def startedPath : Path := Path.join [47] (Disk.numbered directoryStem 0)

/-- A session that begins below the root of a machine. -/
def startedOn (m : Machine (BoundLinker (Watched RecordedLinker))) (options : Options) :
    Live (Traced (Machine (BoundLinker (Watched RecordedLinker)))) where
  session := { options, temporaryDirectory := some startedPath }
  world := (startIn options [47] { world := m }).2

/-- A session that begins below the root of the machine with the archive. -/
def started (options : Options) : Live (Traced (Machine (BoundLinker (Watched RecordedLinker)))) :=
  startedOn archiveMachine options

theorem startIn_started (options : Options) : startIn options [47] { world := archiveMachine } =
    (.ok (started options).session, (started options).world) := rfl

theorem isWhole_archiveMachine : IsWhole archiveMachine.disk.tree := by
  intro l name h
  by_cases hl : l = []
  · exact if_pos hl
  · -- everything is right below the root
    have hne : ∀ name', [name'] ≠ l ++ [name] := by
      intro name' hsame
      have hlength := congrArg List.length hsame
      simp only [List.length_append, List.length_singleton] at hlength
      exact hl (List.length_eq_zero_iff.1 (by omega))
    refine absurd ?_ h
    simp [FileTree.get?, archiveMachine, hne]

/-- Claimed files go back to the linker. -/
def bypassOptions : Options := { bypassBackend := true }

/-- The session after the member of the archive has been offered. -/
def offeredStarted (options : Options) :
    Live (Traced (Machine (BoundLinker (Watched RecordedLinker)))) :=
  (Operation.offer memberInput).after (started options)

theorem successful_cleanup_is_final_sample :
    let s := offeredStarted bypassOptions
    let s' := (cleanup s).2
    s'.world.world.disk.IsGone (Claim.memberPath startedPath 0) ∧
      s'.world.world.disk.IsGone startedPath ∧
      s'.session = { options := bypassOptions, temporaryDirectory := none } := by
  intro s s'
  have hok : (cleanup s).1.isOk = true := by decide +kernel
  obtain ⟨cs, -, hfinished⟩ := successful_cleanup_is_final.1 _ s startedPath (by decide +kernel)
  obtain ⟨_, -, hleft⟩ := successful_cleanup_is_final.2 _ bypassOptions [47] _
    (started bypassOptions) s startedPath (startIn_started _) (.operate _ .refl) (by decide +kernel)
  obtain ⟨hcopies, hdirectory, -⟩ := hleft hok
  refine ⟨hcopies _ (by decide +kernel), hdirectory (by decide +kernel), ?_⟩
  refine (hfinished hok).session.trans ?_
  decide +kernel

/-! ### Cleanups that fail -/

/-- **A cleanup that fails still ends the session**: the temporary directory is removed after all,
as far as that is possible, no file is accepted any more, and another cleanup does nothing.  Unless
there is a copy that could not be deleted, the session is finished; otherwise it still has its
files. -/
theorem failed_cleanup_ends_the_session :
    ∀ (W : Type) [Platform W] (s : Live (Traced W)),
      cleanup.Yields s fun r cs s' => r.isOk = false →
        (∃ path tree, s.session.temporaryDirectory = some path ∧
          (visible cs).getLast? = some tree ∧ tree.effect = .removeTree path) ∧
        s'.session.temporaryDirectory = none ∧
        (∀ others s₂, Later others s' s₂ →
          (∀ input, Inert (.offer input) s₂) ∧ Inert .cleanup s₂) ∧
        (Finished s cs s' ∨ s'.session = { s.session with temporaryDirectory := none } ∧
          ∃ file ∈ s.session.temporaryPaths, ∃ c ∈ cs,
            c.effect = .removeFile file ∧ c.succeeded = false) := by
  intro W _ s
  cases hdirectory : s.session.temporaryDirectory with
  | none =>
      refine yields_view_bind_iff.2 ?_
      rw [hdirectory]
      exact .pure nofun
  | some path =>
      refine (yields_cleanup_teardown hdirectory).mono fun r cs s' hteardown hr => ?_
      have hends : s'.session.temporaryDirectory = none := by
        obtain hfinished | ⟨-, hs', -⟩ := hteardown.finished
        · rw [hfinished.session]
        · rw [hs']
      refine ⟨?_, hends, fun others s₂ hlater => ?_, ?_⟩
      · obtain ⟨tree, hlast, htree⟩ := hteardown.last_of_failed hr
        exact ⟨path, tree, rfl, hlast, htree⟩
      · have hnone : s₂.session.temporaryDirectory = none := by
          obtain hsame | hnone := hlater.temporaryDirectory
          · rw [hsame, hends]
          · exact hnone
        exact ⟨fun input => inert_offer hnone input, inert_cleanup hnone⟩
      · obtain hfinished | ⟨-, hs', hfailed⟩ := hteardown.finished
        · exact .inl hfinished
        · exact .inr ⟨hs', hfailed⟩

/-- A session that has claimed a file and has a library to be passed through, but whose directory is
not there. -/
def homeless : Live (Traced (Machine (BoundLinker (Watched RecordedLinker)))) :=
  (Operation.offer fileInput).after
    (begun { bypassBackend := true, passThrough := [.library "c"] } [47, 117] archiveMachine)

theorem failed_cleanup_ends_the_session_sample :
    homeless.session.registry.files.length = 1 ∧
      homeless.session.options.passThrough = [.library "c"] ∧
      (cleanup homeless).1.isOk = false ∧
      (cleanup homeless).2.session =
        { options := { bypassBackend := true }, temporaryDirectory := none } := by
  have hfailed : (cleanup homeless).1.isOk = false := by decide +kernel
  obtain ⟨cs, -, hends⟩ := failed_cleanup_ends_the_session _ homeless
  obtain ⟨-, -, -, hfinished | ⟨-, file, hfile, -⟩⟩ := hends hfailed
  · refine ⟨by decide +kernel, by decide +kernel, hfailed, hfinished.session.trans ?_⟩
    decide +kernel
  · -- nothing that was claimed is a copy
    have hcopies : homeless.session.temporaryPaths = [] := by decide +kernel
    rw [hcopies] at hfile
    cases hfile

/-- The session after the member of the archive has been offered twice. -/
def offeredTwice (options : Options) :
    Live (Traced (Machine (BoundLinker (Watched RecordedLinker)))) :=
  (Operation.offer memberInput).after (offeredStarted options)

/-- The session after somebody has then removed the second copy. -/
def robbed (options : Options) : Live (Traced (Machine (BoundLinker (Watched RecordedLinker)))) :=
  let s := offeredTwice options
  let m := s.world.world
  { s with
    world :=
      { s.world with
        world :=
          { m with
            disk :=
              { m.disk with
                tree := m.disk.tree.erase (Disk.components (Claim.memberPath startedPath 1)) } } } }

theorem later_robbed (options : Options) :
    Later (fun _ _ => True) (started options) (robbed options) :=
  .meanwhile (.operate _ (.operate _ .refl)) trivial

/-- **A file may be handed over that a failed cleanup has deleted.**  The cleanup deletes the first
copy and fails at the second one, which somebody has removed.  When all symbols have been read after
that, the linker gets the name of the first copy. -/
theorem files_outlive_failed_cleanup :
    let s := robbed bypassOptions
    let s' := (cleanup s).2
    Later (fun _ _ => True) (started bypassOptions) s ∧ (cleanup s).1.isOk = false ∧
      s'.session.registry ≠ {} ∧
      (s.world.world.disk.findEntry (Claim.memberPath startedPath 0)).isOk = true ∧
      (s'.world.world.disk.findEntry (Claim.memberPath startedPath 0)).isOk = false ∧
      (allSymbolsRead s').1.isOk = true ∧
      .addInputFile (Claim.memberPath startedPath 0) ∈
        ((allSymbolsRead s').2.world.calls.drop s'.world.calls.length).map (·.effect) := by
  refine ⟨later_robbed bypassOptions, ?_⟩
  decide +kernel

end LtoBridge.Session
