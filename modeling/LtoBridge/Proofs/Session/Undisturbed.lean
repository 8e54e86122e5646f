/-
**Changes that do not disturb a session.**

Others may do with the machine what they like, as long as they keep out of the temporary directory
of the session.  The session itself writes its arguments and the resolutions, and removes nothing
but the arguments.  The temporary directory goes on hosting the session, and copies are spared.

Main definitions:

* `LtoBridge.Machine.Spares`, `LtoBridge.Machine.KeepsOut`: changes that leave something alone;
* `LtoBridge.Call.Changes`: what a call can change on a machine;
* `LtoBridge.Session.Orderly`, `LtoBridge.Session.WritesElsewhere`: calls that do not disturb;
* `LtoBridge.Session.IsSettling`: the calls that are made when all symbols have been read.

Main results:

* `LtoBridge.Session.Hosts.after`: **the temporary directory stays in place**;
* `LtoBridge.Session.spares_after`: **copies are spared**;
* `LtoBridge.Session.yields_allSymbolsRead_settling`: no other calls are made when all symbols have
  been read.
-/

import LtoBridge.Proofs.Session.AllSymbolsRead
import LtoBridge.Proofs.Session.Verdict

set_option autoImplicit false

namespace LtoBridge

variable {L : Type}

namespace Machine

/-! ### Changes that leave something alone -/

/-- **A change of a machine spares some locations**: what is there stays as it is, and only what was
there has been opened since. -/
structure Spares (P : Location → Prop) (m m' : Machine L) : Prop where
  get? : ∀ l, P l → m'.disk.tree.get? l = m.disk.tree.get? l
  opened : ∀ entry ∈ m'.opened, P entry.2 →
    entry ∈ m.opened ∨ m.disk.tree.get? entry.2 ≠ none

namespace Spares

variable {P Q : Location → Prop} {m m' m'' : Machine L}

theorem of_disk_eq (hdisk : m'.disk = m.disk) (hopened : m'.opened = m.opened) : Spares P m m' :=
  ⟨fun l _ => by rw [hdisk], fun entry hentry _ => .inl (by rwa [← hopened])⟩

theorem refl (m : Machine L) : Spares P m m := of_disk_eq rfl rfl

theorem trans (h : Spares P m m') (h' : Spares P m' m'') : Spares P m m'' := by
  refine ⟨fun l hl => (h'.get? l hl).trans (h.get? l hl), fun entry hentry hl => ?_⟩
  rcases h'.opened entry hentry hl with hold | hthere
  · exact h.opened entry hold hl
  · right
    rwa [h.get? _ hl] at hthere

theorem mono (h : Spares P m m') (hQ : ∀ l, Q l → P l) : Spares Q m m' :=
  ⟨fun l hl => h.get? l (hQ l hl), fun entry hentry hl => h.opened entry hentry (hQ _ hl)⟩

/-- A file that comes or goes somewhere else. -/
theorem of_changesFile {l : Location} (hchange : m.disk.ChangesFile m'.disk l)
    (hopened : m'.opened = m.opened) (hl : ¬ P l) : Spares P m m' := by
  refine ⟨fun l' hl' => hchange.get?_of_ne ?_, fun entry hentry _ => .inl (by rwa [← hopened])⟩
  rintro rfl
  exact hl hl'

end Spares

/-- **A change of a machine keeps out of a directory**: its name still leads there, and everything
in it and below it is spared. -/
structure KeepsOut (path : Path) (directory : Location) (m m' : Machine L) : Prop where
  locate : m.disk.locate path = .ok directory → m'.disk.locate path = .ok directory
  spares : Spares (directory <+: ·) m m'

end Machine

namespace Session

variable {path : Path} {directory : Location}

/-- A directory goes on hosting a session when others keep out of it. -/
theorem Hosts.of_keepsOut {m m' : Machine L} (h : Hosts m.disk path directory)
    (hkeeps : m.KeepsOut path directory m') : Hosts m'.disk path directory where
  locate := hkeeps.locate h.locate
  isDirectory := by rw [hkeeps.spares.get? _ List.prefix_rfl, h.isDirectory]
  isOpen name hname := by
    rw [Disk.isOpenTo, hkeeps.spares.get? _ (List.prefix_append _ _)]
    exact h.isOpen name hname

end Session

/-! ### What calls change -/

/-- Can a call change more than a single file? -/
def Effect.reachesFurther : Effect → Bool
  | makeTemporaryDirectory _ _ | removeTree _ | launch _ _ => true
  | _ => false

/-- Such a call can be noticed, and the linker does not get it. -/
theorem Effect.visible_of_reachesFurther {e : Effect} (h : e.reachesFurther = true) :
    e.visible = true ∧ e.isLinker = false := by
  cases e with
  | makeTemporaryDirectory | removeTree | launch => exact ⟨rfl, rfl⟩
  | _ => cases h

/-- The file that a call writes to, if it does. -/
def Effect.written? : Effect → Option Path
  | createFile file | appendFile file _ => some file
  | _ => none

/-- Such a call can be noticed, too, and the linker does not get it; and it does not reach further
than that file. -/
theorem Effect.visible_of_written {e : Effect} {file : Path} (h : e.written? = some file) :
    e.visible = true ∧ e.isLinker = false ∧ e.reachesFurther = false := by
  cases e with
  | createFile | appendFile => exact ⟨rfl, rfl, rfl⟩
  | _ => cases h

variable [Linker L]

/-- **All that a call can change on a machine**, if it does not reach further than a single file. -/
inductive Call.Changes (c : Call (Machine L)) : Prop
  | nothing (hdisk : c.after.disk = c.before.disk)
      (hopened : ∀ entry ∈ c.after.opened,
        entry ∈ c.before.opened ∨ c.before.disk.tree.get? entry.2 ≠ none)
  | written (file : Path) (l : Location) (heffect : c.effect.written? = some file)
      (hl : c.before.disk.locate file = .ok l)
      (hchange : c.before.disk.ChangesFile c.after.disk l)
      (hopened : c.after.opened = c.before.opened)
  | removed (file : Path) (l : Location) (heffect : c.effect = .removeFile file)
      (hl : c.before.disk.locateEntry file = .ok l)
      (hchange : Disk.isOpenTo c.before.disk.tree l →
        c.before.disk.ChangesFile c.after.disk l)
      (hopened : c.after.opened = c.before.opened)

theorem Call.Changes.of_eq {c : Call (Machine L)} (hdisk : c.after.disk = c.before.disk)
    (hopened : c.after.opened = c.before.opened) : c.Changes :=
  .nothing hdisk fun entry hentry => .inl (by rwa [hopened] at hentry)

theorem Call.changes (c : Call (Machine L)) (hc : c.effect.reachesFurther = false) :
    c.Changes := by
  obtain ⟨effect, m⟩ := c
  cases effect with
  | createFile file =>
      obtain ⟨hopened, hsame | hcreate⟩ := Machine.onDisk_cases (f := (·.create file)) m
      · exact .of_eq hsame hopened
      · obtain hsame | ⟨l, hl, hchange⟩ := Disk.changesFile_of_create hcreate
        · exact .of_eq hsame hopened
        · exact .written file l rfl hl hchange hopened
  | appendFile file data =>
      obtain ⟨hopened, hsame | happend⟩ := Machine.onDisk_cases (f := (·.append file data)) m
      · exact .of_eq hsame hopened
      · obtain hsame | ⟨l, hl, hchange⟩ := Disk.changesFile_of_append happend
        · exact .of_eq hsame hopened
        · exact .written file l rfl hl hchange hopened
  | removeFile file =>
      obtain ⟨hopened, hsame | hremove⟩ := Machine.onDisk_cases (f := (·.remove file)) m
      · exact .of_eq hsame hopened
      · obtain ⟨l, hl, hchange⟩ := Disk.changesFile_of_remove hremove
        exact .removed file l rfl hl hchange hopened
  | openFile file =>
      refine .nothing (Machine.disk_after_of_hidden rfl) fun entry hentry => ?_
      change entry ∈ (Platform.openFile file m).2.opened at hentry
      simp only [Platform.openFile, Machine.openFile] at hentry
      cases hfind : m.disk.find file with
      | error error =>
          rw [hfind] at hentry
          exact .inl hentry
      | ok found =>
          rw [hfind] at hentry
          obtain rfl | hold := List.mem_cons.1 hentry
          · right
            rw [(Disk.of_find_eq_ok hfind).2]
            exact Option.some_ne_none _
          · exact .inl hold
  | closeFile file =>
      refine .nothing rfl fun entry hentry => .inl ?_
      exact (List.mem_filter.1 hentry).1
  | makeTemporaryDirectory | removeTree | launch => cases hc
  | _ => exact .nothing rfl fun entry hentry => .inl hentry

namespace Session

variable {path : Path} {directory : Location}

/-! ### Calls that do not disturb a session -/

/-- Where copies of members are. -/
def IsCopyLocation (directory l : Location) : Prop :=
  ∃ number, l = directory ++ [Claim.memberName number]

/-- **A call does not disturb a session**: nothing is removed but the arguments file, and what
reaches further keeps out of the temporary directory. -/
structure Orderly (path : Path) (directory : Location) (c : Call (Machine L)) : Prop where
  removes : ∀ file, c.effect = .removeFile file → file = path.join Backend.argumentsName
  keepsOut : c.effect.reachesFurther = true → c.before.KeepsOut path directory c.after

/-- The call writes to the arguments file, or to files that are not where copies are. -/
def WritesElsewhere (path : Path) (directory : Location) (c : Call (Machine L)) : Prop :=
  ∀ file, c.effect.written? = some file → file = path.join Backend.argumentsName ∨
    ∀ l, c.before.disk.locate file = .ok l → ¬ IsCopyLocation directory l

section

variable {c : Call (Machine L)}

/-- A directory goes on hosting a session. -/
theorem Hosts.after (h : Hosts c.before.disk path directory) (hc : Orderly path directory c) :
    Hosts c.after.disk path directory := by
  cases hfar : c.effect.reachesFurther with
  | true => exact h.of_keepsOut (hc.keepsOut hfar)
  | false =>
      cases c.changes hfar with
      | nothing hdisk hopened => rwa [hdisk]
      | written file l heffect hl hchange hopened => exact h.of_changesFile hchange
      | removed file l heffect hl hchange hopened =>
          -- only the arguments file is removed, and that is no directory
          rw [hc.removes file heffect] at hl
          obtain rfl := h.eq_of_locateWith .arguments hl
          exact h.of_changesFile (hchange (h.isOpen _ .arguments))

theorem not_isCopyLocation_arguments (directory : Location) :
    ¬ IsCopyLocation directory (directory ++ [Backend.argumentsName]) := by
  rintro ⟨number, h⟩
  have hname : Backend.argumentsName = Claim.memberName number :=
    List.singleton_inj.1 (List.append_cancel_left h)
  exact Claim.memberName_ne_argumentsName number hname.symm

/-- Copies are spared. -/
theorem spares_after (h : Hosts c.before.disk path directory) (hc : Orderly path directory c)
    (hwrites : WritesElsewhere path directory c) :
    c.before.Spares (IsCopyLocation directory) c.after := by
  cases hfar : c.effect.reachesFurther with
  | true =>
      refine (hc.keepsOut hfar).spares.mono ?_
      rintro _ ⟨number, rfl⟩
      exact List.prefix_append _ _
  | false =>
      cases c.changes hfar with
      | nothing hdisk hopened =>
          exact ⟨fun l _ => by rw [hdisk], fun entry hentry _ => hopened entry hentry⟩
      | written file l heffect hl hchange hopened =>
          refine .of_changesFile hchange hopened ?_
          obtain rfl | helsewhere := hwrites file heffect
          · obtain rfl := h.eq_of_locateWith .arguments hl
            exact not_isCopyLocation_arguments directory
          · exact helsewhere l hl
      | removed file l heffect hl hchange hopened =>
          rw [hc.removes file heffect] at hl
          obtain rfl := h.eq_of_locateWith .arguments hl
          exact .of_changesFile (hchange (h.isOpen _ .arguments)) hopened
            (not_isCopyLocation_arguments directory)

end

/-! ### What is called when all symbols have been read -/

/-- **The calls that are made when all symbols have been read.** -/
inductive IsSettling (session : Session) (e : Effect) : Prop
  | hidden (h : e.visible = false)
  | linker (h : e.isLinker = true)
  | resolutions (file : Path) (hfile : session.options.resolutionFile = some file)
      (h : e.written? = some file)
  | arguments (h : e.written? = some session.argumentsPath ∨
      e = .removeFile session.argumentsPath)
  | launch (program : Path) (arguments : List Bytes) (h : e = .launch program arguments)

/-- What the backend did is for the linker. -/
theorem isLinker_of_mem_processScript {process : Process} {e : Effect}
    (h : Step.call e ∈ processScript process) : e.isLinker = true := by
  rcases List.mem_append.1 h with h | h
  · obtain ⟨line, -, hline⟩ := List.mem_flatMap.1 h
    simp only [lineScript, List.mem_cons, reduceCtorEq, Step.call.injEq, List.not_mem_nil,
      false_or, or_false] at hline
    rw [hline]
    rfl
  · simp at h

theorem isSettling_of_mem_backendScript {session : Session} {process : Option Process} {e : Effect}
    (h : Step.call e ∈ backendScript session (takeIn process)) : IsSettling session e := by
  simp only [backendScript, argumentsScript, List.mem_append, List.mem_cons, reduceCtorEq,
    Step.call.injEq, List.not_mem_nil, false_or, or_false] at h
  rcases h with (hcreate | hwrite) | hlaunch | hprocess | hremove
  · exact .arguments (.inl (by rw [hcreate]; rfl))
  · exact .arguments (.inl (by rw [hwrite]; rfl))
  · exact .launch _ _ hlaunch
  · cases process with
    | none => cases hprocess
    | some process => exact .linker (isLinker_of_mem_processScript hprocess)
  · exact .arguments (.inr hremove)

/-- For the resolutions, the linker is asked, and the resolution file is written. -/
theorem eq_of_mem_resolutionScript {session : Session} {text : Bytes} {e : Effect}
    (h : Step.call e ∈ resolutionScript session text) : e.isLinker = true ∨
      ∃ file, session.options.resolutionFile = some file ∧ e.written? = some file := by
  unfold resolutionScript at h
  split at h
  · cases h
  · rename_i file hfile
    rcases List.mem_append.1 h with h | h
    · obtain ⟨f, -, hquestion⟩ := List.mem_filterMap.1 h
      obtain ⟨table, -, hcall⟩ := Option.map_eq_some_iff.1 hquestion
      cases hcall
      exact .inl rfl
    · simp only [List.mem_cons, List.not_mem_nil, or_false, Step.call.injEq] at h
      rcases h with rfl | rfl
      · exact .inr ⟨file, hfile, rfl⟩
      · exact .inr ⟨file, hfile, rfl⟩

theorem isSettling_of_mem_script {W : Type} [Platform W] {session : Session} {cs : List (Call W)}
    {e : Effect} (h : Step.call e ∈ script session cs) : IsSettling session e := by
  rcases List.mem_append.1 h with h | h
  · obtain hlinker | ⟨file, hfile, hwritten⟩ := eq_of_mem_resolutionScript h
    · exact .linker hlinker
    · exact .resolutions file hfile hwritten
  · unfold fileScript at h
    split at h
    · obtain ⟨file, -, hcall⟩ := List.mem_flatMap.1 h
      cases List.mem_singleton.1 hcall
      exact .linker rfl
    · rcases List.mem_append.1 h with h | h
      · cases List.mem_singleton.1 h
        exact .linker rfl
      · rcases List.mem_append.1 h with h | h
        · exact isSettling_of_mem_backendScript h
        · obtain ⟨item, -, hitem⟩ := List.mem_flatMap.1 h
          obtain ⟨name, hcall⟩ | ⟨file, hcall⟩ := eq_of_mem_passThroughScript hitem
          · cases hcall
            exact .linker rfl
          · cases hcall
            exact .linker rfl

/-- **When all symbols have been read**, no other calls are made, and the same files are claimed as
before. -/
theorem yields_allSymbolsRead_settling {W : Type} [Platform W] (s : Live (Traced W)) :
    allSymbolsRead.Yields s fun _ cs s' => (∀ c ∈ cs, IsSettling s.session c.effect) ∧
      ∃ registry outputs passThrough,
        registry.identities = s.session.registry.identities ∧
        s'.session =
          { s.session with
            registry
            outputs
            options := { s.session.options with passThrough } } := by
  by_cases hfiles : s.session.registry.files = []
  · refine yields_view_bind_iff.2 ?_
    rw [if_pos hfiles]
    refine ⟨_, .single _ _, ?_, s.session.registry, s.session.outputs,
      s.session.options.passThrough, rfl, rfl⟩
    intro c hc
    rw [List.mem_singleton.1 hc]
    exact .hidden rfl
  · refine (yields_allSymbolsRead hfiles).mono ?_
    rintro r cs s' ⟨hfollows, registry, outputs, passThrough, rfl, hs'⟩
    refine ⟨fun c hc => ?_, _, outputs, passThrough, ?_, hs'⟩
    · cases hvisible : c.effect.visible with
      | false => exact .hidden hvisible
      | true =>
          have hmem : c ∈ visible cs := List.mem_filter.2 ⟨hc, hvisible⟩
          exact isSettling_of_mem_script (hfollows.effect_mem hmem)
    · have hsame : Registry.identities
          ⟨enterAll s.session.registry.files (answers cs)⟩ = s.session.registry.identities :=
        identities_enterAll _ _
      split
      · rw [Registry.identities_release, hsame]
      · exact hsame

end Session

end LtoBridge
