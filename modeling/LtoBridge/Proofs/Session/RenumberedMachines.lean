/-
**Machines with renumbered copies.**

Two machines hold the same, but for the numbers of the copies, and neither the linker nor the
programs depend on these numbers.  Then whatever a session asks of the one machine under the old
names and of the other one under the new names comes out alike, and the machines hold the same
again.

Main definitions:

* `LtoBridge.Renumbering.LinkersAlike`, `LtoBridge.Renumbering.ProgramsAlike`: linkers and programs
  that do not depend on how copies are numbered;
* `LtoBridge.Renumbering.Machines`: a machine, and the same with renumbered copies;
* `LtoBridge.Comparison`: two operations that are compared;
* `LtoBridge.Comparison.Worlds`: how far they have got, side by side.

Main results:

* `LtoBridge.Comparison.Worlds.ofOs`: **a call and the same under new names**;
* `LtoBridge.Comparison.keeps_copyRange`, `LtoBridge.Comparison.keeps_loadCopy`: members are copied
  and read alike;
* `LtoBridge.Comparison.Worlds.write`: what lists the same files is written alike.
-/

import LtoBridge.Proofs.Session.RenumberedDisks

set_option autoImplicit false

namespace LtoBridge

variable {L : Type}

namespace Renumbering

variable (σ : Renumbering)

/-! ### Linkers and programs -/

section

variable [Linker L]

/-- Two linkers give the same answer, and go on as linkers that correspond to each other. -/
def AnswersAlike (Q : L → L → Prop) (x x' : Except Failure Unit × L) : Prop :=
  x'.1 = σ.renameResult x.1 ∧ Q x.2 x'.2

/-- **The linker does not depend on how copies are numbered**: linkers that correspond to each other
answer alike and go on corresponding to each other. -/
structure LinkersAlike (Q : L → L → Prop) : Prop where
  addSymbols : ∀ l l' handle symbols, Q l l' → σ.AnswersAlike Q
    (Linker.addSymbols handle symbols l) (Linker.addSymbols handle symbols l')
  getSymbols : ∀ l l' handle symbols, Q l l' →
    (Linker.getSymbols handle symbols l').1.loaded =
      σ.renameResult (Linker.getSymbols handle symbols l).1.loaded ∧
    (Linker.getSymbols handle symbols l').1.entered =
      (Linker.getSymbols handle symbols l).1.entered ∧
    Q (Linker.getSymbols handle symbols l).2 (Linker.getSymbols handle symbols l').2
  addInputFile : ∀ l l' path, Q l l' → σ.AnswersAlike Q
    (Linker.addInputFile path l) (Linker.addInputFile (σ.rename path) l')
  addInputLibrary : ∀ l l' name, Q l l' → σ.AnswersAlike Q
    (Linker.addInputLibrary name l) (Linker.addInputLibrary name l')
  releaseSymbols : ∀ l l', Q l l' → Q (Linker.releaseSymbols l) (Linker.releaseSymbols l')

end

/-- Two runs of a program came out alike: they printed the same names, or new names where the first
one printed those of copies, and ended in the same way. -/
structure ProcessesAlike (p p' : Process) : Prop where
  complete : (Backend.lines p'.output).1 = (Backend.lines p.output).1.map σ.rename
  rest : (Backend.lines p'.output).2 = (Backend.lines p.output).2
  readError : p'.readError = p.readError
  status : p'.status = p.status

/-- **Two answers of the operating system** correspond to each other: the same error, or values that
are related. -/
inductive Replies {α : Type} (V : α → α → Prop) : Except OsError α → Except OsError α → Prop
  | ok {a a' : α} (h : V a a') : Replies V (.ok a) (.ok a')
  | error (error : OsError) : Replies V (.error error) (.error error)

/-- **Programs do not depend on how copies are numbered**, and leave the session its directory. -/
def ProgramsAlike (launcher : Launcher) : Prop :=
  ∀ d d' program arguments, σ.Disks d d' → σ.Hosts d →
    Replies σ.ProcessesAlike (launcher d program arguments).1 (launcher d' program arguments).1 ∧
    σ.Disks (launcher d program arguments).2 (launcher d' program arguments).2 ∧
    σ.Hosts (launcher d program arguments).2

/-! ### Answers of the operating system -/

theorem Replies.mono {α : Type} {V V' : α → α → Prop} {x x' : Except OsError α}
    (h : Replies V x x') (hV : ∀ a a', V a a' → V' a a') : Replies V' x x' := by
  cases h with
  | ok h => exact .ok (hV _ _ h)
  | error error => exact .error error

theorem replies_of_eq {α : Type} {x x' : Except OsError α} (h : x' = x) : Replies Eq x x' := by
  subst h
  cases x' with
  | error error => exact .error error
  | ok a => exact .ok rfl

/-! ### Machines -/

variable (Q : L → L → Prop)

/-- **A machine and the same with renumbered copies.** -/
structure Machines (m m' : Machine L) : Prop where
  disks : σ.Disks m.disk m'.disk
  opened : m'.opened = m.opened.map fun entry => (entry.1, σ.move entry.2)
  unlisted : ∀ entry ∈ m.opened, ¬ σ.listing entry.2
  launcher : m'.launcher = m.launcher
  behind : m'.behind = m.behind
  programs : σ.ProgramsAlike m.launcher
  linker : Q m.linker m'.linker

/-- The machines are about to answer reads alike, and the first disk has a property. -/
structure Ready (P : Disk → Prop) (m m' : Machine L) : Prop extends σ.Machines Q m m' where
  readPlan : m'.readPlan = m.readPlan
  disk : P m.disk

namespace Ready

variable {σ Q} {P P' : Disk → Prop} {m m' : Machine L} {n : Nat}

theorem mono (h : σ.Ready Q P m m') (hP : ∀ d, P d → P' d) : σ.Ready Q P' m m' :=
  { h with disk := hP _ h.disk }

/-- **The disks change alike**, and if they do, the first one has a property. -/
theorem change (h : σ.Ready Q P m m') (f f' : Disk → Except OsError Disk)
    (hends : σ.Ends P' (f m.disk) (f' m'.disk)) (hP : ∀ d, P' d → P d) :
    Replies (fun _ _ => P' (Machine.onDisk f m).2.disk) (Machine.onDisk f m).1
        (Machine.onDisk f' m').1 ∧
      σ.Ready Q P (Machine.onDisk f m).2 (Machine.onDisk f' m').2 := by
  unfold Machine.onDisk
  generalize f m.disk = x at hends ⊢
  generalize f' m'.disk = x' at hends ⊢
  cases hends with
  | ok hdisks hdisk => exact ⟨.ok hdisk, { h with disks := hdisks, disk := hP _ hdisk }⟩
  | error error => exact ⟨.error error, h⟩

theorem onDisk (h : σ.Ready Q P m m') (f f' : Disk → Except OsError Disk)
    (hends : σ.Ends P (f m.disk) (f' m'.disk)) :
    Replies Eq (Machine.onDisk f m).1 (Machine.onDisk f' m').1 ∧
      σ.Ready Q P (Machine.onDisk f m).2 (Machine.onDisk f' m').2 :=
  have hstep := h.change f f' hends fun _ hd => hd
  ⟨hstep.1.mono fun _ _ _ => rfl, hstep.2⟩

/-! ### Open files -/

theorem lookup_eq (h : σ.Ready Q P m m') (file : Descriptor) :
    m'.opened.lookup file = (m.opened.lookup file).map σ.move := by
  rw [h.opened]
  induction m.opened with
  | nil => rfl
  | cons entry entries ih =>
      rw [List.map_cons, List.lookup_cons, List.lookup_cons]
      split
      · rfl
      · exact ih

/-- **The same is behind the number of an open file.** -/
theorem node_eq (h : σ.Ready Q P m m') (file : Descriptor) : m'.node file = m.node file := by
  unfold Machine.node
  rw [h.lookup_eq]
  cases hopened : m.opened.lookup file with
  | none => rfl
  | some l =>
      obtain ⟨before, after, hentries, -⟩ := List.lookup_eq_some_iff.1 hopened
      have hl : ¬ σ.listing l := h.unlisted (file, l) (by simp [hentries])
      simp only [Option.map_some, (h.disks.nodes l).eq hl]

theorem freeDescriptor_eq (h : σ.Ready Q P m m') : m'.freeDescriptor = m.freeDescriptor := by
  rw [Machine.freeDescriptor, Machine.freeDescriptor, h.opened, List.map_map]
  rfl

theorem fileSize_eq (h : σ.Ready Q P m m') (file : Descriptor) :
    m'.fileSize file = m.fileSize file := by
  rw [Machine.fileSize, Machine.fileSize, h.node_eq]

theorem mapFile_eq (h : σ.Ready Q P m m') (file : Descriptor) (count : Nat) :
    m'.mapFile file count = m.mapFile file count := by
  rw [Machine.mapFile, Machine.mapFile, h.node_eq, h.behind]

/-- **The same is read.** -/
theorem readAt (h : σ.Ready Q P m m') (file : Descriptor) (position count : Nat) :
    (m'.readAt file position count).1 = (m.readAt file position count).1 ∧
      σ.Ready Q P (m.readAt file position count).2 (m'.readAt file position count).2 := by
  constructor
  · simp only [Machine.readAt, h.node_eq, h.readPlan]
  · rw [Machine.readAt_snd, Machine.readAt_snd, h.readPlan]
    exact { h with readPlan := rfl }

/-- **A copy is opened**, under the same number. -/
theorem openFile [Linker L] (h : σ.Ready Q σ.Hosts m m') (hn : σ.Short n) :
    Replies Eq (Platform.openFile (σ.copyName n) m).1
        (Platform.openFile (σ.copyName (σ.number n)) m').1 ∧
      σ.Ready Q σ.Hosts (Platform.openFile (σ.copyName n) m).2
        (Platform.openFile (σ.copyName (σ.number n)) m').2 := by
  obtain ⟨hspot, hspot'⟩ := h.disks.isSpot_copy h.disk hn
  obtain hnone | ⟨contents, executable, hfile⟩ := hspot.node_cases
  · have hnone' : m'.disk.tree.get? (σ.copyAt (σ.number n)) = none := by
      rw [h.disks.get?_copy, hnone]
    simp only [Platform.openFile, Machine.openFile, hspot.find_of_none hnone,
      hspot'.find_of_none hnone']
    exact ⟨.error _, h⟩
  · have hfile' : m'.disk.tree.get? (σ.copyAt (σ.number n)) = some (.file contents executable) := by
      rw [h.disks.get?_copy, hfile]
    have hopened : Platform.openFile (σ.copyName n) m =
        (.ok m.freeDescriptor, m.opening (σ.copyAt n)) := by
      simp only [Platform.openFile, Machine.openFile,
        Disk.find_eq_ok hspot.locate hfile hspot.separator]
      rfl
    have hopened' : Platform.openFile (σ.copyName (σ.number n)) m' =
        (.ok m.freeDescriptor, m'.opening (σ.copyAt (σ.number n))) := by
      simp only [Platform.openFile, Machine.openFile,
        Disk.find_eq_ok hspot'.locate hfile' hspot'.separator, ← h.freeDescriptor_eq]
      rfl
    rw [hopened, hopened']
    refine ⟨.ok rfl, { h with opened := ?_, unlisted := ?_ }⟩
    · simp only [Machine.opening, List.map_cons, h.freeDescriptor_eq, h.opened, σ.move_copyAt]
    · intro entry hentry
      obtain rfl | hentry := List.mem_cons.1 hentry
      · exact σ.copies n
      · exact h.unlisted entry hentry

/-- An open file is closed. -/
theorem closeFile (h : σ.Ready Q P m m') (file : Descriptor) :
    σ.Ready Q P (m.closeFile file) (m'.closeFile file) :=
  { h with
    opened := by
      simp only [Machine.closeFile, h.opened, List.filter_map]
      rfl
    unlisted := fun entry hentry => h.unlisted entry (List.mem_filter.1 hentry).1 }

end Ready

end Renumbering

/-! ### Two operations side by side -/

/-- **Two operations that are compared**: how copies are renumbered in the second one, which linkers
correspond to each other, and where each of the operations begins. -/
structure Comparison (L : Type) [Linker L] where
  σ : Renumbering
  linkers : L → L → Prop
  linkersAlike : σ.LinkersAlike linkers
  start : Traced (Machine L)
  start' : Traced (Machine L)

namespace Comparison

variable [Linker L] (κ : Comparison L)

/-- **How far two operations have got**: to machines that hold the same but for the numbers of the
copies, by calls that have asked for the same. -/
structure Worlds (P : Disk → Prop) (t t' : Traced (Machine L)) : Prop where
  ready : κ.σ.Ready κ.linkers P t.world t'.world
  calls : ∃ cs cs', κ.start.Extends cs t ∧ κ.start'.Extends cs' t' ∧
    List.Forall₂ κ.σ.AskAlike (cs.map (·.effect)) (cs'.map (·.effect))

/-- **Two steps go on side by side.** -/
abbrev Keeps {α : Type} (P : Disk → Prop) (V : α → α → Prop)
    (act act' : Act (Traced (Machine L)) α) : Prop :=
  Act.Keeps κ.σ.renameFailure (κ.Worlds P) V act act'

variable {κ} {α : Type} {V : α → α → Prop} {P P' : Disk → Prop} {t t' : Traced (Machine L)}
  {e e' : Effect}

namespace Worlds

theorem mono (h : κ.Worlds P t t') (hP : ∀ d, P d → P' d) : κ.Worlds P' t t' :=
  ⟨h.ready.mono hP, h.calls⟩

/-- **One more call**, and one that asks for the same. -/
theorem record (h : κ.Worlds P t t') (hask : κ.σ.AskAlike e e')
    (hready : κ.σ.Ready κ.linkers P' (e.outcome t.world).2 (e'.outcome t'.world).2) :
    κ.Worlds P' (t.record e) (t'.record e') := by
  obtain ⟨cs, cs', hext, hext', halike⟩ := h.calls
  refine ⟨hready, _, _, hext.record e, hext'.record e', ?_⟩
  rw [List.map_append, List.map_append]
  exact List.rel_append halike (.cons hask .nil)

/-- **A call to the operating system and the same under new names**: both fail with the same error,
or both succeed. -/
theorem ofOs {f f' : Traced (Machine L) → Except OsError α × Traced (Machine L)}
    {x x' : Except OsError α} (h : κ.Worlds P t t') (hf : f t = (x, t.record e))
    (hf' : f' t' = (x', t'.record e')) (hask : κ.σ.AskAlike e e')
    (hstep : Renumbering.Replies V x x' ∧
      κ.σ.Ready κ.linkers P' (e.outcome t.world).2 (e'.outcome t'.world).2) :
    Act.Matches κ.σ.renameFailure V (Act.ofOs f t).1 (Act.ofOs f' t').1 ∧
      κ.Worlds P' (Act.ofOs f t).2 (Act.ofOs f' t').2 := by
  have hrecorded := h.record hask hstep.2
  simp only [Act.ofOs, hf, hf']
  cases hstep.1 with
  | ok hvalue => exact ⟨.ok hvalue, hrecorded⟩
  | error error => exact ⟨.error ⟨.os error, []⟩, hrecorded⟩

/-- A call whose error is a result. -/
theorem answer {f f' : Traced (Machine L) → Except OsError α × Traced (Machine L)}
    {x x' : Except OsError α} {V : Except OsError α → Except OsError α → Prop}
    (h : κ.Worlds P t t') (hf : f t = (x, t.record e)) (hf' : f' t' = (x', t'.record e'))
    (hask : κ.σ.AskAlike e e') (hx : V x x')
    (hready : κ.σ.Ready κ.linkers P' (e.outcome t.world).2 (e'.outcome t'.world).2) :
    Act.Matches κ.σ.renameFailure V (Act.answer f t).1 (Act.answer f' t').1 ∧
      κ.Worlds P' (Act.answer f t).2 (Act.answer f' t').2 := by
  simp only [Act.answer, hf, hf']
  exact ⟨.ok hx, h.record hask hready⟩

/-- A call to the linker. -/
theorem ofFunction {f f' : Traced (Machine L) → Except Failure α × Traced (Machine L)}
    {x x' : Except Failure α} (h : κ.Worlds P t t') (hf : f t = (x, t.record e))
    (hf' : f' t' = (x', t'.record e')) (hask : κ.σ.AskAlike e e') (hx : x' = κ.σ.renameResult x)
    (hready : κ.σ.Ready κ.linkers P' (e.outcome t.world).2 (e'.outcome t'.world).2) :
    Act.Matches κ.σ.renameFailure Eq (Act.ofFunction f t).1 (Act.ofFunction f' t').1 ∧
      κ.Worlds P' (Act.ofFunction f t).2 (Act.ofFunction f' t').2 := by
  simp only [Act.ofFunction, hf, hf', hx]
  exact ⟨Act.matches_mapError x, h.record hask hready⟩

end Worlds

/-- **Reports are not compared.** -/
theorem keeps_say (span span' : Option Span) (notice notice' : Notice) :
    κ.Keeps P Eq (say span notice) (say span' notice') :=
  fun _ _ h => ⟨.ok rfl, h.record (.hidden rfl rfl) { h.ready with }⟩

/-- What is being done may have another name. -/
theorem Keeps.within {act act' : Act (Traced (Machine L)) α} {context context' : Context}
    (h : κ.Keeps P V act act') (hcontext : κ.σ.renameContext context = context') :
    κ.Keeps P V (act.within context) (act'.within context') :=
  Act.Keeps.within h fun failure => by rw [κ.σ.renameFailure_within, hcontext]

/-! ### Members -/

variable {n : Nat}

/-- A copy is begun. -/
theorem keeps_create_copy (hn : κ.σ.Short n) :
    κ.Keeps κ.σ.Hosts Eq
      ((Act.ofOs (Platform.createFile (κ.σ.copyName n))).within (.creating (κ.σ.copyName n)))
      ((Act.ofOs (Platform.createFile (κ.σ.copyName (κ.σ.number n)))).within
        (.creating (κ.σ.copyName (κ.σ.number n)))) := by
  refine Keeps.within (fun t t' h => h.ofOs rfl rfl ?_ ?_) ?_
  · exact .of_eq _ nofun (congrArg Effect.createFile (κ.σ.rename_copyName n))
  · exact h.ready.onDisk _ _ (h.ready.disks.ends_create_copy h.ready.disk hn)
  · rw [Renumbering.renameContext, κ.σ.rename_copyName]

/-- A copy grows. -/
theorem keeps_append_copy (hn : κ.σ.Short n) (data : Bytes) :
    κ.Keeps κ.σ.Hosts Eq
      ((Act.ofOs (Platform.appendFile (κ.σ.copyName n) data)).within (.writing (κ.σ.copyName n)))
      ((Act.ofOs (Platform.appendFile (κ.σ.copyName (κ.σ.number n)) data)).within
        (.writing (κ.σ.copyName (κ.σ.number n)))) := by
  refine Keeps.within (fun t t' h => h.ofOs rfl rfl ?_ ?_) ?_
  · exact .copied n data
  · exact h.ready.onDisk _ _ (h.ready.disks.ends_append_copy h.ready.disk hn data)
  · rw [Renumbering.renameContext, κ.σ.rename_copyName]

/-- A copy goes. -/
theorem keeps_remove_copy (hn : κ.σ.Short n) :
    κ.Keeps κ.σ.Hosts Eq
      ((Act.ofOs (Platform.removeFile (κ.σ.copyName n))).within (.deleting (κ.σ.copyName n)))
      ((Act.ofOs (Platform.removeFile (κ.σ.copyName (κ.σ.number n)))).within
        (.deleting (κ.σ.copyName (κ.σ.number n)))) := by
  refine Keeps.within (fun t t' h => h.ofOs rfl rfl ?_ ?_) ?_
  · exact .of_eq _ nofun (congrArg Effect.removeFile (κ.σ.rename_copyName n))
  · exact h.ready.onDisk _ _ (h.ready.disks.ends_remove_copy h.ready.disk hn)
  · rw [Renumbering.renameContext, κ.σ.rename_copyName]

/-- The same is read of an open file. -/
theorem keeps_readAt (source : Descriptor) (position count : Nat) :
    κ.Keeps P Eq ((Act.ofOs (Platform.readAt source position count)).within .readingMember)
      ((Act.ofOs (Platform.readAt source position count)).within .readingMember) := by
  refine Keeps.within (fun t t' h => h.ofOs rfl rfl (.hidden rfl rfl) ?_) rfl
  obtain ⟨hread, hready⟩ := h.ready.readAt source position count
  exact ⟨Renumbering.replies_of_eq hread, hready⟩

/-- **One piece after the other is added to a copy.** -/
theorem keeps_copyFrom (hn : κ.σ.Short n) (source : Descriptor) (total position remaining : Nat) :
    κ.Keeps κ.σ.Hosts Eq
      (Extraction.copyFrom source (κ.σ.copyName n) total position remaining)
      (Extraction.copyFrom source (κ.σ.copyName (κ.σ.number n)) total position remaining) := by
  -- on what remains to be copied, which gets less with each piece
  induction remaining using Nat.strongRecOn generalizing position with
  | ind remaining ih =>
      rw [Extraction.copyFrom, Extraction.copyFrom]
      split
      · exact .pure rfl
      · rename_i hremaining
        refine .bind (keeps_readAt source position _) ?_
        rintro piece _ rfl
        split
        · exact .fail rfl
        · refine .bind (keeps_append_copy hn piece) fun _ _ _ => ih _ (by omega) _

/-- **A member is copied.** -/
theorem keeps_copyRange (hn : κ.σ.Short n) (source : Descriptor) (position length : Nat) :
    κ.Keeps κ.σ.Hosts Eq
      (Extraction.copyRange source position length (κ.σ.copyName n))
      (Extraction.copyRange source position length (κ.σ.copyName (κ.σ.number n))) :=
  .bind (keeps_create_copy hn) fun _ _ _ => keeps_copyFrom hn source length position length

/-- **The same is found in an open file**, also if it is malformed. -/
theorem keeps_readSymbols (span : Option Span) (file : Descriptor) (size : Nat) {path path' : Path}
    (hpath : κ.σ.rename path = path') :
    κ.Keeps P Eq (Claim.readSymbols span file size path)
      (Claim.readSymbols span file size path') := by
  unfold Claim.readSymbols
  split
  · exact .pure rfl
  · have hmapped : κ.Keeps P Eq (Act.answer (Platform.mapFile file size))
        (Act.answer (Platform.mapFile file size)) := fun t t' h =>
      h.answer rfl rfl (.hidden rfl rfl) (h.ready.mapFile_eq file size).symm { h.ready with }
    refine .bind hmapped ?_
    rintro mapped _ rfl
    cases mapped with
    | error error => exact .bind (keeps_say _ _ _ _) fun _ _ _ => .pure rfl
    | ok contents =>
        dsimp only
        split
        · exact .pure rfl
        · split
          · exact .pure rfl
          · exact Keeps.within (.fail rfl) (by rw [Renumbering.renameContext, hpath])

/-- **The same is found in a copy.** -/
theorem keeps_loadCopy (hn : κ.σ.Short n) (span : Option Span) :
    κ.Keeps κ.σ.Hosts Eq (Claim.loadCopy span (κ.σ.copyName n))
      (Claim.loadCopy span (κ.σ.copyName (κ.σ.number n))) := by
  have hopened : κ.Keeps κ.σ.Hosts Eq
      ((Act.ofOs (Platform.openFile (κ.σ.copyName n))).within (.opening (κ.σ.copyName n)))
      ((Act.ofOs (Platform.openFile (κ.σ.copyName (κ.σ.number n)))).within
        (.opening (κ.σ.copyName (κ.σ.number n)))) := by
    refine Keeps.within (fun t t' h => h.ofOs rfl rfl (.hidden rfl rfl) ?_) ?_
    · exact h.ready.openFile hn
    · rw [Renumbering.renameContext, κ.σ.rename_copyName]
  refine .bind hopened ?_
  rintro file _ rfl
  have hsize : κ.Keeps κ.σ.Hosts Eq (Act.ofOs (Platform.fileSize file))
      (Act.ofOs (Platform.fileSize file)) := fun t t' h => h.ofOs rfl rfl (.hidden rfl rfl)
        ⟨Renumbering.replies_of_eq (h.ready.fileSize_eq file), { h.ready with }⟩
  have hread : κ.Keeps κ.σ.Hosts Eq (do
      let size ← Act.ofOs (Platform.fileSize file)
      Claim.readSymbols span file size (κ.σ.copyName n)) (do
      let size ← Act.ofOs (Platform.fileSize file)
      Claim.readSymbols span file size (κ.σ.copyName (κ.σ.number n))) := by
    refine .bind hsize ?_
    rintro size _ rfl
    exact keeps_readSymbols span file size (κ.σ.rename_copyName n)
  refine .bind hread.attempt fun loaded loaded' hloaded => ?_
  have hclosed : κ.Keeps κ.σ.Hosts Eq (Act.change (Platform.closeFile file))
      (Act.change (Platform.closeFile file)) := fun t t' h =>
    ⟨.ok rfl, h.record (.hidden rfl rfl) (h.ready.closeFile file)⟩
  exact .bind hclosed fun _ _ _ => .ofResult hloaded

/-! ### The linker -/

/-- The linker gets the symbols of a file. -/
theorem keeps_addSymbols (handle : Handle) (symbols : List Symbol) :
    κ.Keeps P Eq (Platform.addSymbols handle symbols) (Platform.addSymbols handle symbols) :=
  fun _ _ h =>
    have halike := κ.linkersAlike.addSymbols _ _ handle symbols h.ready.linker
    h.ofFunction rfl rfl (.renamed (.addSymbols handle symbols) nofun) halike.1
      { h.ready with linker := halike.2 }

/-- The linker is asked for resolutions. -/
theorem keeps_getSymbols (handle : Handle) (symbols : List Symbol) :
    let ask : Act (Traced (Machine L)) ResolutionAnswer := fun w =>
      match Platform.getSymbols handle symbols w with
      | (answer, w) => (.ok answer, w)
    κ.Keeps P (fun answer answer' => answer'.loaded = κ.σ.renameResult answer.loaded ∧
      answer'.entered = answer.entered) ask ask :=
  fun _ _ h =>
    have halike := κ.linkersAlike.getSymbols _ _ handle symbols h.ready.linker
    ⟨.ok ⟨halike.1, halike.2.1⟩, h.record (.renamed (.getSymbols handle symbols) nofun)
      { h.ready with linker := halike.2.2 }⟩

/-- The linker gets a file. -/
theorem keeps_addInputFile (path : Path) :
    κ.Keeps P Eq (Act.ofFunction (Platform.addInputFile path))
      (Act.ofFunction (Platform.addInputFile (κ.σ.rename path))) :=
  fun _ _ h =>
    have halike := κ.linkersAlike.addInputFile _ _ path h.ready.linker
    h.ofFunction rfl rfl (.renamed (.addInputFile path) nofun) halike.1
      { h.ready with linker := halike.2 }

/-- The linker gets a library. -/
theorem keeps_addInputLibrary (name : String) :
    κ.Keeps P Eq (Act.ofFunction (Platform.addInputLibrary name))
      (Act.ofFunction (Platform.addInputLibrary name)) :=
  fun _ _ h =>
    have halike := κ.linkersAlike.addInputLibrary _ _ name h.ready.linker
    h.ofFunction rfl rfl (.renamed (.addInputLibrary name) nofun) halike.1
      { h.ready with linker := halike.2 }

/-- The linker hears that symbols are no longer needed. -/
theorem keeps_releaseSymbols :
    κ.Keeps P Eq (Act.change Platform.releaseSymbols) (Act.change Platform.releaseSymbols) :=
  fun _ _ h => ⟨.ok rfl, h.record (.renamed .releaseSymbols nofun)
    { h.ready with linker := κ.linkersAlike.releaseSymbols _ _ h.ready.linker }⟩

/-! ### Files that list copies -/

/-- **What lists the same files is written alike.** -/
theorem Worlds.write {file : Path} {text text' : Bytes} (h : κ.Worlds P t t')
    (creating writing : Context) (hP : ∀ d d' l, P d → d.ChangesFile d' l → P d')
    (hfile : κ.σ.LeadsAlike t.world.disk t'.world.disk file) (hname : κ.σ.rename file = file)
    (htext : κ.σ.Lists text text') (hcreating : κ.σ.renameContext creating = creating)
    (hwriting : κ.σ.renameContext writing = writing) :
    let write (text : Bytes) : Act (Traced (Machine L)) Unit := do
      (Act.ofOs (Platform.createFile file)).within creating
      (Act.ofOs (Platform.appendFile file text)).within writing
    Act.Matches κ.σ.renameFailure Eq (write text t).1 (write text' t').1 ∧
      κ.Worlds P (write text t).2 (write text' t').2 := by
  intro write
  let create : Act (Traced (Machine L)) Unit := Act.ofOs (Platform.createFile file)
  let append (text : Bytes) : Act (Traced (Machine L)) Unit :=
    Act.ofOs (Platform.appendFile file text)
  let made := t.record (.createFile file)
  have hmade : (create t).2 = made := by
    simp only [create, Act.ofOs]
    split <;> rename_i h <;> exact congrArg Prod.snd h.symm
  -- what has been made is empty, if it could be made
  have hcreated : Act.Matches κ.σ.renameFailure
        (fun _ _ => P made.world.disk ∧ κ.σ.Emptied file made.world.disk) (create t).1
        (create t').1 ∧ κ.Worlds P (create t).2 (create t').2 :=
    h.ofOs rfl rfl (.of_eq _ (by simp) (congrArg Effect.createFile hname))
      (h.ready.change (·.create file) (·.create file)
        (h.ready.disks.ends_create_listing hP h.ready.disk hfile) fun _ hd => hd.1)
  refine Act.matches_bind (R := fun u u' => κ.Worlds P u u' ∧ u = made)
    ⟨hcreated.1.whileDoing ?_, hcreated.2, hmade⟩ (fun _ _ h => h.1) ?_
  · intro failure
    rw [κ.σ.renameFailure_within, hcreating]
  · rintro _ _ u u' hemptied ⟨hu, rfl⟩
    have happended : Act.Matches κ.σ.renameFailure Eq (append text made).1 (append text' u').1 ∧
        κ.Worlds P (append text made).2 (append text' u').2 :=
      hu.ofOs rfl rfl (.listed file htext) (hu.ready.onDisk (·.append file text)
        (·.append file text')
        (hu.ready.disks.ends_append_listing hP hemptied.1 hemptied.2 htext))
    refine ⟨happended.1.whileDoing fun failure => ?_, happended.2⟩
    rw [κ.σ.renameFailure_within, hwriting]

/-- The arguments file goes, if it is there. -/
theorem keeps_answer_remove_arguments :
    κ.Keeps κ.σ.Hosts (Renumbering.Replies Eq)
      (Act.answer (Platform.removeFile (κ.σ.path.join Backend.argumentsName)))
      (Act.answer (Platform.removeFile (κ.σ.path.join Backend.argumentsName))) := by
  intro t t' h
  have hstep := h.ready.onDisk (·.remove _) (·.remove _)
    (h.ready.disks.ends_remove_arguments h.ready.disk)
  exact h.answer rfl rfl (.of_eq _ nofun (congrArg Effect.removeFile κ.σ.rename_arguments)) hstep.1
    hstep.2

/-- The arguments file goes. -/
theorem keeps_remove_arguments :
    let file := κ.σ.path.join Backend.argumentsName
    κ.Keeps κ.σ.Hosts Eq ((Act.ofOs (Platform.removeFile file)).within (.deleting file))
      ((Act.ofOs (Platform.removeFile file)).within (.deleting file)) := by
  refine Keeps.within (fun t t' h => ?_) (congrArg Context.deleting κ.σ.rename_arguments)
  have hstep := h.ready.onDisk (·.remove _) (·.remove _)
    (h.ready.disks.ends_remove_arguments h.ready.disk)
  exact h.ofOs rfl rfl (.of_eq _ nofun (congrArg Effect.removeFile κ.σ.rename_arguments)) hstep

/-! ### The backend and the directory -/

/-- How the backend is called is only reported. -/
theorem keeps_reportCommand (span : Option Span) (backend arguments : Path) :
    κ.Keeps P Eq (Backend.reportCommand span backend arguments)
      (Backend.reportCommand span backend arguments) := by
  have hread : κ.Keeps P (fun _ _ => True) (Act.answer (Platform.readFile arguments))
      (Act.answer (Platform.readFile arguments)) := fun t t' h =>
    h.answer rfl rfl (.hidden rfl rfl) trivial { h.ready with }
  refine .bind hread fun contents contents' _ => ?_
  cases contents <;> cases contents' <;> exact keeps_say _ _ _ _

/-- **The backend runs alike.** -/
theorem keeps_launch (backend arguments : Path) :
    κ.Keeps κ.σ.Hosts κ.σ.ProcessesAlike (Backend.launch backend arguments)
      (Backend.launch backend arguments) := by
  refine Keeps.within (fun t t' h => ?_) rfl
  obtain ⟨hreplies, hdisks, hhosts⟩ := h.ready.programs _ _ backend [64 :: arguments]
    h.ready.disks h.ready.disk
  refine h.ofOs rfl rfl (.renamed (.launch backend [64 :: arguments]) nofun) ⟨?_, ?_⟩
  · simp only [Platform.launch, h.ready.launcher]
    exact hreplies
  · have hlauncher := h.ready.launcher
    simp only [Effect.outcome, Platform.launch, Prod.map_snd, id, hlauncher]
    exact { h.ready with launcher := rfl, disks := hdisks, disk := hhosts }

/-- **The directory goes alike.** -/
theorem Worlds.removeTree (h : κ.Worlds κ.σ.Hosts t t') :
    let remove : Act (Traced (Machine L)) (Except OsError Unit) :=
      Act.answer (Platform.removeTree κ.σ.path)
    Act.Matches κ.σ.renameFailure (Renumbering.Replies Eq) (remove t).1 (remove t').1 ∧
      κ.Worlds (fun _ => True) (remove t).2 (remove t').2 := by
  have hready : κ.σ.Ready κ.linkers (fun _ => True) t.world t'.world :=
    h.ready.mono fun _ _ => trivial
  have hstep := hready.onDisk (·.removeTree _) (·.removeTree _)
    (h.ready.disks.ends_removeTree h.ready.disk)
  exact h.answer rfl rfl (.renamed (.removeTree κ.σ.path) nofun) hstep.1 hstep.2

end Comparison

end LtoBridge
