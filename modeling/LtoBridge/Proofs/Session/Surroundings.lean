/-
**Sessions in other surroundings.**

All that a session knows of its surroundings are the answers to its calls.  So it does the same in
any surroundings that answer alike and go on alike, as a map between their states says.  In this way
calls can be written down or not, calls that came before can be left out, and so can anything that
no answer depends on.

Main definitions:

* `LtoBridge.Act.Projects`: a step does the same on states of which less is kept;
* `LtoBridge.Platform.Respects`: every call does the same on both sides of a map;
* `LtoBridge.Traced.through`: a trace as it is seen through a map, behind earlier calls;
* `LtoBridge.Live.map`: a session in other surroundings.

Main results:

* `LtoBridge.Platform.Respects.through`: what calls respect they respect when they are written down;
* `LtoBridge.Session.projects_claimFile`, `LtoBridge.Session.projects_allSymbolsRead`,
  `LtoBridge.Session.projects_cleanup`: **a session does the same in other surroundings**;
* `LtoBridge.Session.exists_calls`: the calls of a session in surroundings as they are.
-/

import LtoBridge.Proofs.Act

set_option autoImplicit false

namespace LtoBridge

/-! ### Steps with less to keep -/

namespace Act

variable {σ τ α β : Type} {e : σ → τ}

/-- **A step does the same on states of which less is kept.** -/
def Projects (e : σ → τ) (act : Act σ α) (act' : Act τ α) : Prop :=
  ∀ s, act' (e s) = ((act s).1, e (act s).2)

namespace Projects

theorem pure (a : α) : Projects e (Pure.pure a : Act σ α) (Pure.pure a) := fun _ => rfl

theorem ofResult (x : Except Failure α) : Projects e (Act.ofResult x) (Act.ofResult x) :=
  fun _ => rfl

theorem fail (cause : Cause) : Projects e (Act.fail cause : Act σ α) (Act.fail cause) :=
  fun _ => rfl

theorem look {f : σ → α} {f' : τ → α} (hf : ∀ s, f' (e s) = f s) :
    Projects e (Act.look f) (Act.look f') := by
  intro s
  simp only [Act.look, hf]

theorem change {f : σ → σ} {f' : τ → τ} (hf : ∀ s, f' (e s) = e (f s)) :
    Projects e (Act.change f) (Act.change f') := by
  intro s
  simp only [Act.change, hf]

theorem ofOs {f : σ → Except OsError α × σ} {f' : τ → Except OsError α × τ}
    (hf : ∀ s, f' (e s) = ((f s).1, e (f s).2)) : Projects e (Act.ofOs f) (Act.ofOs f') := by
  intro s
  simp only [Act.ofOs, hf]
  rcases f s with ⟨_ | _, _⟩ <;> rfl

theorem answer {f : σ → Except OsError α × σ} {f' : τ → Except OsError α × τ}
    (hf : ∀ s, f' (e s) = ((f s).1, e (f s).2)) :
    Projects e (Act.answer f) (Act.answer f') := by
  intro s
  simp only [Act.answer, hf]

/-- **One step after the other.** -/
theorem bind {x : Act σ α} {x' : Act τ α} {f : α → Act σ β} {f' : α → Act τ β}
    (hx : Projects e x x') (hf : ∀ a, Projects e (f a) (f' a)) :
    Projects e (x >>= f) (x' >>= f') := by
  intro s
  rw [bind_apply, bind_apply, hx s]
  rcases x s with ⟨_ | a, s'⟩
  · rfl
  · exact hf a s'

variable {act : Act σ α} {act' : Act τ α}

theorem attempt (h : Projects e act act') : Projects e act.attempt act'.attempt := by
  intro s
  simp only [Act.attempt, h s]
  rfl

theorem within (context : Context) (h : Projects e act act') :
    Projects e (act.within context) (act'.within context) := by
  intro s
  simp only [Act.within, h s]
  rfl

theorem forEach {f : β → Act σ Unit} {f' : β → Act τ Unit} (hf : ∀ b, Projects e (f b) (f' b))
    (bs : List β) : Projects e (Act.forEach f bs) (Act.forEach f' bs) := by
  induction bs with
  | nil => exact .pure ()
  | cons b bs ih => exact .bind (hf b) fun _ => ih

end Projects

end Act

/-! ### Calls that do the same -/

/-- **Every call does the same on both sides of a map**: it gets the same answer, and the map still
leads from the one state to the other afterwards. -/
structure Platform.Respects {V W : Type} [Platform V] [Platform W] (e : V → W) : Prop where
  currentDirectory : ∀ v, Platform.currentDirectory (e v) =
    ((Platform.currentDirectory v).1, e (Platform.currentDirectory v).2)
  makeTemporaryDirectory : ∀ parent stem v, Platform.makeTemporaryDirectory parent stem (e v) =
    ((Platform.makeTemporaryDirectory parent stem v).1,
      e (Platform.makeTemporaryDirectory parent stem v).2)
  removeTree : ∀ path v, Platform.removeTree path (e v) =
    ((Platform.removeTree path v).1, e (Platform.removeTree path v).2)
  createFile : ∀ path v, Platform.createFile path (e v) =
    ((Platform.createFile path v).1, e (Platform.createFile path v).2)
  appendFile : ∀ path data v, Platform.appendFile path data (e v) =
    ((Platform.appendFile path data v).1, e (Platform.appendFile path data v).2)
  removeFile : ∀ path v, Platform.removeFile path (e v) =
    ((Platform.removeFile path v).1, e (Platform.removeFile path v).2)
  readFile : ∀ path v, Platform.readFile path (e v) =
    ((Platform.readFile path v).1, e (Platform.readFile path v).2)
  openFile : ∀ path v, Platform.openFile path (e v) =
    ((Platform.openFile path v).1, e (Platform.openFile path v).2)
  closeFile : ∀ file v, Platform.closeFile file (e v) = e (Platform.closeFile file v)
  fileSize : ∀ file v, Platform.fileSize file (e v) =
    ((Platform.fileSize file v).1, e (Platform.fileSize file v).2)
  readAt : ∀ file position count v, Platform.readAt file position count (e v) =
    ((Platform.readAt file position count v).1, e (Platform.readAt file position count v).2)
  mapFile : ∀ file count v, Platform.mapFile file count (e v) =
    ((Platform.mapFile file count v).1, e (Platform.mapFile file count v).2)
  launch : ∀ program arguments v, Platform.launch program arguments (e v) =
    ((Platform.launch program arguments v).1, e (Platform.launch program arguments v).2)
  addSymbols : ∀ handle symbols v, Platform.addSymbols handle symbols (e v) =
    ((Platform.addSymbols handle symbols v).1, e (Platform.addSymbols handle symbols v).2)
  getSymbols : ∀ handle symbols v, Platform.getSymbols handle symbols (e v) =
    ((Platform.getSymbols handle symbols v).1, e (Platform.getSymbols handle symbols v).2)
  addInputFile : ∀ path v, Platform.addInputFile path (e v) =
    ((Platform.addInputFile path v).1, e (Platform.addInputFile path v).2)
  addInputLibrary : ∀ name v, Platform.addInputLibrary name (e v) =
    ((Platform.addInputLibrary name v).1, e (Platform.addInputLibrary name v).2)
  releaseSymbols : ∀ v, Platform.releaseSymbols (e v) = e (Platform.releaseSymbols v)
  report : ∀ event v, Platform.report event (e v) = e (Platform.report event v)

/-- Nothing depends on the calls that have been written down. -/
theorem Traced.respects_world {W : Type} [Platform W] :
    Platform.Respects (Traced.world (W := W)) where
  currentDirectory _ := rfl
  makeTemporaryDirectory _ _ _ := rfl
  removeTree _ _ := rfl
  createFile _ _ := rfl
  appendFile _ _ _ := rfl
  removeFile _ _ := rfl
  readFile _ _ := rfl
  openFile _ _ := rfl
  closeFile _ _ := rfl
  fileSize _ _ := rfl
  readAt _ _ _ _ := rfl
  mapFile _ _ _ := rfl
  launch _ _ _ := rfl
  addSymbols _ _ _ := rfl
  getSymbols _ _ _ := rfl
  addInputFile _ _ := rfl
  addInputLibrary _ _ := rfl
  releaseSymbols _ := rfl
  report _ _ := rfl

section

variable {V W : Type}

/-- A call as it is seen through a map. -/
def Call.map (e : V → W) (c : Call V) : Call W := ⟨c.effect, e c.before⟩

/-- **A trace as it is seen through a map**, behind earlier calls. -/
def Traced.through (e : V → W) (earlier : List (Call W)) (t : Traced V) : Traced W :=
  ⟨e t.world, earlier ++ t.calls.map (Call.map e)⟩

variable [Platform V] [Platform W] {e : V → W}

namespace Platform.Respects

/-- A call succeeds on both sides, or on none. -/
theorem outcome (h : Platform.Respects e) (effect : Effect) (v : V) :
    effect.outcome (e v) = ((effect.outcome v).1, e (effect.outcome v).2) := by
  cases effect with
  | currentDirectory => simp only [Effect.outcome, h.currentDirectory, Prod.map, id]
  | makeTemporaryDirectory parent stem =>
      simp only [Effect.outcome, h.makeTemporaryDirectory, Prod.map, id]
  | removeTree path => simp only [Effect.outcome, h.removeTree, Prod.map, id]
  | createFile path => simp only [Effect.outcome, h.createFile, Prod.map, id]
  | appendFile path data => simp only [Effect.outcome, h.appendFile, Prod.map, id]
  | removeFile path => simp only [Effect.outcome, h.removeFile, Prod.map, id]
  | readFile path => simp only [Effect.outcome, h.readFile, Prod.map, id]
  | openFile path => simp only [Effect.outcome, h.openFile, Prod.map, id]
  | closeFile file => simp only [Effect.outcome, h.closeFile]
  | fileSize file => simp only [Effect.outcome, h.fileSize, Prod.map, id]
  | readAt file position count => simp only [Effect.outcome, h.readAt, Prod.map, id]
  | mapFile file count => simp only [Effect.outcome, h.mapFile, Prod.map, id]
  | launch program arguments => simp only [Effect.outcome, h.launch, Prod.map, id]
  | addSymbols handle symbols => simp only [Effect.outcome, h.addSymbols, Prod.map, id]
  | getSymbols handle symbols => simp only [Effect.outcome, h.getSymbols, Prod.map, id]
  | addInputFile path => simp only [Effect.outcome, h.addInputFile, Prod.map, id]
  | addInputLibrary name => simp only [Effect.outcome, h.addInputLibrary, Prod.map, id]
  | releaseSymbols => simp only [Effect.outcome, h.releaseSymbols]
  | report event => simp only [Effect.outcome, h.report]

variable {earlier : List (Call W)}

theorem record_through (h : Platform.Respects e) (effect : Effect) (t : Traced V) :
    (Traced.through e earlier t).record effect = Traced.through e earlier (t.record effect) := by
  simp only [Traced.record, Traced.through, h.outcome, List.map_append, List.map_cons, List.map_nil,
    List.append_assoc, Call.map]

/-- A call is answered alike and written down on both sides. -/
theorem answered_through (h : Platform.Respects e) (effect : Effect) {α : Type} {f : V → α × V}
    {f' : W → α × W} (hf : ∀ v, f' (e v) = ((f v).1, e (f v).2)) (t : Traced V) :
    ((f' (e t.world)).1, (Traced.through e earlier t).record effect) =
      ((f t.world).1, Traced.through e earlier (t.record effect)) := by
  rw [hf, h.record_through]

/-- **What calls respect they respect when they are written down.** -/
theorem through (h : Platform.Respects e) : Platform.Respects (Traced.through e earlier) where
  currentDirectory := h.answered_through .currentDirectory h.currentDirectory
  makeTemporaryDirectory parent stem :=
    h.answered_through (.makeTemporaryDirectory parent stem) (h.makeTemporaryDirectory parent stem)
  removeTree path := h.answered_through (.removeTree path) (h.removeTree path)
  createFile path := h.answered_through (.createFile path) (h.createFile path)
  appendFile path data := h.answered_through (.appendFile path data) (h.appendFile path data)
  removeFile path := h.answered_through (.removeFile path) (h.removeFile path)
  readFile path := h.answered_through (.readFile path) (h.readFile path)
  openFile path := h.answered_through (.openFile path) (h.openFile path)
  closeFile file := h.record_through (.closeFile file)
  fileSize file := h.answered_through (.fileSize file) (h.fileSize file)
  readAt file position count :=
    h.answered_through (.readAt file position count) (h.readAt file position count)
  mapFile file count := h.answered_through (.mapFile file count) (h.mapFile file count)
  launch program arguments :=
    h.answered_through (.launch program arguments) (h.launch program arguments)
  addSymbols handle symbols :=
    h.answered_through (.addSymbols handle symbols) (h.addSymbols handle symbols)
  getSymbols handle symbols :=
    h.answered_through (.getSymbols handle symbols) (h.getSymbols handle symbols)
  addInputFile path := h.answered_through (.addInputFile path) (h.addInputFile path)
  addInputLibrary name := h.answered_through (.addInputLibrary name) (h.addInputLibrary name)
  releaseSymbols := h.record_through .releaseSymbols
  report event := h.record_through (.report event)

end Platform.Respects

end

/-- **A session in other surroundings.** -/
def Live.map {V W : Type} (e : V → W) (s : Live V) : Live W := ⟨s.session, e s.world⟩

open Act

section

variable {V W α : Type} [Platform V] [Platform W] {e : V → W} (h : Platform.Respects e)

include h

theorem projects_say (span : Option Span) (notice : Notice) :
    Projects e (say span notice) (say span notice) := .change (h.report _)

namespace Extraction

theorem projects_copyFrom (source : Descriptor) (destination : Path) (length : Nat)
    (position remaining : Nat) :
    Projects e (copyFrom source destination length position remaining)
      (copyFrom source destination length position remaining) := by
  induction remaining using Nat.strongRecOn generalizing position with
  | ind remaining ih =>
      rw [copyFrom, copyFrom]
      split
      · exact .pure ()
      · refine .bind (.within _ (.ofOs (h.readAt _ _ _))) fun piece => ?_
        split
        · exact .fail _
        · rename_i hremaining hpiece
          exact .bind (.within _ (.ofOs (h.appendFile _ _))) fun _ => ih _ (by omega) _

theorem projects_copyRange (source : Descriptor) (offset length : Nat) (destination : Path) :
    Projects e (copyRange source offset length destination)
      (copyRange source offset length destination) :=
  .bind (.within _ (.ofOs (h.createFile _))) fun _ => projects_copyFrom h _ _ _ _ _

end Extraction

namespace Claim

theorem projects_readSymbols (span : Option Span) (file : Descriptor) (size : Nat) (path : Path) :
    Projects e (readSymbols span file size path) (readSymbols span file size path) := by
  unfold readSymbols
  split
  · exact .pure none
  · refine .bind (.answer (h.mapFile _ _)) fun mapped => ?_
    cases mapped with
    | error error => exact .bind (projects_say h _ _) fun _ => .pure none
    | ok contents =>
        dsimp only
        split
        · exact .pure none
        · split
          · exact .pure _
          · exact .within _ (.fail _)

theorem projects_loadCopy (span : Option Span) (path : Path) :
    Projects e (loadCopy span path) (loadCopy span path) := by
  refine .bind (.within _ (.ofOs (h.openFile _))) fun file => ?_
  refine .bind (.attempt (.bind (.ofOs (h.fileSize _)) fun size => ?_)) fun loaded => ?_
  · exact projects_readSymbols h span file size path
  · exact .bind (.change (h.closeFile _)) fun _ => .ofResult loaded

end Claim

namespace Session

/-! ### Steps of a session -/

omit [Platform V] [Platform W] h in
theorem projects_outside {act : Act V α} {act' : Act W α} (hact : Projects e act act') :
    Projects (Live.map e) (outside act) (outside act') := by
  intro s
  simp only [outside, Live.map, hact s.world]
  rfl

omit [Platform V] [Platform W] h in
theorem projects_view (f : Session → α) : Projects (Live.map e) (view f) (view f) :=
  .look fun _ => rfl

omit [Platform V] [Platform W] h in
theorem projects_update (f : Session → Session) :
    Projects (Live.map e) (update f) (update f) :=
  .change fun _ => rfl

theorem projects_tell (span : Span) (notice : Notice) :
    Projects (Live.map e) (tell span notice) (tell span notice) :=
  projects_outside (projects_say h _ _)

omit [Platform V] [Platform W] h in
theorem projects_directory : Projects (Live.map e) directory directory := by
  refine .bind (projects_view _) fun path => ?_
  cases path with
  | none => exact .fail _
  | some path => exact .pure path

theorem projects_delete (path : Path) : Projects (Live.map e) (delete path) (delete path) :=
  projects_outside (.within _ (.ofOs (h.removeFile _)))

/-! ### Offered files -/

theorem projects_discard (input : InputFile) (path : Path) :
    Projects (Live.map e) (discard input path) (discard input path) := by
  unfold discard
  split
  · exact projects_delete h path
  · exact .pure ()

theorem projects_extract (input : InputFile) :
    Projects (Live.map e) (extract input) (extract input) := by
  refine .bind projects_directory fun directory => .bind (projects_view _) fun number => ?_
  refine .bind (projects_update _) fun _ => .bind (projects_outside ?_) fun _ => .pure _
  exact .within _ (Extraction.projects_copyRange h _ _ _ _)

theorem projects_load (span : Span) (input : InputFile) :
    Projects (Live.map e) (load span input) (load span input) := by
  unfold load
  split
  · refine .bind (projects_extract h input) fun path => .bind (.attempt ?_) fun _ => .pure _
    exact projects_outside (Claim.projects_loadCopy h _ path)
  · refine .bind (.attempt ?_) fun _ => .pure _
    exact projects_outside (Claim.projects_readSymbols h _ _ _ _)

theorem projects_claim (span : Span) (input : InputFile) (path : Path) (table : SymbolTable) :
    Projects (Live.map e) (claim span input path table) (claim span input path table) := by
  refine .bind (.forEach (fun symbol => projects_tell h span _) _) fun _ => ?_
  refine .bind (.attempt (projects_outside (h.addSymbols _ _))) fun added => ?_
  cases added with
  | error failure =>
      exact .bind (projects_discard h input path) fun _ => .within _ (.ofResult _)
  | ok _ => exact .bind (projects_tell h span _) fun _ => projects_update _

/-- **Files are claimed in the same way.** -/
theorem projects_claimFile (input : InputFile) :
    Projects (Live.map e) (claimFile input) (claimFile input) := by
  refine .bind projects_directory fun _ => .bind (projects_load h _ input) ?_
  rintro ⟨path, loaded⟩
  match loaded with
  | .ok (some table) => exact .bind (projects_claim h _ input path table) fun _ => .pure true
  | .ok none =>
      exact .bind (projects_discard h input path) fun _ => .bind (projects_tell h _ _) fun _ =>
        .pure false
  | .error failure => exact .bind (projects_discard h input path) fun _ => .ofResult _

/-! ### All symbols read -/

theorem projects_ask (span : Span) (index : Nat) (file : ClaimedFile) :
    Projects (Live.map e) (ask span index file) (ask span index file) := by
  unfold ask
  split
  · exact .pure ()
  · refine .bind (projects_outside fun v => ?_) fun answer => ?_
    · dsimp only
      rw [h.getSymbols]
    · refine .bind (projects_update _) fun _ => .bind (.within _ (.ofResult _)) fun loaded => ?_
      split
      · exact .pure ()
      · exact projects_tell h _ _

theorem projects_resolve (span : Span) (index : Nat) (files : List ClaimedFile) :
    Projects (Live.map e) (resolve span index files) (resolve span index files) := by
  induction files generalizing index with
  | nil => exact .pure ()
  | cons file files ih => exact .bind (projects_ask h span index file) fun _ => ih (index + 1)

theorem projects_writeResolutions (span : Span) (path : Path) :
    Projects (Live.map e) (writeResolutions span path) (writeResolutions span path) := by
  refine .bind (projects_view _) fun registry => .bind (projects_outside ?_) fun _ =>
    projects_tell h _ _
  exact .bind (.within _ (.ofOs (h.createFile _))) fun _ => .within _ (.ofOs (h.appendFile _ _))

theorem projects_releaseSymbols : Projects (Live.map e) releaseSymbols releaseSymbols :=
  .bind (projects_update _) fun _ => projects_outside (.change h.releaseSymbols)

theorem projects_takeOutput (path : Path) :
    Projects (Live.map e) (takeOutput path) (takeOutput path) :=
  .bind (projects_outside (h.addInputFile path)) fun _ => projects_update _

theorem projects_prepareBackend (span : Span) (backend arguments : Path) (words : List Bytes) :
    Projects (Live.map e) (prepareBackend span backend arguments words)
      (prepareBackend span backend arguments words) := by
  refine .bind (projects_outside ?_) fun _ => .bind (projects_view _) fun verbose => ?_
  · exact .bind (.within _ (.ofOs (h.createFile _))) fun _ => .within _ (.ofOs (h.appendFile _ _))
  · split
    · refine projects_outside (.bind (.answer (h.readFile _)) fun contents => ?_)
      cases contents with
      | error error => exact projects_say h _ _
      | ok contents => exact projects_say h _ _
    · exact .pure ()

omit [Platform V] [Platform W] h in
theorem projects_passOn {onOutput : Path → Act (Live V) Unit} {onOutput' : Path → Act (Live W) Unit}
    (hpass : ∀ path, Projects (Live.map e) (onOutput path) (onOutput' path)) (lines : List Bytes) :
    Projects (Live.map e) (Backend.passOn onOutput lines) (Backend.passOn onOutput' lines) := by
  induction lines with
  | nil => exact .pure ()
  | cons line lines ih =>
      unfold Backend.passOn
      split
      · exact .fail _
      · exact .bind (hpass line) fun _ => ih

theorem projects_collect (backend : Path) (process : Process) :
    Projects (Live.map e) (Backend.collect backend process takeOutput)
      (Backend.collect backend process takeOutput) := by
  refine .bind (projects_passOn (projects_takeOutput h) _) fun _ => ?_
  split
  · exact .within _ (.fail _)
  · split
    · exact .fail _
    · split
      · exact .pure ()
      · exact .fail _

theorem projects_runBackend (span : Span) :
    Projects (Live.map e) (runBackend span) (runBackend span) := by
  refine .bind projects_directory fun directory => .bind (projects_view _) fun options => ?_
  dsimp only
  split
  · exact .fail _
  · refine .bind (projects_view _) fun registry => ?_
    refine .bind (projects_prepareBackend h _ _ _ _) fun _ => ?_
    refine .bind (projects_outside (.within _ (.ofOs (h.launch _ _)))) fun process => ?_
    exact .bind (projects_collect h _ process) fun _ => projects_delete h _

theorem projects_passThrough (item : PassThrough) :
    Projects e (passThrough item) (passThrough item) := by
  cases item with
  | library name => exact h.addInputLibrary name
  | file path => exact h.addInputFile path

theorem projects_forwardPassThrough :
    Projects (Live.map e) forwardPassThrough forwardPassThrough :=
  .bind (projects_view _) fun items => .bind (projects_update _) fun _ =>
    projects_outside (.forEach (projects_passThrough h) items)

theorem projects_settleResolutions (span : Span) :
    Projects (Live.map e) (settleResolutions span) (settleResolutions span) := by
  refine .bind (projects_view id) fun session => ?_
  split
  · exact .pure ()
  · exact .bind (projects_resolve h _ _ _) fun _ => projects_writeResolutions h _ _

theorem projects_settleFiles (span : Span) :
    Projects (Live.map e) (settleFiles span) (settleFiles span) := by
  refine .bind (projects_view id) fun session => ?_
  split
  · exact .forEach (fun path => projects_outside (h.addInputFile path)) _
  · exact .bind (projects_releaseSymbols h) fun _ => .bind (projects_runBackend h span) fun _ =>
      projects_forwardPassThrough h

/-- **The files are settled in the same way.** -/
theorem projects_allSymbolsRead : Projects (Live.map e) allSymbolsRead allSymbolsRead := by
  refine .bind (projects_view _) fun files => ?_
  split
  · exact projects_tell h _ _
  · exact .bind (projects_settleResolutions h _) fun _ => projects_settleFiles h _

/-! ### The end -/

theorem projects_deleteArguments (directory : Path) :
    Projects (Live.map e) (deleteArguments directory) (deleteArguments directory) := by
  refine .bind (projects_outside (.answer (h.removeFile _))) fun removed => ?_
  split
  · exact .pure ()
  · exact .pure ()
  · exact .within _ (.fail _)

theorem projects_abandon (directory : Path) :
    Projects (Live.map e) (abandon directory) (abandon directory) :=
  .bind (projects_outside (.answer (h.removeTree _))) fun _ => .pure _

theorem projects_clear (directory : Path) :
    Projects (Live.map e) (clear directory) (clear directory) := by
  refine .bind (projects_view _) fun registry => .bind (.forEach (projects_delete h) _) fun _ => ?_
  refine .bind (projects_releaseSymbols h) fun _ => .bind (projects_update _) fun _ => ?_
  refine .bind (projects_view _) fun verbose => ?_
  split
  · exact .pure ()
  · exact projects_deleteArguments h directory

/-- **The same is deleted.** -/
theorem projects_cleanup : Projects (Live.map e) cleanup cleanup := by
  refine .bind (projects_view _) fun directory => ?_
  cases directory with
  | none => exact .pure ()
  | some directory =>
      refine .bind (projects_update _) fun _ => .bind (.attempt (projects_clear h directory)) ?_
      rintro (failure | _)
      · exact .bind (projects_abandon h directory) fun _ => .ofResult _
      · refine .bind (projects_view _) fun verbose => ?_
        split
        · exact projects_tell h _ _
        · refine .bind (projects_outside (.answer (h.removeTree _))) fun removed => ?_
          split
          · exact .pure ()
          · exact .within _ (.fail _)

end Session

end

/-- **The calls of a step in surroundings as they are**, and what is known of it from a run in which
they are written down. -/
theorem Session.exists_calls {W α : Type} [Platform W] {act : Act (Live (Traced W)) α}
    {act' : Act (Live W) α} (h : Projects (Live.map Traced.world) act act') {session : Session}
    {w : W} {Q : Except Failure α → List (Call W) → Live (Traced W) → Prop}
    (hyields : act.Yields ⟨session, { world := w }⟩ Q) :
    ∃ (r : Except Failure α) (session' : Session) (t : Traced W) (cs : List (Call W)),
      act' ⟨session, w⟩ = (r, ⟨session', t.world⟩) ∧ Traced.Extends { world := w } cs t ∧
        Q r cs ⟨session', t⟩ := by
  obtain ⟨cs, hext, hpost⟩ := hyields
  exact ⟨_, _, _, cs, h ⟨session, { world := w }⟩, hext, hpost⟩

end LtoBridge
