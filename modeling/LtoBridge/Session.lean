/-
**A session: one link, from the loading of the bridge to the cleanup.**

The linker offers files, and the session claims those that hold intermediate code.  When all files
have been read, the session writes down what the linker decided about their symbols and runs the
backend on them, or hands them back.  The cleanup deletes what the session made.

Main definitions:

* `LtoBridge.Session`: the state of a session;
* `LtoBridge.Live`: a session and its surroundings;
* `LtoBridge.Session.start`, `LtoBridge.Session.startIn`;
* `LtoBridge.Session.claimFile`, `LtoBridge.Session.allSymbolsRead`, `LtoBridge.Session.cleanup`;
* `LtoBridge.Session.drop`: the end of a session without a cleanup.
-/

import LtoBridge.Backend
import LtoBridge.Claim
import LtoBridge.ResolutionFile

set_option autoImplicit false

namespace LtoBridge

/-- The state of a session. -/
structure Session where
  options : Options
  /-- The directory for copies and the arguments file, until the session is over. -/
  temporaryDirectory : Option Path
  registry : Registry := {}
  /-- The number of archive members that have been copied, or whose copying was begun.  It has a
  bound; what is said about states that a session comes to is about those before that bound. -/
  copied : Nat := 0
  /-- The objects that the backend produced and the linker accepted. -/
  outputs : List Path := []
  deriving DecidableEq

/-- The numbers of copies are below this bound. -/
def Session.copyLimit : Nat := 0x100000000

/-- A session and its surroundings. -/
structure Live (W : Type) where
  session : Session
  world : W

namespace Session

variable {W : Type} [Platform W]

/-! ### Steps of a session -/

/-- A step of the surroundings, as a step of the session. -/
def outside {α : Type} (act : Act W α) : Act (Live W) α := fun s =>
  match act s.world with
  | (x, world) => (x, { s with world })

/-- Change the state of the session. -/
def update (f : Session → Session) : Act (Live W) Unit :=
  Act.change fun s => { s with session := f s.session }

/-- Look at the state of the session. -/
def view {α : Type} (f : Session → α) : Act (Live W) α :=
  Act.look fun s => f s.session

/-- Report a notice within a span. -/
def tell (span : Span) (notice : Notice) : Act (Live W) Unit := outside (say (some span) notice)

/-- The temporary directory of a session that is not over. -/
def directory : Act (Live W) Path := do
  match ← view (·.temporaryDirectory) with
  | some path => pure path
  | none => Act.fail .sessionOver

/-- Delete a file. -/
def delete (path : Path) : Act (Live W) Unit :=
  outside ((Act.ofOs (Platform.removeFile path)).within (.deleting path))

/-! ### Beginning -/

/-- The name that a new temporary directory begins with. -/
def directoryStem : Path := Bytes.ofString "tmp_objects"

/-- **Begin a session** whose temporary directory is in the given one. -/
def startIn (options : Options) (parent : Path) : Act W Session := do
  let path ← (Act.ofOsAt (Platform.makeTemporaryDirectory parent directoryStem)).within
    (.temporaryDirectory parent)
  say none (.usingTemporaryDirectory path)
  pure { options, temporaryDirectory := some path }

/-- **Begin a session** whose temporary directory is in the current one. -/
def start (options : Options) : Act W Session := do
  let current ← (Act.ofOs Platform.currentDirectory).within .currentDirectory
  startIn options current

/-! ### Offered files -/

/-- Delete the copy of an archive member that is not going to be claimed. -/
def discard (input : InputFile) (path : Path) : Act (Live W) Unit :=
  if input.isMember then delete path else pure ()

/-- Copy an archive member into the temporary directory, under a name of its own. -/
def extract (input : InputFile) : Act (Live W) Path := do
  let directory ← directory
  let number ← view (·.copied)
  let path := Claim.memberPath directory number
  update fun s => { s with copied := number + 1 }
  outside ((Extraction.copyRange input.file input.offset input.size path).within
    (.extracting input.offset input.path))
  pure path

/-- Where an offered file is from now on, and its symbol table. -/
def load (span : Span) (input : InputFile) :
    Act (Live W) (Path × Except Failure (Option SymbolTable)) := do
  if input.isMember then
    let path ← extract input
    let loaded ← (outside (Claim.loadCopy (some span) path)).attempt
    pure (path, loaded)
  else
    let loaded ←
      (outside (Claim.readSymbols (some span) input.file input.size input.path)).attempt
    pure (input.path, loaded)

/-- Announce the symbols of a file and enter it in the registry.  A file whose symbols the linker
rejects is not claimed. -/
def claim (span : Span) (input : InputFile) (path : Path) (table : SymbolTable) :
    Act (Live W) Unit := do
  Act.forEach (fun symbol => tell span (.offeredSymbol symbol)) table.symbols
  match ← (outside (Platform.addSymbols input.handle table.symbols)).attempt with
  | .error failure => do
      discard input path
      (Act.ofResult (.error failure)).within (.addingSymbols input.path)
  | .ok () => do
      tell span (.claimed table.size table.definitionCount)
      let file : ClaimedFile :=
        { path, handle := input.handle, temporary := input.isMember, symbols := some table }
      update fun s => { s with registry := s.registry.push file }

/-- **Decide whether to claim a file.**  An object with intermediate code is claimed; anything else
leaves no copy behind. -/
def claimFile (input : InputFile) : Act (Live W) Bool := do
  let span := Span.claimFile input.path
  let _ ← directory
  let (path, loaded) ← load span input
  match loaded with
  | .ok (some table) => do
      claim span input path table
      pure true
  | .ok none => do
      discard input path
      tell span .notAnObject
      pure false
  | .error failure => do
      discard input path
      Act.ofResult (.error failure)

/-! ### All symbols read -/

/-- Ask for the resolutions of the claimed file at position `index`, if it still has its symbols. -/
def ask (span : Span) (index : Nat) (file : ClaimedFile) : Act (Live W) Unit :=
  match file.symbols with
  | none => pure ()
  | some table => do
      let answer ← outside fun w =>
        match Platform.getSymbols file.handle table.symbols w with
        | (answer, w) => (.ok answer, w)
      update fun s => { s with registry := s.registry.assign index answer.entered }
      let loaded ← (Act.ofResult answer.loaded).within (.resolving file.path)
      if loaded then pure () else tell span (.notLoaded file.path)

/-- Ask for the resolutions of the claimed files from position `index` on. -/
def resolve (span : Span) (index : Nat) : List ClaimedFile → Act (Live W) Unit
  | [] => pure ()
  | file :: rest => do
      ask span index file
      resolve span (index + 1) rest

/-- Write the resolution file. -/
def writeResolutions (span : Span) (path : Path) : Act (Live W) Unit := do
  let registry ← view (·.registry)
  outside do
    (Act.ofOs (Platform.createFile path)).within (.creatingResolutions path)
    (Act.ofOs (Platform.appendFile path (ResolutionFile.render registry))).within
      (.writingResolutions path)
  tell span (.wroteResolutions path)

/-- Release the symbols of the claimed files, here and with the linker. -/
def releaseSymbols : Act (Live W) Unit := do
  update fun s => { s with registry := s.registry.release }
  outside (Act.change Platform.releaseSymbols)

/-- Hand an object of the backend to the linker. -/
def takeOutput (path : Path) : Act (Live W) Unit := do
  outside (Act.ofFunction (Platform.addInputFile path))
  update fun s => { s with outputs := s.outputs ++ [path] }

/-- Write the arguments of the backend, and report them in a verbose session. -/
def prepareBackend (span : Span) (backend arguments : Path) (words : List Bytes) :
    Act (Live W) Unit := do
  outside (Backend.writeArguments arguments words)
  if ← view (·.options.verbose) then outside (Backend.reportCommand (some span) backend arguments)
  else pure ()

/-- Run the backend on the claimed files. -/
def runBackend (span : Span) : Act (Live W) Unit := do
  let directory ← directory
  let arguments := directory.join Backend.argumentsName
  let options ← view (·.options)
  match options.backend? with
  | none => Act.fail .noBackend
  | some name => do
      let backend := Bytes.ofString name
      let registry ← view (·.registry)
      prepareBackend span backend arguments
        (options.backendFlags.map Bytes.ofString ++ registry.paths)
      let process ← outside (Backend.launch backend arguments)
      Backend.collect backend process takeOutput
      delete arguments

/-- Hand an item that the options name to the linker. -/
def passThrough : PassThrough → Act W Unit
  | .library name => Act.ofFunction (Platform.addInputLibrary name)
  | .file path => Act.ofFunction (Platform.addInputFile path)

/-- Hand the items that the options name to the linker; none of them is handed over again. -/
def forwardPassThrough : Act (Live W) Unit := do
  let items ← view (·.options.passThrough)
  update fun s => { s with options := { s.options with passThrough := [] } }
  outside (Act.forEach passThrough items)

/-- Ask for the resolutions and write them, if there is a file for them. -/
def settleResolutions (span : Span) : Act (Live W) Unit := do
  let session ← view id
  match session.options.resolutionFile with
  | none => pure ()
  | some path => do
      resolve span 0 session.registry.files
      writeResolutions span path

/-- Hand the claimed files back to the linker, or run the backend on them and hand over what is to
be passed through after that. -/
def settleFiles (span : Span) : Act (Live W) Unit := do
  let session ← view id
  if session.options.bypassBackend then
    Act.forEach (fun path => outside (Act.ofFunction (Platform.addInputFile path)))
      session.registry.paths
  else do
    releaseSymbols
    runBackend span
    forwardPassThrough

/-- **All input files have been read.**  The resolutions are written if there is a file for them.
Then the claimed files go back to the linker, or the backend runs on them and the linker gets what
it produced, followed by what is to be passed through. -/
def allSymbolsRead : Act (Live W) Unit := do
  let span := Span.allSymbolsRead
  let files ← view (·.registry.files)
  if files = [] then tell span .nothingClaimed
  else do
    settleResolutions span
    settleFiles span

/-! ### The end -/

/-- The state after a cleanup. -/
def reset (s : Session) : Session :=
  { s with
    options := { s.options with passThrough := [] }
    registry := {}
    copied := 0
    outputs := [] }

/-- Remove the arguments file, if it is there. -/
def deleteArguments (directory : Path) : Act (Live W) Unit := do
  let arguments := directory.join Backend.argumentsName
  match ← outside (Act.answer (Platform.removeFile arguments)) with
  | .ok () | .error .noEntry => pure ()
  | .error error => (Act.fail (.os error)).within (.deleting arguments)

/-- Remove a directory and everything in it, as far as that is possible. -/
def abandon (directory : Path) : Act (Live W) Unit := do
  let _ ← outside (Act.answer (Platform.removeTree directory))

/-- Delete what the session made, up to the temporary directory itself, and reset the session. -/
def clear (directory : Path) : Act (Live W) Unit := do
  let registry ← view (·.registry)
  Act.forEach delete ((registry.files.filter (·.temporary)).map (·.path))
  releaseSymbols
  update reset
  if (← view (·.options.verbose)) then pure () else deleteArguments directory

/-- **Delete everything that the session made and reset it.**  A session that is over stays as it
is.  With `-debug` the temporary directory is kept.  If something cannot be deleted, the temporary
directory goes with all that is left in it. -/
def cleanup : Act (Live W) Unit := do
  match ← view (·.temporaryDirectory) with
  | none => pure ()
  | some directory => do
      update fun s => { s with temporaryDirectory := none }
      match ← (clear directory).attempt with
      | .error failure => do
          abandon directory
          Act.ofResult (.error failure)
      | .ok () => do
          if (← view (·.options.verbose)) then
            tell .cleanup (.keepingTemporaryDirectory directory)
          else
            match ← outside (Act.answer (Platform.removeTree directory)) with
            | .ok () => pure ()
            | .error error => (Act.fail (.osAt error directory)).within (.removing directory)

/-- **End a session without a cleanup.**  Only the temporary directory is removed. -/
def drop : Act (Live W) Unit := do
  match ← view (·.temporaryDirectory) with
  | none => pure ()
  | some directory => abandon directory

end Session

end LtoBridge
