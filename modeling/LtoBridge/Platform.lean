/-
**What a session needs from its surroundings.**

A session works with files, runs a program, talks to the linker and reports events.  All of this
is behind one interface, so that a session is a function of what its surroundings answer.

Main definitions:

* `LtoBridge.Descriptor`, `LtoBridge.Process`;
* `LtoBridge.Platform`: the interface, over the state of the surroundings;
* `LtoBridge.Act`: steps that change the surroundings and can fail;
* `LtoBridge.Effect`, `LtoBridge.Call`: a call to the surroundings;
* `LtoBridge.Traced`: surroundings together with the calls that they got.
-/

import LtoBridge.Linker

set_option autoImplicit false

namespace LtoBridge

/-- The number of an open file. -/
abbrev Descriptor := Int

/-- What a program did that has run to its end: what it wrote, how reading that failed in the end,
if it did, and how the program ended. -/
structure Process where
  output : Bytes
  readError : Option OsError := none
  status : ExitStatus
  deriving DecidableEq

/-- The surroundings of a session, with `W` as their state. -/
class Platform (W : Type) where
  /-- The directory that relative names start from. -/
  currentDirectory : W → Except OsError Path × W
  /-- Make a directory in the given one, with a new name that begins with `stem`, and give its
  absolute name.  Where that fails, the name that was tried comes with the error. -/
  makeTemporaryDirectory (parent stem : Path) : W → Except (OsError × Path) Path × W
  /-- Remove a directory and everything in it. -/
  removeTree (path : Path) : W → Except OsError Unit × W
  /-- Make a file, or make an existing one empty. -/
  createFile (path : Path) : W → Except OsError Unit × W
  /-- Add data to the end of a file that has been created. -/
  appendFile (path : Path) (data : Bytes) : W → Except OsError Unit × W
  /-- Remove a file. -/
  removeFile (path : Path) : W → Except OsError Unit × W
  /-- The contents of a file. -/
  readFile (path : Path) : W → Except OsError Bytes × W
  /-- Open a file for reading. -/
  openFile (path : Path) : W → Except OsError Descriptor × W
  /-- Close an open file. -/
  closeFile (file : Descriptor) : W → W
  /-- The size of an open file. -/
  fileSize (file : Descriptor) : W → Except OsError Nat × W
  /-- At most `count` bytes of an open file from a position on; none only at its end.  A read that
  is interrupted is repeated. -/
  readAt (file : Descriptor) (position count : Nat) : W → Except OsError Bytes × W
  /-- The first `count` bytes of an open file, mapped, whether or not it has that many. -/
  mapFile (file : Descriptor) (count : Nat) : W → Except OsError Bytes × W
  /-- Run a program to its end. -/
  launch (program : Path) (arguments : List Bytes) : W → Except OsError Process × W
  /-- Announce the symbols of a file to the linker. -/
  addSymbols (handle : Handle) (symbols : List Symbol) : W → Except Failure Unit × W
  /-- Ask the linker for resolutions. -/
  getSymbols (handle : Handle) (symbols : List Symbol) : W → ResolutionAnswer × W
  /-- Hand a file to the linker. -/
  addInputFile (path : Path) : W → Except Failure Unit × W
  /-- Hand a library to the linker. -/
  addInputLibrary (name : String) : W → Except Failure Unit × W
  /-- Tell the linker that announced symbols are no longer needed. -/
  releaseSymbols : W → W
  /-- Report an event. -/
  report (event : LogEvent) : W → W

/-! ### Steps -/

/-- A step that may change a state and may fail. -/
abbrev Act (σ : Type) := ExceptT Failure (StateM σ)

namespace Act

variable {σ α β : Type}

/-- The step given by a function. -/
def ofFunction (f : σ → Except Failure α × σ) : Act σ α := f

/-- The step whose failure is an error of the operating system. -/
def ofOs (f : σ → Except OsError α × σ) : Act σ α := fun s =>
  match f s with
  | (.ok a, s) => (.ok a, s)
  | (.error e, s) => (.error ⟨.os e, []⟩, s)

/-- The step that asks the operating system and has its answer as the result. -/
def answer (f : σ → Except OsError α × σ) : Act σ (Except OsError α) := fun s =>
  match f s with
  | (x, s) => (.ok x, s)

/-- The step whose failure is an error of the operating system about a file. -/
def ofOsAt (f : σ → Except (OsError × Path) α × σ) : Act σ α := fun s =>
  match f s with
  | (.ok a, s) => (.ok a, s)
  | (.error (e, path), s) => (.error ⟨.osAt e path, []⟩, s)

/-- The step that only changes the state. -/
def change (f : σ → σ) : Act σ Unit := fun s => (.ok (), f s)

/-- The step that looks at the state. -/
def look (f : σ → α) : Act σ α := fun s => (.ok (f s), s)

/-- The step that only fails. -/
def fail (cause : Cause) : Act σ α := fun s => (.error ⟨cause, []⟩, s)

/-- The step that has the given result. -/
def ofResult (x : Except Failure α) : Act σ α := fun s => (x, s)

/-- The step, with its failure as a result. -/
def attempt (act : Act σ α) : Act σ (Except Failure α) := fun s =>
  match act s with
  | (x, s) => (.ok x, s)

/-- The step, whose failure is seen from further outside. -/
def within (context : Context) (act : Act σ α) : Act σ α := fun s =>
  match act s with
  | (x, s) => (whileDoing context x, s)

/-- Do something for each element in turn, up to the first failure. -/
def forEach (f : β → Act σ Unit) : List β → Act σ Unit
  | [] => pure ()
  | b :: bs => do f b; forEach f bs

end Act

/-- Report a notice within a span. -/
def say {W : Type} [Platform W] (span : Option Span) (notice : Notice) : Act W Unit :=
  Act.change (Platform.report ⟨notice, span⟩)

/-! ### Traces -/

/-- A call to the surroundings. -/
inductive Effect
  | currentDirectory
  | makeTemporaryDirectory (parent stem : Path)
  | removeTree (path : Path)
  | createFile (path : Path)
  | appendFile (path : Path) (data : Bytes)
  | removeFile (path : Path)
  | readFile (path : Path)
  | openFile (path : Path)
  | closeFile (file : Descriptor)
  | fileSize (file : Descriptor)
  | readAt (file : Descriptor) (position count : Nat)
  | mapFile (file : Descriptor) (count : Nat)
  | launch (program : Path) (arguments : List Bytes)
  | addSymbols (handle : Handle) (symbols : List Symbol)
  | getSymbols (handle : Handle) (symbols : List Symbol)
  | addInputFile (path : Path)
  | addInputLibrary (name : String)
  | releaseSymbols
  | report (event : LogEvent)
  deriving DecidableEq

namespace Effect

variable {W : Type} [Platform W]

/-- Whether the surroundings do what a call asks for, and what they are like afterwards. -/
def outcome : Effect → W → Bool × W
  | currentDirectory, w => (Platform.currentDirectory w).map Except.isOk id
  | makeTemporaryDirectory parent stem, w =>
      (Platform.makeTemporaryDirectory parent stem w).map Except.isOk id
  | removeTree path, w => (Platform.removeTree path w).map Except.isOk id
  | createFile path, w => (Platform.createFile path w).map Except.isOk id
  | appendFile path data, w => (Platform.appendFile path data w).map Except.isOk id
  | removeFile path, w => (Platform.removeFile path w).map Except.isOk id
  | readFile path, w => (Platform.readFile path w).map Except.isOk id
  | openFile path, w => (Platform.openFile path w).map Except.isOk id
  | closeFile file, w => (true, Platform.closeFile file w)
  | fileSize file, w => (Platform.fileSize file w).map Except.isOk id
  | readAt file position count, w => (Platform.readAt file position count w).map Except.isOk id
  | mapFile file count, w => (Platform.mapFile file count w).map Except.isOk id
  | launch program arguments, w => (Platform.launch program arguments w).map Except.isOk id
  | addSymbols handle symbols, w => (Platform.addSymbols handle symbols w).map Except.isOk id
  | getSymbols handle symbols, w =>
      (Platform.getSymbols handle symbols w).map (·.loaded.isOk) id
  | addInputFile path, w => (Platform.addInputFile path w).map Except.isOk id
  | addInputLibrary name, w => (Platform.addInputLibrary name w).map Except.isOk id
  | releaseSymbols, w => (true, Platform.releaseSymbols w)
  | report event, w => (true, Platform.report event w)

end Effect

/-- A call to the surroundings and what they were like when they got it. -/
structure Call (W : Type) where
  effect : Effect
  before : W

/-- Surroundings and the calls that they got, in order. -/
structure Traced (W : Type) where
  world : W
  calls : List (Call W) := []

namespace Traced

variable {W : Type} [Platform W]

/-- The surroundings after one more call. -/
def record (t : Traced W) (e : Effect) : Traced W :=
  ⟨(e.outcome t.world).2, t.calls ++ [⟨e, t.world⟩]⟩

instance : Platform (Traced W) where
  currentDirectory t := ((Platform.currentDirectory t.world).1, t.record .currentDirectory)
  makeTemporaryDirectory parent stem t :=
    ((Platform.makeTemporaryDirectory parent stem t.world).1,
      t.record (.makeTemporaryDirectory parent stem))
  removeTree path t := ((Platform.removeTree path t.world).1, t.record (.removeTree path))
  createFile path t := ((Platform.createFile path t.world).1, t.record (.createFile path))
  appendFile path data t :=
    ((Platform.appendFile path data t.world).1, t.record (.appendFile path data))
  removeFile path t := ((Platform.removeFile path t.world).1, t.record (.removeFile path))
  readFile path t := ((Platform.readFile path t.world).1, t.record (.readFile path))
  openFile path t := ((Platform.openFile path t.world).1, t.record (.openFile path))
  closeFile file t := t.record (.closeFile file)
  fileSize file t := ((Platform.fileSize file t.world).1, t.record (.fileSize file))
  readAt file position count t :=
    ((Platform.readAt file position count t.world).1, t.record (.readAt file position count))
  mapFile file count t := ((Platform.mapFile file count t.world).1, t.record (.mapFile file count))
  launch program arguments t :=
    ((Platform.launch program arguments t.world).1, t.record (.launch program arguments))
  addSymbols handle symbols t :=
    ((Platform.addSymbols handle symbols t.world).1, t.record (.addSymbols handle symbols))
  getSymbols handle symbols t :=
    ((Platform.getSymbols handle symbols t.world).1, t.record (.getSymbols handle symbols))
  addInputFile path t := ((Platform.addInputFile path t.world).1, t.record (.addInputFile path))
  addInputLibrary name t :=
    ((Platform.addInputLibrary name t.world).1, t.record (.addInputLibrary name))
  releaseSymbols t := t.record .releaseSymbols
  report event t := t.record (.report event)

end Traced

end LtoBridge
