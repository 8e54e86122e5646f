/-
**A machine to run a session on.**

The machine has a disk, open files, programs that can be launched, a linker and a journal.

Main definitions:

* `LtoBridge.ReadStep`: how the machine answers a read;
* `LtoBridge.Launcher`: what programs do;
* `LtoBridge.Machine`, and its instance of `LtoBridge.Platform`.
-/

import LtoBridge.Files.Disk
import LtoBridge.Log.Filter
import LtoBridge.Platform

set_option autoImplicit false

namespace LtoBridge

/-- How the machine answers a read: not at all, or with at most a number of bytes beyond the first
one. -/
inductive ReadStep
  | interrupted
  | atMost (beyondFirst : Nat)
  deriving DecidableEq

/-- What happens when a program is run with some arguments: it cannot be run, or it runs to its end
and may change the disk. -/
abbrev Launcher := Disk → Path → List Bytes → Except OsError Process × Disk

/-- A disk, open files, programs, a linker and a journal. -/
structure Machine (L : Type) where
  disk : Disk
  /-- The open files, by number. -/
  opened : List (Descriptor × Location) := []
  /-- How the next reads are answered; those after them are answered in full. -/
  readPlan : List ReadStep := []
  launcher : Launcher
  linker : L
  journal : Log.Journal
  /-- What is read of a mapped file behind its last page, by position.  The file has nothing there,
  and the machine may end a program that reads it; where it does not, this is what comes out. -/
  behind : Descriptor → Nat → UInt8 := fun _ _ => 0

namespace Machine

variable {L α : Type}

/-! ### Open files -/

/-- What is behind the number of an open file. -/
def node (m : Machine L) (file : Descriptor) : Except OsError Node :=
  match m.opened.lookup file with
  | none => .error .badDescriptor
  | some l => .ok ((m.disk.tree.get? l).getD (.file [] false))

/-- The next free number for an open file. -/
def freeDescriptor (m : Machine L) : Descriptor :=
  (m.opened.map (·.1)).foldl max 2 + 1

/-- Open a file. -/
def openFile (m : Machine L) (p : Path) : Except OsError (Descriptor × Machine L) := do
  let (l, _) ← m.disk.find p
  .ok (m.freeDescriptor, { m with opened := (m.freeDescriptor, l) :: m.opened })

/-- Close an open file. -/
def closeFile (m : Machine L) (file : Descriptor) : Machine L :=
  { m with opened := m.opened.filter (·.1 != file) }

/-- The size that is reported for a directory. -/
def directorySize : Nat := 4096

/-- The size of what is behind an open file. -/
def fileSize (m : Machine L) (file : Descriptor) : Except OsError Nat := do
  match ← m.node file with
  | .file bytes _ => .ok bytes.length
  | .directory => .ok directorySize
  | .program _ => .ok Disk.programImage.length
  | .link _ | .device _ => .ok 0

/-! ### Reading -/

/-- Positions in a file are below this bound. -/
def positionLimit : Nat := 0x8000000000000000

/-- The next entry of the plan that is not an interruption, and those after it. -/
def nextRead : List ReadStep → Option Nat × List ReadStep
  | [] => (none, [])
  | .interrupted :: rest => nextRead rest
  | .atMost n :: rest => (some n, rest)

/-- Read at most `count` bytes of an open file from a position on.  All of them must have a position
that is below the bound. -/
def readAt (m : Machine L) (file : Descriptor) (position count : Nat) :
    Except OsError Bytes × Machine L :=
  let (limit, readPlan) := nextRead m.readPlan
  let answer : Except OsError Bytes := do
    if position ≥ positionLimit then .error .invalidArgument
    else
      let node ← m.node file
      if position + count ≥ positionLimit then .error .invalidArgument
      else
        Disk.part node position (match limit with
          | some n => min count (n + 1)
          | none => count)
  (answer, { m with readPlan })

/-- Files are mapped in units of this size. -/
def pageSize : Nat := 4096

/-- Less than this can be mapped. -/
def mapLimit : Nat := 0x800000000000

/-- The end of the last page of a file of the given length. -/
def lastPageEnd (length : Nat) : Nat := (length + pageSize - 1) / pageSize * pageSize

/-- The first `count` bytes of a mapped file.  From the end of the file to the end of its last page
there are zeros. -/
def mapped (behind : Nat → UInt8) (bytes : Bytes) (count : Nat) : Bytes :=
  bytes.take count ++ (List.range' bytes.length (count - bytes.length)).map fun position =>
    if position < lastPageEnd bytes.length then 0 else behind position

/-- Map the first `count` bytes of an open file. -/
def mapFile (m : Machine L) (file : Descriptor) (count : Nat) : Except OsError Bytes := do
  if count ≥ positionLimit then .error .lengthOverflow
  else
    let node ← m.node file
    if count ≥ mapLimit then .error .noMemory
    else match node with
      | .file bytes _ => .ok (mapped (m.behind file) bytes count)
      | .program _ => .ok (mapped (m.behind file) Disk.programImage count)
      | .device .zero => .ok (List.replicate count 0)
      | _ => .error .noDevice

/-! ### The platform -/

/-- A question about the machine. -/
def asking (f : Machine L → Except OsError α) (m : Machine L) : Except OsError α × Machine L :=
  (f m, m)

/-- A change to the disk, which stays as it is if that fails. -/
def onDisk (f : Disk → Except OsError Disk) (m : Machine L) : Except OsError Unit × Machine L :=
  match f m.disk with
  | .ok disk => (.ok (), { m with disk })
  | .error e => (.error e, m)

/-- A request to the linker. -/
def onLinker (f : L → α × L) (m : Machine L) : α × Machine L :=
  match f m.linker with
  | (a, linker) => (a, { m with linker })

instance [Linker L] : Platform (Machine L) where
  currentDirectory := asking fun m => .ok m.disk.currentPath
  makeTemporaryDirectory parent stem m :=
    match m.disk.makeTemporary parent stem with
    | .ok (path, disk) => (.ok path, { m with disk })
    | .error e => (.error e, m)
  removeTree path := onDisk (·.removeTree path)
  createFile path := onDisk (·.create path)
  appendFile path data := onDisk (·.append path data)
  removeFile path := onDisk (·.remove path)
  readFile path := asking (·.disk.read path)
  openFile path m :=
    match m.openFile path with
    | .ok (file, m) => (.ok file, m)
    | .error e => (.error e, m)
  closeFile file m := m.closeFile file
  fileSize file := asking (·.fileSize file)
  readAt file position count m := m.readAt file position count
  mapFile file count := asking (·.mapFile file count)
  launch program arguments m :=
    match m.launcher m.disk program arguments with
    | (process, disk) => (process, { m with disk })
  addSymbols handle symbols := onLinker (Linker.addSymbols handle symbols)
  getSymbols handle symbols := onLinker (Linker.getSymbols handle symbols)
  addInputFile path := onLinker (Linker.addInputFile path)
  addInputLibrary name := onLinker (Linker.addInputLibrary name)
  releaseSymbols m := { m with linker := Linker.releaseSymbols m.linker }
  report event m := { m with journal := m.journal.add event }

end Machine

end LtoBridge
