/-
**Programs at work.**

A program that runs has a disk, open files and an environment, and so have the programs that it
runs in turn.  Open files are shared between them: who inherits one goes on where others have read
or written.  Programs run one after the other, so what is written to a pipe waits there until it is
read.

Main definitions:

* `LtoBridge.Programs.OpenFile`, `LtoBridge.Programs.Job`;
* `LtoBridge.Programs.Job.pending`, `LtoBridge.Programs.Job.consume`: read;
* `LtoBridge.Programs.Job.write`, `LtoBridge.Programs.Job.complain`: write;
* `LtoBridge.Programs.Job.openToRead`, `LtoBridge.Programs.Job.openToWrite`,
  `LtoBridge.Programs.Job.attach`: open files;
* `LtoBridge.Programs.Job.child`, `LtoBridge.Programs.Job.rejoin`: programs that are run in turn;
* `LtoBridge.Programs.Program`.
-/

import LtoBridge.Files.Disk
import LtoBridge.Programs.Text

set_option autoImplicit false

namespace LtoBridge.Programs

/-! ### Open files -/

/-- Where an open file leads. -/
inductive Channel
  /-- Into the output of the run. -/
  | output
  /-- It takes everything and has nothing. -/
  | nothing
  | file (location : Location)
  | pipe
  deriving DecidableEq

/-- An open file. -/
structure OpenFile where
  channel : Channel
  reads : Bool := true
  writes : Bool := true
  /-- Does each write go to the end of the file? -/
  appends : Bool := false
  position : Nat := 0
  /-- What can be read from a pipe. -/
  waiting : Text := []
  /-- What has been written to a pipe since then, the last piece first. -/
  written : List Text := []
  /-- The room that what has been written to a pipe takes: each piece takes 32 characters at
  least. -/
  size : Nat := 0

/-- All that can be read from a pipe. -/
def OpenFile.available (file : OpenFile) : Text :=
  if file.written.isEmpty then file.waiting else file.waiting ++ file.written.reverse.flatten

/-- When a program gets a signal because it has taken too long. -/
structure Deadline where
  /-- In microseconds since the start of the run. -/
  time : Nat
  /-- The number of the program. -/
  program : Nat
  signal : Nat

/-- A program at work. -/
structure Job where
  disk : Disk
  /-- The name or the path that the program has been run by. -/
  name : Text := []
  /-- The open files, by a number that is never used again. -/
  opened : List (Nat × OpenFile) :=
    [(0, { channel := .nothing }), (1, { channel := .output }), (2, { channel := .nothing })]
  nextFile : Nat := 3
  /-- The open files that the program knows, by the numbers that it has for them. -/
  descriptors : List (Nat × Nat) := [(0, 0), (1, 1), (2, 2)]
  environment : List (Text × Text) := []
  /-- What has been written to the output of the run, the last piece first. -/
  output : List Text := []
  number : Nat := 100
  parent : Nat := 99
  nextNumber : Nat := 101
  /-- Signals that have been sent, each with the number of the program that gets it. -/
  signals : List (Nat × Nat) := []
  /-- The microseconds that programs have waited since the start of the run.  Nothing else takes
  time. -/
  elapsed : Nat := 0
  deadline : Option Deadline := none
  /-- Has the program written to a pipe that nobody reads any more? -/
  brokenPipe : Bool := false
  /-- The error of a write that has failed. -/
  writeError : Option OsError := none

namespace Job

/-- The open file that a program has a number for. -/
def file? (j : Job) (n : Nat) : Option (Nat × OpenFile) := do
  let id ← j.descriptors.lookup n
  let file ← j.opened.lookup id
  some (id, file)

/-- The job with a change to an open file. -/
def setFile (j : Job) (id : Nat) (file : OpenFile) : Job :=
  { j with opened := (id, file) :: j.opened.filter (·.1 != id) }

/-- The job with a number for an open file. -/
def attach (j : Job) (n id : Nat) : Job :=
  { j with descriptors := (n, id) :: j.descriptors.filter (·.1 != n) }

/-- The job without a number for an open file. -/
def detach (j : Job) (n : Nat) : Job :=
  { j with descriptors := j.descriptors.filter (·.1 != n) }

/-- The job with one more open file, and the identity of that. -/
def add (j : Job) (file : OpenFile) : Nat × Job :=
  (j.nextFile, { j with opened := (j.nextFile, file) :: j.opened, nextFile := j.nextFile + 1 })

/-- The job that reads a text as its input. -/
def feeding (j : Job) (text : Text) : Job :=
  let (id, j) := j.add { channel := .pipe, writes := false, waiting := text }
  j.attach 0 id

/-! ### Reading -/

/-- How much can wait in a pipe before its reader gives up. -/
def pipeLimit : Nat := 4194304

/-- All that can be read from something, or more of it than fits into a pipe if it has no end. -/
def allOf (node : Node) : Except OsError Text :=
  match node with
  | .device .zero | .device .full => .ok (List.replicate (pipeLimit + 1) '\x00')
  | node => (Disk.contents node).map Text.ofBytes

/-- Everything that can still be read from an open file. -/
def pending (j : Job) (n : Nat) : Except OsError Text :=
  match j.file? n with
  | none => .error .badDescriptor
  | some (_, file) =>
      if ¬ file.reads then .error .badDescriptor
      else match file.channel with
        | .output | .nothing => .ok []
        | .pipe => .ok file.available
        | .file l =>
            match j.disk.tree.get? l with
            | none => .ok []
            | some node => (allOf node).map (·.drop file.position)

/-- At most `count` characters of what can still be read. -/
def peek (j : Job) (n count : Nat) : Except OsError Text :=
  match j.file? n with
  | some (_, { channel := .file l, position, .. }) =>
      match j.disk.tree.get? l with
      | none => .ok []
      | some node => (Disk.part node position count).map Text.ofBytes
  | _ => (j.pending n).map (·.take count)

/-- The job after a number of characters have been read. -/
def consume (j : Job) (n count : Nat) : Job :=
  match j.file? n with
  | none => j
  | some (id, file) =>
      match file.channel with
      | .pipe =>
          j.setFile id { file with waiting := file.available.drop count, written := [] }
      | _ => j.setFile id { file with position := file.position + count }

/-- The next line with the character that ends it, or as much of it as there is, from the first
`size` characters on and more of them if need be. -/
def nextLine (j : Job) (n : Nat) : (fuel size : Nat) → Except OsError Text
  | 0, _ => j.pending n
  | fuel + 1, size =>
      match j.peek n size with
      | .error e => .error e
      | .ok text =>
          let line := text.takeWhile (· != '\n')
          match text.drop line.length with
          | newline :: _ => .ok (line ++ [newline])
          | [] => if text.length < size then .ok line else j.nextLine n fuel (4 * size)

/-- Read a line. -/
def readLine (j : Job) (n : Nat) : Except OsError Text × Job :=
  match j.nextLine n 10 128 with
  | .ok line => (.ok line, j.consume n line.length)
  | .error e => (.error e, j)

/-- Read everything that is left. -/
def readAll (j : Job) (n : Nat) : Except OsError Text × Job :=
  match j.pending n with
  | .ok text => (.ok text, j.consume n text.length)
  | .error e => (.error e, j)

/-! ### Writing -/

/-- Write a text.  That can fail, and it ends the program if nobody reads it. -/
def write (j : Job) (n : Nat) (text : Text) : Job :=
  if text.isEmpty then j
  else match j.file? n with
    | none => { j with writeError := some .badDescriptor }
    | some (id, file) =>
        if ¬ file.writes then { j with writeError := some .badDescriptor }
        else match file.channel with
          | .output => { j with output := text :: j.output }
          | .nothing => j
          | .pipe =>
              if file.size ≥ pipeLimit then { j with brokenPipe := true }
              else j.setFile id
                { file with
                  written := text :: file.written
                  size := file.size + max 32 text.length }
          | .file l =>
              let bytes := Text.bytes text
              let result :=
                if file.appends then j.disk.appendAt l bytes
                else j.disk.writeAt l file.position bytes
              match result with
              | .error e => { j with writeError := some e }
              | .ok disk =>
                  { j with disk }.setFile id { file with position := file.position + text.length }

/-- Write a text to the output. -/
def print (j : Job) (text : Text) : Job := j.write 1 text

/-- Write a line to where errors go.  Nobody minds if that fails. -/
def complain (j : Job) (text : Text) : Job :=
  { j.write 2 (text ++ ['\n']) with writeError := j.writeError }

/-- The wording of an error in a message. -/
def errorText (e : OsError) : Text := e.wording.1.toList

/-- Complain about an error with something, in the name of a program. -/
def blame (j : Job) (program : String) (what : Text) (e : OsError) : Job :=
  j.complain (program.toList ++ ": ".toList ++ what ++ ": ".toList ++ errorText e)

/-! ### Opening -/

/-- The number of the open file that a path stands for. -/
def standing? (path : Text) : Option Nat :=
  match String.ofList path with
  | "/dev/stdin" => some 0
  | "/dev/stdout" => some 1
  | "/dev/stderr" => some 2
  | _ =>
      let number (stem : String) : Option Nat :=
        if stem.toList.isPrefixOf path then Text.number? (path.drop stem.length) else none
      (number "/dev/fd/").or (number "/proc/self/fd/")

/-- Open a file for reading. -/
def openToRead (j : Job) (path : Text) : Except OsError (Nat × Job) :=
  match (standing? path).bind j.file? with
  | some (id, _) => .ok (id, j)
  | none => do
      let (l, _) ← j.disk.find (Text.bytes path)
      .ok (j.add { channel := .file l, writes := false })

/-- Open a file for writing, at its end or in place of what it holds; for reading too if `reads`
holds, and then what it holds stays. -/
def openToWrite (j : Job) (appends reads : Bool) (path : Text) : Except OsError (Nat × Job) :=
  match (standing? path).bind j.file? with
  | some (id, _) => .ok (id, j)
  | none => do
      let p := Text.bytes path
      let disk ← match j.disk.find p with
        | .ok (_, .directory) => .error .isDirectory
        | .ok _ => if appends ∨ reads then .ok j.disk else j.disk.create p
        | .error _ => j.disk.create p
      let (l, _) ← disk.find p
      .ok ({ j with disk }.add { channel := .file l, appends, reads })

/-- All of a file by its name, of which a hyphen stands for the input. -/
def fileText (j : Job) (name : Text) : Except OsError Text × Job :=
  let name := if name = ['-'] then "/dev/stdin".toList else name
  match standing? name with
  | some n => j.readAll n
  | none =>
      match j.disk.find (Text.bytes name) with
      | .ok (_, node) => (allOf node, j)
      | .error e => (.error e, j)

/-- The job after a change to the disk, or the error of that. -/
def onDisk (j : Job) (f : Disk → Except OsError Disk) : Except OsError Job :=
  (f j.disk).map fun disk => { j with disk }

/-- The value of a name in the environment. -/
def lookUp? (j : Job) (name : String) : Option Text := j.environment.lookup name.toList

/-! ### Jobs in turn -/

/-- A job that begins as the given one is. -/
def child (j : Job) : Job :=
  { j with
    number := j.nextNumber
    parent := j.number
    nextNumber := j.nextNumber + 1
    brokenPipe := false
    writeError := none }

/-- The job after another one has run, which leaves the disk, open files and output behind. -/
def rejoin (j other : Job) : Job :=
  { j with
    disk := { other.disk with current := j.disk.current }
    opened := other.opened
    nextFile := other.nextFile
    output := other.output
    nextNumber := other.nextNumber
    signals := other.signals
    elapsed := other.elapsed }

/-- The job after a time in microseconds, or when its time is over. -/
def waitFor (j : Job) (time : Nat) : Job :=
  match j.deadline with
  | some d =>
      if d.time ≤ j.elapsed + time then
        { j with elapsed := d.time, signals := j.signals ++ [(d.program, d.signal)] }
      else { j with elapsed := j.elapsed + time }
  | none => { j with elapsed := j.elapsed + time }

end Job

/-! ### Programs -/

/-- What a program does with its arguments, without running others: its status and what it leaves
behind. -/
abbrev Tool := List Text → Job → Nat × Job

/-- How a program runs another one, given by its path, with arguments. -/
abbrev Launch := Text → List Text → Job → Except OsError (ExitStatus × Job)

/-- What a program does with its arguments: how it ends and what it leaves behind. -/
abbrev Program := Launch → List Text → Job → ExitStatus × Job

/-- The number of a signal, by number or name. -/
def signalNumber? (name : Text) : Option Nat :=
  (Text.number? name).or
    ((ExitStatus.signalNames.findIdx? fun s => s.toList == name || s.toList.drop 3 == name).map
      (· + 1))

/-- The number of the signal that ends who writes to a pipe that nobody reads. -/
def pipeSignal : Nat := 13

/-- The end of a program with a status, unless its writing has failed. -/
def settle (status : Nat) (j : Job) : ExitStatus × Job :=
  if j.brokenPipe then (.killed pipeSignal, j)
  else match j.writeError with
    | some _ => (.exited (UInt8.ofNat (if status = 0 then 1 else status)), j)
    | none => (.exited (UInt8.ofNat status), j)

/-- The program that a tool is. -/
def Tool.program (tool : Tool) : Program := fun _ arguments j =>
  let (status, j) := tool arguments j
  settle status j

/-- The status that a shell gives to the end of a program. -/
def statusOf : ExitStatus → Nat
  | .exited code => code.toNat
  | .killed signal => 128 + signal

end LtoBridge.Programs
