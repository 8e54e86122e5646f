/-
**Programs as a machine runs them.**

A file that can be run is a program of the machine or a script, whose first line names the program
that it is for.

Main definitions:

* `LtoBridge.Programs.interpreter?`: the program that a script is for;
* `LtoBridge.Programs.execute`: run a file;
* `LtoBridge.Programs.launcher`: what programs do.
-/

import LtoBridge.Machine
import LtoBridge.Programs.Catalog

set_option autoImplicit false

namespace LtoBridge.Programs

/-- The program that the first line of a script names, with an argument for it. -/
def interpreter? (contents : Text) : Option (Text × List Text) :=
  match contents with
  | '#' :: '!' :: rest =>
      let line := (rest.takeWhile (· != '\n')).dropWhile Text.isBlank
      let line := (line.reverse.dropWhile Text.isBlank).reverse
      let path := line.takeWhile (!Text.isBlank ·)
      let argument := (line.drop path.length).dropWhile Text.isBlank
      if path.isEmpty then none else some (path, if argument.isEmpty then [] else [argument])
  | _ => none

/-- How many scripts can be run one by the other. -/
def interpreterLimit : Nat := 5

/-- Run a file, which can be a script for a script up to some depth. -/
def executeWith (launch : Launch) : (scripts : Nat) → Launch
  | 0, _, _, _ => .error .tooManyLinks
  | scripts + 1, path, arguments, job => do
      match ← program? job.disk path with
      | .program name =>
          match catalog.lookup name with
          | some p => .ok (p launch arguments job)
          | none => .error .noEntry
      | .file bytes _ =>
          match interpreter? (Text.ofBytes bytes) with
          | some (interpreter, before) =>
              executeWith launch scripts interpreter (before ++ path :: arguments)
                { job with name := interpreter }
          | none => .error .execFormat
      | _ => .error .accessDenied

/-- Run a file.  The programs that it runs are nested up to some depth. -/
def execute : (depth : Nat) → Launch
  | 0 => fun _ _ _ => .error .noMemory
  | depth + 1 => executeWith (execute depth) interpreterLimit

/-- How deep programs that run others can be nested. -/
def depthLimit : Nat := 200

/-- What the environment of every program has. -/
def usualEnvironment : List (Text × Text) :=
  [("PATH".toList, usualDirectories.toList), ("HOME".toList, "/root".toList)]

/-- **What programs do.** -/
def launcher : Launcher := fun disk program arguments =>
  if 0 ∈ program ∨ ∃ a ∈ arguments, 0 ∈ a then (.error .zeroInCommand, disk)
  else
    let name := Text.ofBytes program
    let job : Job := { disk, name, environment := usualEnvironment }
    let answer : Except OsError (ExitStatus × Job) := do
      let path ← search disk usualDirectories.toList name
      execute depthLimit path (arguments.map Text.ofBytes) job
    match answer with
    | .error e => (.error e, disk)
    | .ok (status, job) =>
        (.ok { output := Text.bytes job.output.reverse.flatten, status },
          { job.disk with current := disk.current })

end LtoBridge.Programs
