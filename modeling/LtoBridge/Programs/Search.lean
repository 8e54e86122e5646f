/-
**Programs by name.**

A name without a slash is looked for in some directories, one after the other.

Main definitions:

* `LtoBridge.Programs.program?`: the program that a path leads to;
* `LtoBridge.Programs.search`: the path of a program by its name;
* `LtoBridge.Programs.launchNamed`: run a program by its name.
-/

import LtoBridge.Programs.Job

set_option autoImplicit false

namespace LtoBridge.Programs

/-- The directories in which programs are looked for if nothing else is said. -/
def usualDirectories : String :=
  "/usr/local/sbin:/usr/local/bin:/usr/sbin:/usr/bin:/sbin:/bin"

/-- What can be run at the end of a path. -/
def program? (disk : Disk) (path : Text) : Except OsError Node := do
  match ← disk.find (Text.bytes path) with
  | (_, .file bytes true) => .ok (.file bytes true)
  | (_, .program name) => .ok (.program name)
  | _ => .error .accessDenied

/-- The path of a program by its name, from the given directories on.  What cannot be run is
remembered as an error. -/
def searchIn (disk : Disk) (name : Text) : (error : OsError) → List Text → Except OsError Text
  | error, [] => .error error
  | error, directory :: rest =>
      let path := if directory.isEmpty then "./".toList ++ name else directory ++ '/' :: name
      match program? disk path with
      | .ok _ => .ok path
      | .error .accessDenied => searchIn disk name .accessDenied rest
      | .error .nameTooLong => .error .nameTooLong
      | .error _ => searchIn disk name error rest

/-- The path of a program by its name, which can be a path itself. -/
def search (disk : Disk) (directories : Text) (name : Text) : Except OsError Text :=
  if name.isEmpty then .error .noEntry
  else if name.contains '/' then (program? disk name).map fun _ => name
  else searchIn disk name .noEntry (Text.splitAt (· == ':') directories)

/-- Run a program by its name.  A file that does not say how it is run is a script of the usual
shell. -/
def launchNamed (launch : Launch) (name : Text) (arguments : List Text) (job : Job) :
    Except OsError (ExitStatus × Job) := do
  let directories := (job.lookUp? "PATH").getD usualDirectories.toList
  let path ← search job.disk directories name
  match launch path arguments { job with name } with
  | .error .execFormat =>
      launch "/bin/sh".toList (path :: arguments) { job with name := "/bin/sh".toList }
  | answer => answer

end LtoBridge.Programs
