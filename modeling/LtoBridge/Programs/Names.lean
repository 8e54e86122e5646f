/-
**Names of files.**

Main definitions:

* `LtoBridge.Programs.basename`, `LtoBridge.Programs.dirname`: parts of a name;
* `LtoBridge.Programs.readlink`, `LtoBridge.Programs.realpath`,
  `LtoBridge.Programs.workingDirectory`: where a name leads;
* `LtoBridge.Programs.mktemp`: a name that is not in use.
-/

import LtoBridge.Programs.Extract

set_option autoImplicit false

namespace LtoBridge.Programs

/-- A text without slashes at its end. -/
def withoutSlashes (text : Text) : Text := (text.reverse.dropWhile (· == '/')).reverse

/-- The last part of a name. -/
def lastPart_ (name : Text) : Text :=
  let kept := withoutSlashes name
  if kept.isEmpty then if name.isEmpty then [] else ['/']
  else (kept.reverse.takeWhile (· != '/')).reverse

/-- A name without its last part. -/
def withoutLastPart (name : Text) : Text :=
  let kept := withoutSlashes name
  let before := (kept.reverse.dropWhile (· != '/')).reverse
  if kept.isEmpty then if name.isEmpty then ['.'] else ['/']
  else if before.isEmpty then ['.']
  else if (withoutSlashes before).isEmpty then ['/']
  else withoutSlashes before

/-- A name without a given end, which is not all of it. -/
def withoutSuffix (suffix name : Text) : Text :=
  if suffix.length < name.length ∧ suffix.isSuffixOf name then
    name.take (name.length - suffix.length)
  else name

/-- Show the last part of names. -/
def basename : Tool := fun arguments j =>
  let grammar : Grammar :=
    { letters := "as:z", mixed := false
      words := [("multiple", 'a'), ("suffix", 's'), ("zero", 'z')] }
  match grammar.read arguments with
  | none => misused "basename" 1 j
  | some r =>
      let mark : Text := if r.has 'z' then ['\x00'] else ['\n']
      match r.has 'a' || r.has 's', r.operands with
      | _, [] => misused "basename" 1 j
      | true, names =>
          let suffix := (r.value? 's').getD []
          (0, j.print (names.flatMap fun n => withoutSuffix suffix (lastPart_ n) ++ mark))
      | false, [name] => (0, j.print (lastPart_ name ++ mark))
      | false, [name, suffix] => (0, j.print (withoutSuffix suffix (lastPart_ name) ++ mark))
      | false, _ => misused "basename" 1 j

/-- Show names without their last part. -/
def dirname : Tool := fun arguments j =>
  let grammar : Grammar := { letters := "z", words := [("zero", 'z')] }
  match grammar.read arguments with
  | none => misused "dirname" 1 j
  | some r =>
      let mark : Text := if r.has 'z' then ['\x00'] else ['\n']
      if r.operands.isEmpty then misused "dirname" 1 j
      else (0, j.print (r.operands.flatMap fun n => withoutLastPart n ++ mark))

/-- The path without links that a path stands for.  All of it has to be there, or all but its last
part, or none of it. -/
def canonical? (j : Job) (letter : Char) (path : Text) : Except OsError Text := do
  let bytes := Text.bytes path
  match letter with
  | 'e' => do
      let (l, _) ← j.disk.find bytes
      .ok (Text.ofBytes (Disk.absolute l))
  | 'f' => do
      let trimmed := if path.any (· != '/') then withoutSlashes path else path
      let l ← j.disk.locate (Text.bytes trimmed)
      .ok (Text.ofBytes (Disk.absolute l))
  | _ =>
      match j.disk.locate bytes with
      | .ok l => .ok (Text.ofBytes (Disk.absolute l))
      | .error .noEntry | .error .notDirectory =>
          let start : Location := if path.head? = some '/' then [] else j.disk.current
          .ok (Text.ofBytes (Disk.absolute ((Disk.components bytes).foldl Disk.step start)))
      | .error e => .error e

/-- Show where links lead. -/
def readlink : Tool := fun arguments j =>
  let grammar : Grammar :=
    { letters := "efmnqsvz"
      words := [("canonicalize", 'f'), ("canonicalize-existing", 'e'),
        ("canonicalize-missing", 'm'), ("no-newline", 'n'), ("zero", 'z')] }
  match grammar.read arguments with
  | none => misused "readlink" 1 j
  | some r =>
      if r.operands.isEmpty then misused "readlink" 1 j
      else
        let mark : Text := if r.has 'z' then ['\x00']
          else if r.has 'n' ∧ r.operands.length = 1 then [] else ['\n']
        r.operands.foldl (fun (status, j) name =>
          let answer := match r.lastOf? "efm" with
            | some letter => canonical? j letter name
            | none => do
                match ← j.disk.findEntry (Text.bytes name) with
                | (_, .link target) => .ok (Text.ofBytes target)
                | _ => .error .invalidArgument
          match answer with
          | .ok text => (status, j.print (text ++ mark))
          | .error e => (1, if r.has 'v' then j.blame "readlink" name e else j)) (0, j)

/-- Show the paths without links that names stand for. -/
def realpath : Tool := fun arguments j =>
  let grammar : Grammar :=
    { letters := "eEmLPqsz"
      words := [("canonicalize-existing", 'e'), ("canonicalize-missing", 'm'), ("quiet", 'q'),
        ("strip", 's'), ("no-symlinks", 's'), ("zero", 'z')] }
  match grammar.read arguments with
  | none => misused "realpath" 1 j
  | some r =>
      if r.operands.isEmpty then misused "realpath" 1 j
      else
        let mark : Text := if r.has 'z' then ['\x00'] else ['\n']
        r.operands.foldl (fun (status, j) name =>
          match canonical? j ((r.lastOf? "em").getD 'f') name with
          | .ok text => (status, j.print (text ++ mark))
          | .error e => (1, if r.has 'q' then j else j.blame "realpath" name e)) (0, j)

/-- Show the current directory. -/
def workingDirectory : Tool := fun arguments j =>
  let physical := Text.ofBytes j.disk.currentPath
  let given := j.lookUp? "PWD"
  let text := match arguments.contains ['-', 'L'], given with
    | true, some path => path
    | _, _ => physical
  (0, j.print (text ++ ['\n']))

/-- The first of some names that is not in use. -/
def freeName? (disk : Disk) (stem suffix : Text) (places : Nat) : List Nat → Option Text
  | [] => none
  | n :: rest =>
      let name := stem ++ Text.pad false '0' places (Text.decimal n) ++ suffix
      match disk.findEntry (Text.bytes name) with
      | .error .noEntry => some name
      | .error _ => none
      | .ok _ => freeName? disk stem suffix places rest

/-- Make a file or a directory whose name is not in use. -/
def mktemp : Tool := fun arguments j =>
  let grammar : Grammar :=
    { letters := "dp?qtuX:"
      words := [("directory", 'd'), ("dry-run", 'u'), ("quiet", 'q'), ("suffix", 'X'),
        ("tmpdir", 'p')] }
  /- The value of one option follows its letter as an argument of its own. -/
  let arguments := match arguments with
    | ['-', 'p'] :: directory :: rest => ("--tmpdir=".toList ++ directory) :: rest
    | ['-', 'd', 'p'] :: directory :: rest =>
        ['-', 'd'] :: ("--tmpdir=".toList ++ directory) :: rest
    | ['-', 'd'] :: ['-', 'p'] :: directory :: rest =>
        ['-', 'd'] :: ("--tmpdir=".toList ++ directory) :: rest
    | arguments => arguments
  match grammar.read arguments with
  | none => misused "mktemp" 1 j
  | some r =>
      let template := r.operands.headD "tmp.XXXXXXXXXX".toList
      let usual := (j.lookUp? "TMPDIR").getD "/tmp".toList
      let directory := match r.value? 'p', r.operands with
        | some [], _ => some usual
        | some d, _ => some d
        | none, [] => some usual
        | none, _ => if r.has 't' then some usual else none
      let template := match directory with
        | some d => d ++ '/' :: template
        | none => template
      let marks := ((template.reverse.dropWhile (· != 'X')).takeWhile (· == 'X')).length
      let after := (template.reverse.takeWhile (· != 'X')).reverse
      let suffix := after ++ (r.value? 'X').getD []
      let stem := template.take (template.length - after.length - marks)
      if marks < 3 then
        (1, j.complain ("mktemp: too few X's in template ".toList ++ quotedName template))
      else
        let failed (e : OsError) : Nat × Job :=
          (1, j.complain ("mktemp: failed to create ".toList ++
            (if r.has 'd' then "directory" else "file").toList ++ " via template ".toList ++
            quotedName template ++ ": ".toList ++ Job.errorText e))
        match freeName? j.disk stem suffix marks (List.range 1000) with
        | none => failed .noEntry
        | some name =>
            let made := if r.has 'u' then .ok j
              else if r.has 'd' then j.onDisk (·.makeDirectory (Text.bytes name))
              else j.onDisk (·.create (Text.bytes name))
            match made with
            | .ok j => (0, j.print (name ++ ['\n']))
            | .error e => failed e

end LtoBridge.Programs
