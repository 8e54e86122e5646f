/-
**Programs that need no files.**

Main definitions:

* `LtoBridge.Programs.echo`, `LtoBridge.Programs.printf`, `LtoBridge.Programs.yes`: print arguments;
* `LtoBridge.Programs.test`, `LtoBridge.Programs.bracketTest`: say whether a condition holds;
* `LtoBridge.Programs.sleep`: wait;
* `LtoBridge.Programs.which`: where programs are;
* `LtoBridge.Programs.kill`: send signals;
* `LtoBridge.Programs.userIdentity`, `LtoBridge.Programs.uname`: who runs the program, and on what.
-/

import LtoBridge.Programs.Condition
import LtoBridge.Programs.Extract
import LtoBridge.Programs.Format
import LtoBridge.Programs.Search

set_option autoImplicit false

namespace LtoBridge.Programs

/-! ### Arguments as output -/

/-- The escapes of `echo` and `printf`. -/
def fullEscapes : Escapes := { hexadecimal := true }

/-- Print arguments.  The leading options are those that have no other letters. -/
def echo : Tool := fun arguments j =>
  let isOption (a : Text) : Bool :=
    match a with
    | '-' :: c :: letters => (c :: letters).all fun c => "neE".toList.contains c
    | _ => false
  let options := (arguments.takeWhile isOption).flatten
  let words := arguments.dropWhile isOption
  let escaped := (options.filter fun c => c == 'e' || c == 'E').getLast? == some 'e'
  let escapes : Option Escapes :=
    if escaped then some { hexadecimal := true, zeroFirst := true } else none
  (0, j.print (lineOf escapes (!options.contains 'n') words))

/-- Print arguments as a format says. -/
def printf : Tool := fun arguments j =>
  let words := if arguments.head? = some ['-', '-'] then arguments.tail else arguments
  match words with
  | [] => misused "printf" 1 j
  | format :: rest =>
      let (text, status) := Format.print { escapes := fullEscapes, stops := true } format rest
      (status, j.print text)

/-- Print a text until nobody reads it any more, or until that is enough for anybody. -/
def printOn (text : Text) : (rounds : Nat) → Job → Job
  | 0, j => { j with brokenPipe := true }
  | rounds + 1, j =>
      if j.brokenPipe ∨ j.writeError.isSome then j else printOn text rounds (j.print text)

/-- Print arguments again and again. -/
def yes : Tool := fun arguments j =>
  let words := if arguments.head? = some ['-', '-'] then arguments.tail else arguments
  let line := Text.spaced (if words.isEmpty then [['y']] else words) ++ ['\n']
  let block := (List.replicate (16384 / line.length + 1) line).flatten
  (1, printOn block (Job.pipeLimit / 16384 + 1) j)

/-! ### Conditions -/

/-- Say whether a condition holds. -/
def test : Tool := fun arguments j =>
  let context : Condition.Context := { disk := j.disk, doubled := false, complaint := id }
  match Condition.evaluateCounted context arguments with
  | .ok holds => (if holds then 0 else 1, j)
  | .error complaint => (2, j.complain ("test: ".toList ++ complaint))

/-- Say whether a condition within brackets holds. -/
def bracketTest : Tool := fun arguments j =>
  if arguments.getLast? = some [']'] then test arguments.dropLast j
  else (2, j.complain "[: missing ']'".toList)

/-! ### Time and processes -/

/-- Wait for some time. -/
def sleep : Tool := fun arguments j =>
  let times := arguments.map Fraction.duration?
  if ¬ arguments.isEmpty ∧ times.all (·.isSome) then
    (0, j.waitFor (times.foldl (fun n time => n + time.getD 0) 0))
  else misused "sleep" 1 j

/-- The clock of the machine, which stands still, as the letters of a format show it. -/
def clock : Char → Text
  | 's' | 'w' => ['0']
  | 'Y' => "1970".toList
  | 'y' => "70".toList
  | 'm' | 'd' => "01".toList
  | 'e' => " 1".toList
  | 'j' => "001".toList
  | 'H' | 'M' | 'S' | 'C' => "00".toList
  | 'I' => "12".toList
  | 'p' => "AM".toList
  | 'N' => "000000000".toList
  | 'F' => "1970-01-01".toList
  | 'T' => "00:00:00".toList
  | 'D' => "01/01/70".toList
  | 'R' => "00:00".toList
  | 'Z' => "UTC".toList
  | 'z' => "+0000".toList
  | 'a' => "Thu".toList
  | 'A' => "Thursday".toList
  | 'b' | 'h' => "Jan".toList
  | 'B' => "January".toList
  | 'u' => ['4']
  | 'n' => ['\n']
  | 't' => ['\t']
  | '%' => ['%']
  | c => ['%', c]

/-- The time as a format shows it. -/
def shownTime : Text → Text
  | '%' :: '-' :: c :: rest =>
      let digits := (clock c).dropWhile (· == '0')
      (if digits.isEmpty then ['0'] else digits) ++ shownTime rest
  | '%' :: c :: rest => clock c ++ shownTime rest
  | c :: rest => c :: shownTime rest
  | [] => []

/-- Show the time. -/
def date : Tool := fun arguments j =>
  let grammar : Grammar :=
    { letters := "d:f:I?Rr:s:u"
      words := [("date", 'd'), ("utc", 'u'), ("universal", 'u'), ("rfc-email", 'R'),
        ("iso-8601", 'I'), ("reference", 'r')] }
  match grammar.read arguments with
  | none => misused "date" 1 j
  | some r =>
      match r.operands with
      | [] =>
          let format := if r.has 'R' then "%a, %d %b %Y %T %z"
            else if r.has 'I' then "%F" else "%a %b %e %T %Z %Y"
          (0, j.print (shownTime format.toList ++ ['\n']))
      | ['+' :: format] => (0, j.print (shownTime format ++ ['\n']))
      | _ => misused "date" 1 j

/-- Show where programs are. -/
def which : Tool := fun arguments j =>
  let all := arguments.head? == some ['-', 'a']
  let names := if all then arguments.tail else arguments
  let wrong := names.find? fun name => name.head? == some '-' && name.length > 1
  if names.isEmpty then (1, j)
  else if wrong.isSome then (2, j.print "Usage: /usr/bin/which [-as] args\n".toList)
  else
    let directories := Text.splitAt (· == ':') ((j.lookUp? "PATH").getD usualDirectories.toList)
    names.foldl (fun (status, j) name =>
      let paths := if name.contains '/' then [name] else directories.map fun d =>
        if d.isEmpty then "./".toList ++ name else d ++ '/' :: name
      let found := paths.filter fun path => (program? j.disk path).toOption.isSome
      match found with
      | [] => (1, j)
      | path :: _ => (status, j.print (Text.unlines (if all then found else [path])))) (0, j)

/-- Send a signal to processes. -/
def kill : Tool := fun arguments j =>
  let (signal, targets) := match arguments with
    | ['-', 's'] :: name :: targets => (signalNumber? name, targets)
    | ['-', '-'] :: targets => (some 15, targets)
    | ('-' :: name) :: targets => (signalNumber? name, targets)
    | targets => (some 15, targets)
  match signal, targets with
  | none, _ | _, [] => misused "kill" 1 j
  | some signal, targets =>
      targets.foldl (fun (status, j) target =>
        match Text.number? target with
        | some n =>
            if n < j.nextNumber ∧ 99 < n then
              (status, { j with signals := j.signals ++ [(n, signal)] })
            else (1, j.complain "kill: No such process".toList)
        | none => (1, j.complain "kill: invalid process".toList)) (0, j)

/-! ### User and machine -/

/-- Print a line.  Nothing but some options can be asked for. -/
def sayLine (name line : String) (options : List String) : Tool := fun arguments j =>
  if arguments.all fun a => options.contains (String.ofList a) then
    (0, j.print (line.toList ++ ['\n']))
  else misused name 1 j

/-- Is a text the only user's name or number? -/
def isUser (name : Text) : Bool := name == "root".toList || name == ['0']

/-- Show the groups of users. -/
def groups : Tool := fun arguments j =>
  match arguments with
  | [] => (0, j.print "root\n".toList)
  | names => names.foldl (fun (status, j) name =>
      if isUser name then (status, j.print (name ++ " : root\n".toList))
      else (1, j.complain ("groups: ".toList ++ quotedName name ++ ": no such user".toList))) (0, j)

/-- Write what is waiting to be written, of which there is nothing. -/
def sync : Tool := fun arguments j =>
  let grammar : Grammar := { letters := "df", words := [("data", 'd'), ("file-system", 'f')] }
  match grammar.read arguments with
  | none => misused "sync" 1 j
  | some r => r.operands.foldl (fun (status, j) name =>
      match j.disk.find (Text.bytes name) with
      | .ok _ => (status, j)
      | .error e =>
          (1, j.blame "sync" ("error opening ".toList ++ quotedName name) e)) (0, j)

/-- Show who runs the program. -/
def userIdentity : Tool := fun arguments j =>
  let grammar : Grammar :=
    { letters := "agGnruzZ"
      words := [("user", 'u'), ("group", 'g'), ("groups", 'G'), ("name", 'n'), ("real", 'r')] }
  match grammar.read arguments with
  | none => misused "id" 1 j
  | some r =>
      if ¬ r.operands.all isUser then
        (1, j.complain ("id: ".toList ++ quotedName (r.operands.headD []) ++
          ": no such user".toList))
      else if r.has 'u' ∨ r.has 'g' ∨ r.has 'G' then
        (0, j.print (if r.has 'n' then "root\n".toList else "0\n".toList))
      else (0, j.print "uid=0(root) gid=0(root) groups=0(root)\n".toList)

/-- Show what the machine is. -/
def uname : Tool := fun arguments j =>
  let grammar : Grammar :=
    { letters := "asnrvmpio"
      words := [("all", 'a'), ("kernel-name", 's'), ("nodename", 'n'), ("kernel-release", 'r'),
        ("machine", 'm'), ("operating-system", 'o')] }
  match grammar.read arguments with
  | none | some { operands := _ :: _, .. } => misused "uname" 1 j
  | some r =>
      let parts : List (Char × String) :=
        [('s', "Linux"), ('n', "localhost"), ('r', "6.0.0"), ('v', "#1 SMP"), ('m', "x86_64"),
          ('o', "GNU/Linux")]
      let chosen := parts.filter fun part =>
        r.has 'a' || r.has part.1 || (r.options.isEmpty && part.1 == 's')
      (0, j.print (Text.spaced (chosen.map (·.2.toList)) ++ ['\n']))

end LtoBridge.Programs
