/-
**Programs that run other programs.**

Main definitions:

* `LtoBridge.Programs.env`: with another environment;
* `LtoBridge.Programs.xargs`: with arguments from the input;
* `LtoBridge.Programs.timeout`, `LtoBridge.Programs.nice`, `LtoBridge.Programs.nohup`.
-/

import LtoBridge.Programs.Decimal
import LtoBridge.Programs.Extract
import LtoBridge.Programs.Search

set_option autoImplicit false

namespace LtoBridge.Programs

/-- Run a program in place of the one that is running. -/
def become (launch : Launch) (program : String) (words : List Text) (j : Job) : ExitStatus × Job :=
  match launchNamed launch (words.headD []) words.tail j with
  | .ok answer => answer
  | .error e =>
      settle (if e = .noEntry then 127 else 126)
        (j.complain (program.toList ++ ": ".toList ++ quotedName (words.headD []) ++ ": ".toList ++
          Job.errorText e))

/-! ### Environments -/

/-- The words of a text, in which quotes and backslashes can stand.  Each step takes a character, so
the length of the text is enough fuel. -/
def splitWords (environment : List (Text × Text)) :
    (fuel : Nat) → (quote : Option Char) → (word : Option Text) → Text → Option (List Text)
  | 0, _, _, _ => none
  | fuel + 1, quote, word, text =>
      let add (t : Text) (rest : Text) : Option (List Text) :=
        splitWords environment fuel quote (some (t.reverse ++ word.getD [])) rest
      match quote, text with
      | none, [] => some (word.toList.map List.reverse)
      | some _, [] => none
      | none, '#' :: rest =>
          if word.isNone then some [] else add ['#'] rest
      | some '\'', c :: rest =>
          if c = '\'' then splitWords environment fuel none word rest else add [c] rest
      | _, '\\' :: c :: rest =>
          match quote, c with
          | none, '_' =>
              (splitWords environment fuel none none rest).map (word.toList.map List.reverse ++ ·)
          | some _, '_' => add [' '] rest
          | _, 'n' => add ['\n'] rest
          | _, 't' => add ['\t'] rest
          | _, 'r' => add ['\r'] rest
          | _, 'f' => add ['\x0c'] rest
          | _, 'v' => add ['\x0b'] rest
          | none, 'c' => some (word.toList.map List.reverse)
          | _, c => if "#$\"'\\".toList.contains c then add [c] rest else none
      | _, '$' :: '\x7b' :: rest =>
          let name := rest.takeWhile (· != '\x7d')
          add ((environment.lookup name).getD []) (rest.drop (name.length + 1))
      | _, '$' :: _ => none
      | some q, c :: rest =>
          if c = q then splitWords environment fuel none word rest else add [c] rest
      | none, c :: rest =>
          if c = '"' ∨ c = '\'' then
            splitWords environment fuel (some c) (some (word.getD [])) rest
          else if Text.isSpace c then
            (splitWords environment fuel none none rest).map (word.toList.map List.reverse ++ ·)
          else add [c] rest

/-- What is done to the environment: options first, then values, then the program. -/
def prepareEnvironment : (fuel : Nat) → Job → List Text → Except Text (Job × List Text)
  | 0, j, words => .ok (j, words)
  | fuel + 1, j, words =>
      let without (name : Text) : Job :=
        { j with environment := j.environment.filter (·.1 != name) }
      let split (text : Text) (rest : List Text) : Except Text (Job × List Text) :=
        match splitWords j.environment (text.length + 1) none none text with
        | some words => prepareEnvironment fuel j (words ++ rest)
        | none => .error "env: invalid string".toList
      match words with
      | ['-'] :: rest | ['-', 'i'] :: rest =>
          prepareEnvironment fuel { j with environment := [] } rest
      | ['-', 'u'] :: name :: rest => prepareEnvironment fuel (without name) rest
      | ['-', 'C'] :: directory :: rest =>
          match j.disk.find (Text.bytes directory) with
          | .ok (l, .directory) =>
              prepareEnvironment fuel { j with disk := { j.disk with current := l } } rest
          | _ => .error ("env: cannot change directory to ".toList ++ quotedName directory)
      | ['-', 'S'] :: text :: rest => split text rest
      | ['-', '-'] :: rest => .ok (j, rest)
      | ['-', '0'] :: rest => prepareEnvironment fuel j rest
      | word :: rest =>
          let name := word.takeWhile (· != '=')
          if "-S".toList.isPrefixOf word then split (word.drop 2) rest
          else if "--unset=".toList.isPrefixOf word then
            prepareEnvironment fuel (without (word.drop 8)) rest
          else if "--split-string=".toList.isPrefixOf word then split (word.drop 15) rest
          else if word = "--ignore-environment".toList then
            prepareEnvironment fuel { j with environment := [] } rest
          else if word.head? = some '-' then
            .error ("env: unrecognized option ".toList ++ quotedName word)
          else if name.length < word.length ∧ ¬ name.isEmpty then
            let value := word.drop (name.length + 1)
            let environment :=
              if j.environment.any (·.1 == name) then
                j.environment.map fun e => if e.1 == name then (name, value) else e
              else j.environment ++ [(name, value)]
            prepareEnvironment fuel { j with environment } rest
          else .ok (j, words)
      | [] => .ok (j, [])

/-- Show the environment, or run a program with another one. -/
def env : Program := fun launch arguments j =>
  match prepareEnvironment 10000 j arguments with
  | .error complaint => settle 125 (j.complain complaint)
  | .ok (j, []) =>
      settle 0 (j.print (j.environment.flatMap fun (name, value) =>
        name ++ '=' :: value ++ ['\n']))
  | .ok (changed, words) => become launch "env" words changed

/-- Show values of the environment. -/
def printenv : Tool := fun arguments j =>
  let grammar : Grammar := { letters := "0", mixed := false, words := [("null", '0')] }
  let r := grammar.read arguments
  let names := (r.map (·.operands)).getD []
  if r.isNone then misused "printenv" 2 j
  else if names.isEmpty then
    (0, j.print (j.environment.flatMap fun (name, value) => name ++ '=' :: value ++ ['\n']))
  else names.foldl (fun (status, j) name =>
    match j.environment.lookup name with
    | some value => (status, j.print (value ++ ['\n']))
    | none => (1, j)) (0, j)

/-! ### Arguments from the input -/

/-- The words of an input, in which quotes and backslashes can stand, each with whether a line ends
after it.  Quotes have to be closed within a line. -/
def inputWords : (fuel : Nat) → (quote : Option Char) → (word : Option Text) → Text →
    Option (List (Text × Bool))
  | 0, _, _, _ => none
  | fuel + 1, quote, word, text =>
      let add (c : Char) (rest : Text) : Option (List (Text × Bool)) :=
        inputWords fuel quote (some (c :: word.getD [])) rest
      let finish (ends : Bool) (rest : Text) : Option (List (Text × Bool)) :=
        (inputWords fuel none none rest).map ((word.toList.map fun w => (w.reverse, ends)) ++ ·)
      match quote, text with
      | none, [] => some (word.toList.map fun w => (w.reverse, true))
      | some _, [] => none
      | some q, c :: rest =>
          if c = q then inputWords fuel none (some (word.getD [])) rest
          else if c = '\n' then none
          else add c rest
      | none, '\\' :: c :: rest => add c rest
      | none, c :: rest =>
          if c = '"' ∨ c = '\'' then inputWords fuel (some c) (some (word.getD [])) rest
          else if c = '\n' then finish true rest
          else if Text.isSpace c then finish false rest
          else add c rest

/-- Groups of at most `size` things.  Each has at least one, so their number is enough fuel. -/
def groupsOf {α : Type} (size : Nat) : (fuel : Nat) → List α → List (List α)
  | 0, _ => []
  | _ + 1, [] => []
  | fuel + 1, items => items.take size :: groupsOf size fuel (items.drop size)

/-- A text with another one in place of each place where a mark stands. -/
def replacedIn (mark by_ : Text) : (fuel : Nat) → Text → Text
  | 0, text => text
  | fuel + 1, text =>
      match text with
      | [] => []
      | c :: rest =>
          if ¬ mark.isEmpty ∧ mark.isPrefixOf text then
            by_ ++ replacedIn mark by_ fuel (text.drop mark.length)
          else c :: replacedIn mark by_ fuel rest

/-- Run commands one after the other, and give the status that is due to all of them. -/
def runAll (launch : Launch) (traced : Bool) : List (List Text) → (status : Nat) → Job → Nat × Job
  | [], status, j => (status, j)
  | words :: rest, status, j =>
      let j := if traced then j.complain (Text.spaced words) else j
      let name := words.headD []
      match launchNamed launch name words.tail j.child with
      | .error e =>
          (if e = .noEntry then 127 else 126, j.blame "xargs" name e)
      | .ok (end_, after) =>
          let j := j.rejoin after
          match end_ with
          | .exited 255 =>
              (124, j.complain ("xargs: ".toList ++ name ++
                ": exited with status 255; aborting".toList))
          | .exited 0 => runAll launch traced rest status j
          | .exited _ => runAll launch traced rest 123 j
          | .killed signal =>
              (125, j.complain ("xargs: ".toList ++ name ++ ": terminated by signal ".toList ++
                Text.decimal signal))

/-- Run a program with arguments from the input. -/
def xargs : Program := fun launch arguments j =>
  let grammar : Grammar :=
    { letters := "0a:d:E:eI:i?L:l?n:oP:prs:tx", mixed := false
      words := [("null", '0'), ("arg-file", 'a'), ("delimiter", 'd'), ("max-lines", 'L'),
        ("max-args", 'n'), ("no-run-if-empty", 'r'), ("verbose", 't'), ("replace", 'i'),
        ("max-procs", 'P')] }
  match grammar.read arguments with
  | none => settle 1 (misused "xargs" 1 j).2
  | some r =>
      let input := match r.value? 'a' with
        | some file => j.fileText file
        | none => j.readAll 0
      match input with
      | (.error e, j) => settle 1 (j.blame "xargs" ((r.value? 'a').getD []) e)
      | (.ok text, j) =>
          let mark := match r.value? 'I', r.has 'i' with
            | some mark, _ => some mark
            | none, true => some (match r.value? 'i' with
                | some (c :: rest) => c :: rest
                | _ => ['\x7b', '\x7d'])
            | none, false => none
          let separator : Option Char := if r.has '0' then some '\x00'
            else match r.value? 'd' with
              | some ['\\', 'n'] => some '\n'
              | some ['\\', 't'] => some '\t'
              | some ['\\', '0'] => some '\x00'
              | some (c :: _) => some c
              | _ => none
          let items : Option (List (Text × Bool)) := match separator, mark with
            | some c, _ =>
                let parts := Text.splitAt (· == c) text
                let parts := if parts.getLast? = some [] then parts.dropLast else parts
                some (parts.map (·, true))
            | none, some _ =>
                /- Each line is one argument, without the blanks before it. -/
                let lines := (Text.lines text).map fun l =>
                  (Text.chopped l).dropWhile Text.isBlank
                (lines.filter (!·.isEmpty)).mapM fun (line : Text) =>
                  (inputWords (line.length + 1) none none
                    (line.flatMap fun c => if Text.isBlank c then ['\\', c] else [c])).map
                      fun (words : List (Text × Bool)) => (words.flatMap (·.1), true)
            | none, none => inputWords (text.length + 1) none none text
          match items with
          | none => settle 1 (j.complain "xargs: unmatched quote".toList)
          | some items =>
              let command := if r.operands.isEmpty then ["echo".toList] else r.operands
              let items : List (Text × Bool) := match r.value? 'E' with
                | some stop => items.takeWhile (·.1 != stop)
                | none => items
              let words := items.map (·.1)
              let commands : List (List Text) :=
                match mark with
                | some mark => words.map fun w =>
                    command.map fun part => replacedIn mark w (part.length + 1) part
                | none =>
                    match (r.value? 'n').bind Text.number?, (r.value? 'L').bind Text.number? with
                    | some (n + 1), _ =>
                        (groupsOf (n + 1) (words.length + 1) words).map (command ++ ·)
                    | _, some (n + 1) =>
                        let lines := (items.foldl
                          (fun (state : List (List Text) × List Text) (item : Text × Bool) =>
                          let (lines, line) := state
                          if item.2 then ((line ++ [item.1]) :: lines, [])
                          else (lines, line ++ [item.1])) ([], [])).1.reverse
                        (groupsOf (n + 1) (lines.length + 1) lines).map fun group =>
                          command ++ group.flatten
                    | _, _ => [command ++ words]
              let isIdle := words.isEmpty && (r.has 'r' || mark.isSome)
              /- The commands do not read what is left of the input. -/
              let (nothing, feeding) := j.add { channel := .nothing }
              let own := if r.has 'a' then j else feeding.attach 0 nothing
              let commands := if words.isEmpty then [command] else commands
              if isIdle then settle 0 j
              else
                let (status, after) := runAll launch (r.has 't') commands 0 own
                settle status { after with descriptors := j.descriptors }

/-! ### Limits -/

/-- Run a program for a limited time. -/
def timeout : Program := fun launch arguments j =>
  let grammar : Grammar :=
    { letters := "fk:ps:v", mixed := false
      words := [("signal", 's'), ("kill-after", 'k'), ("preserve-status", 'p'),
        ("foreground", 'f'), ("verbose", 'v')] }
  let answer : Option (Request × Nat × Nat × Text × List Text) := do
    let r ← grammar.read arguments
    let signal ← match r.value? 's' with
      | some name => signalNumber? name
      | none => some 15
    match r.operands with
    | limit :: name :: rest => some (r, ← Fraction.duration? limit, signal, name, rest)
    | _ => none
  match answer with
  | none => settle 125 (misused "timeout" 125 j).2
  | some (r, limit, signal, name, rest) =>
      let child := j.child
      let deadline : Deadline := { time := j.elapsed + limit, program := child.number, signal }
      let child := if limit = 0 then child else { child with deadline := some deadline }
      match launchNamed launch name rest child with
      | .error e =>
          settle (if e = .noEntry then 127 else 126)
            (j.complain ("timeout: failed to run command ".toList ++ quotedName name ++
              ": ".toList ++ Job.errorText e))
      | .ok (status, after) =>
          let isOver : Bool := limit ≠ 0 && after.elapsed == deadline.time
          let after := j.rejoin
            { after with signals := after.signals.filter (·.1 != child.number) }
          settle (if isOver then
              if signal = 9 then 137
              else if r.has 'p' then 128 + signal else 124
            else statusOf status) after

/-- Run a program with less right to be served. -/
def nice : Program := fun launch arguments j =>
  let grammar : Grammar := { letters := "n:", mixed := false, words := [("adjustment", 'n')] }
  match grammar.read arguments with
  | some { operands := [], .. } => settle 0 (j.print "0\n".toList)
  | some r => become launch "nice" r.operands j
  | none => settle 125 (misused "nice" 125 j).2

/-- Run a program that is not ended when its user leaves. -/
def nohup : Program := fun launch arguments j =>
  match arguments with
  | [] => settle 125 (j.complain "nohup: missing operand".toList)
  | ['-', '-'] :: words => become launch "nohup" words j
  | words =>
      if (words.headD []).head? = some '-' then settle 125 (misused "nohup" 125 j).2
      else become launch "nohup" words j

/-- Run a program whose output is passed on line by line, and programs like that. -/
def stdbuf : Program := fun launch arguments j =>
  let grammar : Grammar :=
    { letters := "e:i:o:", mixed := false
      words := [("error", 'e'), ("input", 'i'), ("output", 'o')] }
  match grammar.read arguments with
  | some { operands := name :: rest, options := _ :: _ } => become launch "stdbuf" (name :: rest) j
  | _ => settle 125 (misused "stdbuf" 125 j).2

/-- Run a program as the leader of a group. -/
def setsid : Program := fun launch arguments j =>
  match arguments.dropWhile fun a => a.head? == some '-' with
  | [] => settle 1 (j.complain "setsid: no command specified".toList)
  | words => become launch "setsid" words j

end LtoBridge.Programs
