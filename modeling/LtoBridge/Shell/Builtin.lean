/-
**Commands that a shell runs itself.**

Main definitions:

* `LtoBridge.Shell.Builtin.find?`: the command with a name;
* `LtoBridge.Shell.Builtin.isSpecial`: does a mistake in the command end the run?
* `LtoBridge.Shell.Builtin.split`: put values of variables in place of the fields of a line.
-/

import LtoBridge.Programs.Condition
import LtoBridge.Shell.Expansion
import LtoBridge.Programs.Search

set_option autoImplicit false

namespace LtoBridge.Shell.Builtin

open LtoBridge.Programs (Text Job Escapes Condition.Context search usualDirectories)
open LtoBridge.Shell.Act

/-- What a command does with its arguments. -/
abbrev Command := List Text → Act Unit

/-- A text as a script can contain it. -/
def singleQuoted (text : Text) : Text :=
  '\'' :: text.flatMap (fun c => if c = '\'' then "'\"'\"'".toList else [c]) ++ ['\'']

/-- The number that an argument stands for, which must not be negative. -/
def countOf (name : String) (text : Text) : Act Nat :=
  match Text.number? text with
  | some n => return n
  | none => failIn name ("Illegal number: ".toList ++ text)

/-- Refuse an option. -/
def refuseOption {α : Type} (name : String) (option : Text) : Act α := do
  refuse 2 name ("Illegal option ".toList ++ option)
  throw .error

/-- Arguments without options, all of which have to be among the given letters. -/
def operands (name : String) (letters : String) (arguments : List Text) :
    Act (List Char × List Text) :=
  go [] arguments
where
  go (found : List Char) : List Text → Act (List Char × List Text)
    | ['-', '-'] :: rest => return (found, rest)
    | ('-' :: c :: others) :: rest =>
        match (c :: others).find? (!letters.toList.contains ·) with
        | some wrong => refuseOption name ['-', wrong]
        | none => go (found ++ c :: others) rest
    | rest => return (found, rest)

/-! ### Output -/

/-- Print arguments on a line. -/
def echo : Command := fun arguments => do
  match (← get).dialect with
  | .plain =>
      let (ends, arguments) := match arguments with
        | ['-', 'n'] :: rest => (false, rest)
        | arguments => (true, arguments)
      print (Programs.lineOf (some {}) ends arguments)
  | .rich =>
      let isOption (a : Text) : Bool :=
        a.head? == some '-' && a.length > 1 && a.tail.all ("neE".toList.contains ·)
      let letters := (arguments.takeWhile isOption).flatMap (·.tail)
      let escaped := letters.reverse.find? fun c => c == 'e' || c == 'E'
      print (Programs.lineOf
        (if escaped = some 'e' then some { hexadecimal := true, zeroFirst := true } else none)
        (!letters.contains 'n') (arguments.dropWhile isOption))
  done 0

/-- Print arguments as a format says. -/
def printf : Command := fun arguments => do
  let rich := (← get).dialect == .rich
  let (target, arguments) := match rich, arguments with
    | true, ['-', 'v'] :: name :: rest => (some name, rest)
    | _, arguments => (none, arguments)
  let (_, arguments) ← operands "printf" "" arguments
  match arguments with
  | [] => failIn "printf" "usage: printf format [arg ...]".toList
  | format :: arguments => do
      let dialect : Programs.Format.Dialect :=
        if rich then { escapes := { hexadecimal := true }, stops := true, failure := 1 }
        else { escapes := {}, sizes := false, failure := 2 }
      let (text, status) := Programs.Format.print dialect format arguments
      match target with
      | some name => assign name text
      | none => print text
      if status = 0 then done 0
      else refuse status "printf" "expected numeric value".toList

/-! ### Conditions -/

/-- Does a name, or one with the key of an element, have a value? -/
def isSet (s : State) (name : Text) : Bool :=
  let base := name.takeWhile (· != '[')
  if base.length = name.length then (s.value? name).isSome
  else
    let key := (name.drop (base.length + 1)).dropLast
    match s.lookUp? base with
    | some { items := some items, .. } => (items.lookup key).isSome ||
        ((key == ['@'] || key == ['*']) && !items.isEmpty)
    | _ => false

/-- Look whether a condition holds. -/
def test (name : String) : Command := fun arguments => do
  let s ← get
  let rich := s.dialect == .rich
  let context : Condition.Context :=
    { disk := s.job.disk
      doubled := rich
      bounded := true
      missingIsOld := rich
      complaint := fun text =>
        if rich then text ++ ": integer expression expected".toList
        else "Illegal number: ".toList ++ text }
  let words := if name = "[" then arguments.dropLast else arguments
  if name = "[" ∧ arguments.getLast? ≠ some [']'] then
    refuse 2 name (if rich then "missing ']'".toList else "missing ]".toList)
  else match rich, words with
    | true, [['-', 'v'], name] => done (if isSet s name then 0 else 1)
    | _, _ =>
        let answer := if rich then Programs.Condition.evaluateCounted context words
          else Programs.Condition.evaluate context words
        match answer with
        | .ok holds => done (if holds then 0 else 1)
        | .error complaint => refuse 2 name complaint

/-! ### Directories -/

/-- The path that names lead to from another one, without looking at links. -/
def joined (directory path : Text) : Text :=
  let start := if path.head? = some '/' then [] else Text.splitAt (· == '/') directory
  let names := (start ++ Text.splitAt (· == '/') path).filter fun n =>
    !n.isEmpty && n != ['.']
  let kept := names.foldl (fun (kept : List Text) n =>
    if n = ['.', '.'] then kept.tail else n :: kept) []
  if kept.isEmpty then ['/'] else kept.reverse.flatMap ('/' :: ·)

/-- Change the current directory. -/
def cd : Command := fun arguments => do
  let (letters, arguments) ← operands "cd" "LP" arguments
  let s ← get
  let (target, shows) := match arguments with
    | [] => ((s.variableValue? "HOME".toList).getD [], false)
    | ['-'] :: _ => ((s.variableValue? "OLDPWD".toList).getD [], true)
    | path :: _ => (path, false)
  let failed (path : Text) (e : OsError) : Act Unit :=
    if s.dialect = .rich then refuse 1 "cd" (path ++ ": ".toList ++ Job.errorText e)
    else refuse 2 "cd" ("can't cd to ".toList ++ path)
  let isSearched : Bool := !target.isEmpty && target.head? != some '/' && target.head? != some '.'
  let directories := if isSearched then
      Text.splitAt (· == ':') ((s.variableValue? "CDPATH".toList).getD []) ++ [[]]
    else [[]]
  let candidates := directories.map fun d => if d.isEmpty then target else d ++ '/' :: target
  let found := candidates.findSome? fun path =>
    match s.job.disk.find (Text.bytes (joined s.directory path)) with
    | .ok (l, .directory) => some (path, l)
    | _ => none
  match found with
  | none =>
      match s.job.disk.find (Text.bytes target) with
      | .error e => if target.isEmpty then done 0 else failed target e
      | .ok _ => failed target .notDirectory
  | some (path, l) => do
      let directory := if letters.contains 'P' then Text.ofBytes (Disk.absolute l)
        else joined s.directory path
      onJob fun j => { j with disk := { j.disk with current := l } }
      modify fun s => { s with directory }
      assignExported "OLDPWD".toList s.directory
      assignExported "PWD".toList directory
      if shows ∨ path ≠ target then print (directory ++ ['\n'])
      done 0

/-- Print the current directory. -/
def pwd : Command := fun arguments => do
  let (letters, _) ← operands "pwd" "LP" arguments
  let s ← get
  let path := if letters.contains 'P' then Text.ofBytes s.job.disk.currentPath else s.directory
  print (path ++ ['\n'])
  done 0

/-! ### Variables -/

/-- Show variables, as a script can contain them. -/
def showVariables (before : String) (p : Variable → Bool) : Act Unit := do
  let entries := (← get).bindings.filter fun entry => p entry.2
  let entries := entries.mergeSort fun a b => Text.precedes a.1 b.1
  print (entries.flatMap fun (name, v) =>
    before.toList ++ name ++ (match v.value with
      | some value => '=' :: singleQuoted value
      | none => []) ++ ['\n'])
  done 0

/-- The name and the value in an argument that may assign one. -/
def assignedIn (argument : Text) : Text × Option Text :=
  let name := argument.takeWhile (· != '=')
  (name, (argument.drop name.length).tail?)

/-- Mark variables, and assign values to them. -/
def mark (name : String) (f : Variable → Variable) (p : Variable → Bool) : Command :=
  fun arguments => do
    let rich := (← get).dialect == .rich
    let (letters, arguments) ← operands name (if rich then "pn" else "p") arguments
    if arguments.isEmpty then showVariables (name ++ " ") p
    else do
      for argument in arguments do
        let (target, value) := assignedIn argument
        if ¬ isName target then failIn name (argument ++ ": bad variable name".toList)
        match value with
        | some value => assign target value
        | none => pure ()
        modify fun s => s.setVariable target (f ((s.lookUp? target).getD {}))
      if letters.contains 'n' then
        for argument in arguments do
          modify fun s => s.setVariable argument
            { (s.lookUp? argument).getD {} with exported := false }
      done 0

/-- Let other programs see variables. -/
def export_ : Command := mark "export" ({ · with exported := true }) (·.exported)

/-- Let variables keep their values. -/
def readonly : Command := mark "readonly" ({ · with fixed := true }) (·.fixed)

/-- Hide variables until the function ends. -/
def local_ : Command := fun arguments => do
  let s ← get
  if s.hidden.isEmpty then failIn "local" "not in a function".toList
  else do
    for argument in arguments do
      let (name, value) := assignedIn argument
      if name.head? ≠ some '-' then do
        if ¬ isName name then failIn "local" (argument ++ ": bad variable name".toList)
        hide name
        match value with
        | some value => assign name value
        | none =>
            if s.dialect = .rich then modify fun s => s.setVariable name {}
    done 0

/-- The command that declares a variable as it is. -/
def declaration (name : Text) (v : Variable) : Text :=
  let quoted (text : Text) : Text :=
    '"' :: (text.flatMap fun c => if "\"$`\\".toList.contains c then ['\\', c] else [c]) ++ ['"']
  let letters := (if v.items.isSome then [if v.named then 'A' else 'a'] else []) ++
    (if v.calculated then ['i'] else []) ++ (if v.fixed then ['r'] else []) ++
    (if v.exported then ['x'] else [])
  let value : Text := match v.items, v.value with
    | some items, _ =>
        let shown := items.map fun (key, text) => '[' :: key ++ "]=".toList ++ quoted text
        "=(".toList ++ Text.spaced shown ++ (if v.named ∧ ¬ items.isEmpty then " )" else ")").toList
    | none, some value => '=' :: quoted value
    | none, none => []
  "declare -".toList ++ (if letters.isEmpty then ['-'] else letters) ++ ' ' :: name ++ value ++
    ['\n']

/-- Show how variables or functions have been declared. -/
def showDeclared (letters : Text) (names : List Text) : Act Unit := do
  done 0
  for name in names do
    let s ← get
    if letters.contains 'F' ∨ letters.contains 'f' then
      if (s.functions.lookup name).isNone then done 1
      else if letters.contains 'F' then print (name ++ ['\n'])
    else match s.lookUp? name with
      | some v => print (declaration name v)
      | none => refuse 1 "declare" (name ++ ": not found".toList)

/-- Declare variables. -/
def declare : Command := fun arguments => do
  let letters := (arguments.takeWhile fun a => a.head? == some '-').flatMap (·.tail)
  let arguments := arguments.dropWhile fun a => a.head? == some '-'
  if letters.any fun c => c == 'p' || c == 'F' || c == 'f' then showDeclared letters arguments
  else do
    for argument in arguments do
      let (name, value) := assignedIn argument
      if ¬ (← get).hidden.isEmpty ∧ ¬ letters.contains 'g' then hide name
      match value with
      | some value =>
          if letters.contains 'i' then assign name (Text.signedDecimal (← calculate value))
          else assign name value
      | none =>
          if letters.contains 'a' ∨ letters.contains 'A' then
            change name fun v => { v with
              items := some (v.items.getD []), value := none, named := letters.contains 'A' }
      if letters.contains 'i' then
        modify fun s => s.setVariable name { (s.lookUp? name).getD {} with calculated := true }
      if letters.contains 'x' then
        modify fun s => s.setVariable name
          { (s.lookUp? name).getD {} with exported := true }
      if letters.contains 'r' then
        modify fun s => s.setVariable name { (s.lookUp? name).getD {} with fixed := true }
    done 0

/-- Forget variables or functions. -/
def unset : Command := fun arguments => do
  let (letters, arguments) ← operands "unset" "vf" arguments
  for name in arguments do
    if letters.contains 'f' then
      modify fun s => { s with functions := s.functions.filter (·.1 != name) }
    else
      let base := name.takeWhile (· != '[')
      if ¬ isName base then failIn "unset" (name ++ ": bad variable name".toList)
      else if base.length < name.length then do
        let key := (name.drop (base.length + 1)).dropLast
        change base fun v => { v with items := v.items.map (·.filter (·.1 != key)) }
      else do
        let isVariable := ((← get).lookUp? name).isSome
        forget name
        if (← get).dialect = .rich ∧ ¬ isVariable then
          modify fun s => { s with functions := s.functions.filter (·.1 != name) }
  done 0

/-! ### Parameters and options -/

/-- The options of a shell by name. -/
def optionNames : List (String × Char) :=
  [("errexit", 'e'), ("noglob", 'f'), ("ignoreeof", 'I'), ("interactive", 'i'), ("monitor", 'm'),
    ("noexec", 'n'), ("stdin", 's'), ("xtrace", 'x'), ("verbose", 'v'), ("vi", 'V'),
    ("emacs", 'E'), ("noclobber", 'C'), ("allexport", 'a'), ("notify", 'b'), ("nounset", 'u')]

/-- The option with a name.  A rich shell has more of them. -/
def optionNamed? (d : Dialect) (name : Text) : Option Char :=
  match d, String.ofList name with
  | .rich, "pipefail" => some 'P'
  | .rich, "posix" | .rich, "errtrace" | .rich, "functrace" | .rich, "braceexpand" => some 'E'
  | _, name => optionNames.lookup name

/-- Turn an option on or off. -/
def switch (on : Bool) (letter : Char) : Act Unit := modify fun s =>
  { s with options := (if on then [letter] else []) ++ s.options.filter (· != letter) }

/-- Turn options on and off, and give what follows them; whether parameters follow is told too. -/
def options (name : String) : (arguments : List Text) → Act (Bool × List Text)
  | [] => return (false, [])
  | argument :: rest => do
      let d := (← get).dialect
      match argument with
      | ['-', '-'] => return (true, rest)
      | ['-'] => return (!rest.isEmpty, rest)
      | sign :: c :: letters =>
          if sign ≠ '-' ∧ sign ≠ '+' then return (true, argument :: rest)
          else do
            let on := sign == '-'
            let known : Char → Bool := fun c => optionNames.any (·.2 == c) ||
              (d == .rich && "hBHET".toList.contains c)
            match (c :: letters).find? fun c => c != 'o' && !known c with
            | some wrong => refuseOption name [sign, wrong]
            | none => do
                for c in c :: letters do
                  if c ≠ 'o' then switch on c
                if (c :: letters).contains 'o' then
                  match rest with
                  | option :: rest =>
                      match optionNamed? d option with
                      | some letter => do
                          switch on letter
                          options name rest
                      | none => refuseOption name ([sign, 'o', ' '] ++ option)
                  | [] => return (false, [])
                else options name rest
      | _ => return (true, argument :: rest)

/-- Show the options. -/
def showOptions (on : Bool) : Act Unit := do
  let s ← get
  let names := optionNames.map fun (name, letter) => (name.toList, s.has letter)
  let names := names.filter fun entry => entry.1 != []
  print (if on then
      "Current option settings\n".toList ++ names.flatMap fun (name, isOn) =>
        Text.pad true ' ' 16 name ++ (if isOn then "on\n" else "off\n").toList
    else names.flatMap fun (name, isOn) =>
      "set ".toList ++ (if isOn then '-' else '+') :: "o ".toList ++ name ++ ['\n'])
  done 0

/-- Turn options on and off, and set the parameters. -/
def set_ : Command := fun arguments => do
  match arguments with
  | [] => showVariables "" (·.value.isSome)
  | [['-', 'o']] => showOptions true
  | [['+', 'o']] => showOptions false
  | _ => do
      let (given, parameters) ← options "set" arguments
      if given then modify fun s => { s with parameters }
      done 0

/-- Drop the first parameters. -/
def shift : Command := fun arguments => do
  let n ← match arguments with
    | [] => pure 1
    | text :: _ => countOf "shift" text
  let s ← get
  if n > s.parameters.length then
    if s.dialect = .rich then done 1 else failIn "shift" "can't shift that many".toList
  else do
    modify fun s => { s with parameters := s.parameters.drop n }
    done 0

/-- Look at the next option among the parameters or the given arguments. -/
def getopts : Command := fun arguments => do
  match arguments with
  | letters :: name :: given => do
      let s ← get
      let arguments := if given.isEmpty then s.parameters else given
      let index := ((s.variableValue? "OPTIND".toList).bind Text.number?).getD 1
      let looked := s.looked
      let silent := letters.head? == some ':'
      let finish (answer : Text) (index looked status : Nat) : Act Unit := do
        assign "OPTIND".toList (Text.decimal index)
        modify fun s => { s with looked }
        if isName name then assign name answer
          else fail ("getopts: ".toList ++ name ++ ": bad variable name".toList)
        done status
      match arguments[index - 1]? with
      | none => do
          modify fun s => s.removeVariable "OPTARG".toList
          finish ['?'] index 0 1
      | some argument =>
          if looked = 0 ∧ argument = ['-', '-'] then do
            modify fun s => s.removeVariable "OPTARG".toList
            finish ['?'] (index + 1) 0 1
          else if looked = 0 ∧ (argument.head? ≠ some '-' ∨ argument.length < 2) then do
            modify fun s => s.removeVariable "OPTARG".toList
            finish ['?'] index 0 1
          else
            let place := if looked = 0 then 1 else looked
            let letter := (argument[place]?).getD '?'
            let after := argument.drop (place + 1)
            let next : Nat × Nat := if after.isEmpty then (index + 1, 0) else (index, place + 1)
            match (letters.dropWhile (· != letter)).take 2, letter with
            | _, ':' | [], _ => do
                if silent then assign "OPTARG".toList [letter]
                else do
                  modify fun s => s.removeVariable "OPTARG".toList
                  complain ("Illegal option -".toList ++ [letter])
                finish ['?'] next.1 next.2 0
            | [_, ':'], _ =>
                if ¬ after.isEmpty then do
                  assign "OPTARG".toList after
                  finish [letter] (index + 1) 0 0
                else match arguments[index]? with
                  | some value => do
                      assign "OPTARG".toList value
                      finish [letter] (index + 2) 0 0
                  | none =>
                      if silent then do
                        assign "OPTARG".toList [letter]
                        finish [':'] (index + 1) 0 0
                      else do
                        modify fun s => s.removeVariable "OPTARG".toList
                        complain ("No arg for -".toList ++ letter :: " option".toList)
                        finish ['?'] (index + 1) 0 0
            | _, _ => do
                assign "OPTARG".toList []
                finish [letter] next.1 next.2 0
  | _ => failIn "getopts" "Usage: getopts optstring var [arg...]".toList

/-! ### Reading -/

/-- A character of a line, and whether it may separate fields. -/
abbrev Cell := Char × Bool

/-- Does a cell separate fields? -/
def separates (separators : Text) (c : Cell) : Bool := c.2 && separators.contains c.1

/-- Is a cell a blank that separates fields? -/
def isGap (separators : Text) (c : Cell) : Bool :=
  separates separators c && (c.1 == ' ' || c.1 == '\t' || c.1 == '\n')

/-- The fields of a line for a number of variables, the last one of which gets all that is left. -/
def split (separators : Text) : (count : Nat) → List Cell → List Text
  | 0, _ => []
  | count + 1, line =>
      let line := line.dropWhile (isGap separators)
      let field := line.takeWhile (!separates separators ·)
      let rest := (line.drop field.length).dropWhile (isGap separators)
      let after := match rest with
        | c :: others =>
            if separates separators c then others.dropWhile (isGap separators) else rest
        | [] => []
      if count = 0 then
        if after.isEmpty then [field.map (·.1)]
        else [((line.reverse.dropWhile (isGap separators)).reverse).map (·.1)]
      else field.map (·.1) :: split separators count after

/-- The cells of a line, in which backslashes may take away the meaning of characters, and whether
the line goes on. -/
def cells (raw : Bool) : Text → List Cell × Bool
  | [] => ([], false)
  | ['\\', '\n'] => if raw then ([('\\', true)], false) else ([], true)
  | '\\' :: c :: rest =>
      if raw then
        let (found, more) := cells raw (c :: rest)
        (('\\', true) :: found, more)
      else
        let (found, more) := cells raw rest
        ((c, false) :: found, more)
  | ['\n'] => ([], false)
  | c :: rest =>
      let (found, more) := cells raw rest
      ((c, true) :: found, more)

/-- Read a line, and those after it if it goes on; whether the last one has an end is told too. -/
def readCells (raw : Bool) (stream : Nat) : (fuel : Nat) → Act (List Cell × Bool)
  | 0 => return ([], false)
  | fuel + 1 => do
      let (answer, job) := (← get).job.readLine stream
      onJob fun _ => job
      match answer with
      | .error _ => return ([], false)
      | .ok line => do
          let (found, more) := cells raw (line.filter (· != Char.ofNat 0))
          if more then do
            let (others, ended) ← readCells raw stream fuel
            return (found ++ others, ended)
          else return (found, line.getLast? == some '\n')

/-- Read a line into variables. -/
def read : Command := fun arguments => do
  let rich := (← get).dialect == .rich
  let rec prepare (raw : Bool) (list : Bool) (stream : Nat) :
      List Text → Bool × Bool × Nat × List Text
    | ['-', 'r'] :: rest => prepare true list stream rest
    | ['-', 'a'] :: rest => prepare raw true stream rest
    | ['-', 'r', 'a'] :: rest => prepare true true stream rest
    | ['-', 'p'] :: _ :: rest => prepare raw list stream rest
    | ['-', 'r', 'p'] :: _ :: rest => prepare true list stream rest
    | ['-', 'u'] :: n :: rest => prepare raw list ((Text.number? n).getD 0) rest
    | ['-', '-'] :: rest => (raw, list, stream, rest)
    | rest => (raw, list, stream, rest)
  let (raw, list, stream, names) := prepare false false 0 arguments
  match names.head? with
  | some ('-' :: c :: _) => refuseOption "read" ['-', c]
  | _ =>
      if names.isEmpty ∧ ¬ rich then failIn "read" "arg count".toList
      else match names.find? (!isName ·) with
        | some wrong => failIn "read" (wrong ++ ": bad variable name".toList)
        | none => do
            let (line, ended) ← readCells raw stream 100000
            let separators := (← get).separators
            if list then do
              let values := fields separators
                (line.map fun c => Piece.text [c.1] false c.2)
              let items := (values.zipIdx 0).map fun (v, n) => (Text.decimal n, v.map (·.1))
              for name in names do
                change name fun v => { v with items := some items, value := none }
            else if names.isEmpty then assign "REPLY".toList (line.map (·.1))
            else do
              let values := split separators names.length line
              for (name, value) in names.zip values do
                assign name value
            done (if ended then 0 else 1)

/-- Read lines into a list. -/
def readLines : Command := fun arguments => do
  let chops := arguments.contains ['-', 't']
  let name := ((arguments.filter (·.head? != some '-')).head?).getD "MAPFILE".toList
  let (answer, job) := (← get).job.readAll 0
  onJob fun _ => job
  let lines := Text.lines (answer.toOption.getD [])
  let items := (lines.zipIdx 0).map fun (line, n) =>
    (Text.decimal n, if chops then Text.chopped line else line)
  change name fun v => { v with items := some items, value := none }
  done 0

/-! ### Aliases and names -/

/-- Show or make aliases. -/
def setAliases : Command := fun arguments => do
  let shown (entry : Text × Text) : Text := entry.1 ++ '=' :: singleQuoted entry.2 ++ ['\n']
  if arguments.isEmpty then do
    let entries := (← get).aliases.mergeSort fun a b => Text.precedes a.1 b.1
    print (entries.flatMap shown)
    done 0
  else do
    done 0
    for argument in arguments do
      match assignedIn argument with
      | (name, some text) =>
          modify fun s => { s with aliases := (name, text) :: s.aliases.filter (·.1 != name) }
      | (name, none) =>
          match (← get).aliases.lookup name with
          | some text => print (shown (name, text))
          | none => do
              complain ("alias: ".toList ++ name ++ " not found".toList)
              done 1

/-- Forget aliases. -/
def dropAliases : Command := fun arguments => do
  done 0
  for name in arguments do
    if name = ['-', 'a'] then modify fun s => { s with aliases := [] }
    else if ((← get).aliases.lookup name).isSome then
      modify fun s => { s with aliases := s.aliases.filter (·.1 != name) }
    else do
      complain ("unalias: ".toList ++ name ++ " not found".toList)
      done 1

/-- The commands in which a mistake ends the run. -/
def specialNames : List String :=
  [".", ":", "break", "continue", "eval", "exec", "exit", "export", "local", "readonly", "return",
    "set", "shift", "times", "trap", "unset"]

/-- Does a mistake in the command end the run? -/
def isSpecial (name : Text) : Bool := specialNames.contains (String.ofList name)

/-- The other commands that a shell runs itself. -/
def regularNames : List String :=
  ["[", "alias", "bg", "cd", "chdir", "command", "echo", "false", "fg", "getopts", "hash", "jobs",
    "kill", "printf", "pwd", "read", "test", "true", "type", "ulimit", "umask", "unalias",
    "wait"]

/-- The commands that only a rich shell runs itself. -/
def richNames : List String :=
  ["builtin", "declare", "let", "mapfile", "readarray", "shopt", "source", "typeset"]

/-- Does the shell run the command itself? -/
def isOwn (d : Dialect) (name : Text) : Bool :=
  let name := String.ofList name
  specialNames.contains name || regularNames.contains name ||
    (d == .rich && richNames.contains name)

/-- The directories in which programs are looked for. -/
def directories (s : State) : Text :=
  (s.variableValue? "PATH".toList).getD usualDirectories.toList

/-- Say what a name stands for, in a few words or in a sentence. -/
def describe (brief : Bool) (name : Text) : Act Unit := do
  let s ← get
  let say (short long : Text) : Act Unit := do
    print ((if brief then short else name ++ long) ++ ['\n'])
    done 0
  let is (text : String) : Act Unit := say name text.toList
  if keywords.contains (String.ofList name) ∨
      (s.dialect = .rich ∧ richKeywords.contains (String.ofList name)) then
    is " is a shell keyword"
  else match s.aliases.lookup name with
    | some text =>
        say ("alias ".toList ++ name ++ '=' :: singleQuoted text)
          (" is an alias for ".toList ++ text)
    | none =>
        if (s.functions.lookup name).isSome then
          is (if s.dialect = .rich then " is a function" else " is a shell function")
        else if isOwn s.dialect name then
          is (if s.dialect = .plain ∧ isSpecial name then " is a special shell builtin"
            else " is a shell builtin")
        else match search s.job.disk (directories s) name with
          | .ok path => say path (" is ".toList ++ path)
          | .error _ => do
              if s.dialect = .rich then do
                if ¬ brief then blame ("type: ".toList ++ name ++ ": not found".toList)
                done 1
              else do
                if ¬ brief then print (name ++ ": not found\n".toList)
                done 127

/-- What kind of thing a name stands for, in a rich shell. -/
def kindOf? (s : State) (name : Text) : Option String :=
  if (s.aliases.lookup name).isSome then some "alias"
  else if keywords.contains (String.ofList name) ∨ richKeywords.contains (String.ofList name) then
    some "keyword"
  else if (s.functions.lookup name).isSome then some "function"
  else if isOwn s.dialect name then some "builtin"
  else match search s.job.disk (directories s) name with
    | .ok _ => some "file"
    | .error _ => none

/-- Say what names stand for. -/
def type : Command := fun arguments => do
  let s ← get
  let rich := s.dialect == .rich
  let (answer, names) : Option (State → Text → Option Text) × List Text :=
    match rich, arguments with
    | true, ['-', 't'] :: names => (some fun s name => (kindOf? s name).map (·.toList), names)
    | true, ['-', 'p'] :: names | true, ['-', 'P'] :: names =>
        (some fun s name => if kindOf? s name = some "file" ∨ arguments.head? = some ['-', 'P'] then
            (search s.job.disk (directories s) name).toOption
          else (kindOf? s name).map fun _ => [], names)
    | _, names => (none, names)
  done 0
  for name in names do
    let before := (← get).status
    match answer with
    | none => describe false name
    | some answer =>
        match answer s name with
        | some text => do
            if ¬ text.isEmpty then print (text ++ ['\n'])
            done 0
        | none => done 1
    if before ≠ 0 then done before

/-! ### Processes -/

/-- The names of the signals, from number 0 on.  Those without a name have their number. -/
def signalNames : List Text :=
  let plain : List Text := ExitStatus.signalNames.map fun name => name.toList.drop 3
  let named : List Text := (plain.set 15 "16".toList).set 28 "IO".toList
  let counted (stem : String) (n : Nat) : Text := stem.toList ++ Text.decimal n
  "EXIT".toList :: named ++ ["32".toList, "33".toList, "RTMIN".toList] ++
    (List.range 15).map (fun n => counted "RTMIN+" (n + 1)) ++
    (List.range 14).map (fun n => counted "RTMAX-" (14 - n)) ++ ["RTMAX".toList]

/-- The number of a signal, by name or number. -/
def signal? (text : Text) : Option Nat :=
  match Text.number? text with
  | some n => if n < 65 then some n else none
  | none => signalNames.findIdx? (· == text.map Char.toUpper)

/-- The name of a signal. -/
def signalName (n : Nat) : Text := (signalNames[n]?).getD (Text.decimal n)

/-- The signals that nobody minds. -/
def isHarmless (n : Nat) : Bool := [0, 17, 18, 19, 20, 21, 22, 23, 28].contains n

/-- Send a signal to a process. -/
def send (signal : Nat) (target : Text) : Act Unit := do
  let s ← get
  let background := s.waiting.find? fun b =>
    Text.decimal b.number == target || (target.head? == some '%')
  match Text.integer? target, background with
  | _, some b => do
      if ¬ isHarmless signal then
        modify fun s => { s with
          waiting := s.waiting.filter (·.number != b.number)
          finished := (b.number, 128 + signal) :: s.finished }
  | some n, none => do
      let number := n.toNat
      if n > 0 ∧ (number = s.job.number ∨ number = s.shellNumber ∨ number = s.job.parent) then
        onJob fun j => { j with signals := j.signals ++ [(number, signal)] }
      else if n = 0 then
        onJob fun j => { j with signals := j.signals ++ [(s.shellNumber, signal)] }
      else do
        blame "kill: No such process\n".toList
        done 1
  | none, none => failIn "kill" ("Illegal number: ".toList ++ target)

/-- Send a signal to processes. -/
def kill : Command := fun arguments => do
  let usage : Act Unit := failIn "kill"
    ("Usage: kill [-s sigspec | -signum | -sigspec] [pid | job]... or\n".toList ++
      "kill -l [exitstatus]".toList)
  let sendAll (signal : Nat) (targets : List Text) : Act Unit := do
    if targets.isEmpty then usage
    else do
      done 0
      for target in targets do
        send signal target
  match arguments with
  | ['-', 'l'] :: [] => do
      print (Text.unlines (['0'] :: signalNames.drop 1))
      done 0
  | ['-', 'l'] :: n :: _ => do
      let n ← countOf "kill" n
      print (signalName (if n > 128 then n - 128 else n) ++ ['\n'])
      done 0
  | ['-', 's'] :: name :: targets =>
      match signal? name with
      | some signal => sendAll signal targets
      | none => failIn "kill" ("invalid signal number or name: ".toList ++ name)
  | ['-', '-'] :: targets => sendAll 15 targets
  | ('-' :: c :: name) :: targets => do
      let rich := (← get).dialect == .rich
      let word := c :: name
      let word := if rich ∧ "SIG".toList.isPrefixOf word then word.drop 3 else word
      match signal? word with
      | some signal => sendAll signal targets
      | none => refuseOption "kill" ['-', c]
  | targets => sendAll 15 targets

/-- Show or set what to do on signals. -/
def trap : Command := fun arguments => do
  let arguments := match arguments with
    | ['-', '-'] :: rest => rest
    | arguments => arguments
  let rich := (← get).dialect == .rich
  let shown : Option (List Text) := match rich, arguments with
    | _, [] => some []
    | true, ['-', 'p'] :: names => some names
    | _, _ => none
  match arguments, shown with
  | _, some chosen => do
      let traps := (← get).traps
      let isChosen (name : Text) : Bool := chosen.isEmpty || chosen.any fun c =>
        c == name || c == "SIG".toList ++ name
      print ((signalNames.filter isChosen).flatMap fun name =>
        match traps.lookup name with
        | some action => "trap -- ".toList ++ singleQuoted action ++ ' ' ::
            (if rich ∧ name ≠ "EXIT".toList then "SIG".toList else []) ++ name ++ ['\n']
        | none => [])
      done 0
  | [], none => done 0
  | first :: rest, none => do
      let (action, names) :=
        if rest.isEmpty ∨ (Text.number? first).isSome then (['-'], first :: rest)
        else (first, rest)
      done 0
      for name in names do
        let word := name.map Char.toUpper
        let word := if rich ∧ "SIG".toList.isPrefixOf word then word.drop 3 else word
        match signal? word with
        | some n =>
            let name := signalName n
            let own := if action = ['-'] then [] else [(name, action)]
            modify fun s => { s with traps := own ++ s.traps.filter (·.1 != name) }
        | none =>
            if rich ∧ (word = "ERR".toList ∨ word = "DEBUG".toList ∨ word = "RETURN".toList) then
              let own := if action = ['-'] then [] else [(word, action)]
              modify fun s => { s with traps := own ++ s.traps.filter (·.1 != word) }
            else do
              complain ("trap: ".toList ++ name ++ ": bad trap".toList)
              done 1

/-- The rights that a mask leaves to the owner, the group and the others. -/
def leftRights (mask : Nat) : Text :=
  let rights (n : Nat) : Text :=
    (if n &&& 4 = 0 then ['r'] else []) ++ (if n &&& 2 = 0 then ['w'] else []) ++
      (if n &&& 1 = 0 then ['x'] else [])
  "u=".toList ++ rights (mask / 64) ++ ",g=".toList ++ rights (mask / 8 % 8) ++ ",o=".toList ++
    rights (mask % 8) ++ ['\n']

/-- Show or set which rights new files do not have. -/
def umask : Command := fun arguments => do
  let mask := (← get).mask
  match arguments with
  | [] => do
      print (Text.pad false '0' 4 (Nat.toDigits 8 mask) ++ ['\n'])
      done 0
  | [['-', 'S']] => do
      print (leftRights mask)
      done 0
  | digits :: _ =>
      if digits.all fun c => '0' ≤ c && c ≤ '7' then do
        modify fun s => { s with mask := Text.ofDigits 8 digits % 512 }
        done 0
      else if digits.head?.any Char.isDigit then
        refuse 2 "umask" ("Illegal number: ".toList ++ digits)
      else done 0

/-- Leave loops or begin their next round. -/
def leaveLoops (name : String) (f : Nat → Stop) : Command := fun arguments => do
  let n ← match arguments with
    | [] => pure 1
    | text :: _ => countOf name text
  if n = 0 then failIn name "Illegal number: 0".toList
  else do
    done 0
    let loops := (← get).loops
    if loops > 0 then throw (f (min n loops))

/-- The status that an argument gives, or else the one of the last command. -/
def statusIn (name : String) (arguments : List Text) : Act Nat := do
  match arguments with
  | [] => return (← get).status
  | text :: _ => countOf name text

/-- End the shell.  What is done on a signal or at the end leaves the status as it was before. -/
def exit : Command := fun arguments => do
  let s ← get
  if arguments.isEmpty then done (s.trapped.getD s.status)
  else if s.dialect = .rich ∧ (Text.integer? (arguments.headD [])).isNone then
    refuse 2 "exit" (arguments.headD [] ++ ": numeric argument required".toList)
  else if s.dialect = .rich then
    done (((Text.integer? (arguments.headD [])).getD 0) % 256).toNat
  else do
    let status ← statusIn "exit" arguments
    done (status % 256)
  throw .exit

/-- End the function or the file that is being read. -/
def return_ : Command := fun arguments => do
  let s ← get
  if s.dialect = .rich ∧ s.hidden.isEmpty ∧ ¬ s.sourced then
    refuse 2 "return" "can only be used in a function or in a file that is read".toList
  else if s.dialect = .rich ∧ ¬ arguments.isEmpty then do
    match Text.integer? (arguments.headD []) with
    | some n => done (n % 256).toNat
    | none => refuse 2 "return" (arguments.headD [] ++ ": numeric argument required".toList)
    throw .return
  else do
    done (← statusIn "return" arguments)
    throw .return

/-- Print a text whatever the arguments are. -/
def say (text : String) : Command := fun _ => do
  print text.toList
  done 0

/-- Show a limit, or set one, which changes nothing. -/
def limit : Command := fun arguments => do
  let operands := arguments.filter fun a => a.head? != some '-'
  if operands.isEmpty then print "unlimited\n".toList
  done 0

/-- The command with a name, if it does not run others. -/
def find? (d : Dialect) (name : Text) : Option Command :=
  match String.ofList name, d with
  | ":", _ | "true", _ | "hash", _ | "jobs", _ => some fun _ => done 0
  | "false", _ => some fun _ => done 1
  | "echo", _ => some echo
  | "printf", _ => some printf
  | "test", _ => some (test "test")
  | "[", _ => some (test "[")
  | "cd", _ | "chdir", _ => some cd
  | "pwd", _ => some pwd
  | "export", _ => some export_
  | "readonly", _ => some readonly
  | "local", _ => some local_
  | "unset", _ => some unset
  | "set", _ => some set_
  | "shift", _ => some shift
  | "getopts", _ => some getopts
  | "read", _ => some read
  | "alias", _ => some setAliases
  | "unalias", _ => some dropAliases
  | "type", _ => some type
  | "kill", _ => some kill
  | "trap", _ => some trap
  | "umask", _ => some umask
  | "ulimit", _ => some limit
  | "times", _ => some (say "0m0.000000s 0m0.000000s\n0m0.000000s 0m0.000000s\n")
  | "bg", _ | "fg", _ => some fun _ => failIn (String.ofList name) "No current job".toList
  | "break", _ => some (leaveLoops "break" .leave)
  | "continue", _ => some (leaveLoops "continue" .again)
  | "exit", _ => some exit
  | "return", _ => some return_
  | "declare", .rich | "typeset", .rich => some declare
  | "mapfile", .rich | "readarray", .rich => some readLines
  | "shopt", .rich => some fun _ => done 0
  | _, _ => none

end LtoBridge.Shell.Builtin
