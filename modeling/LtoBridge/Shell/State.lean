/-
**The state of a shell.**

A part of a script can have a state of its own, which begins as that of the shell is.  What it does
with files is seen by the shell, but values of variables and the like are not.

Main definitions:

* `LtoBridge.Shell.Variable`, `LtoBridge.Shell.Setting`, `LtoBridge.Shell.State`;
* `LtoBridge.Shell.Stop`, `LtoBridge.Shell.Act`: steps that change the state and may stop the run;
* `LtoBridge.Shell.State.value?`, `LtoBridge.Shell.Act.assign`: parameters and variables;
* `LtoBridge.Shell.Act.blame`, `LtoBridge.Shell.Act.print`: output.
-/

import LtoBridge.Programs.Job
import LtoBridge.Shell.Source

set_option autoImplicit false

namespace LtoBridge.Shell

open LtoBridge.Programs (Text Job)

/-! ### States -/

/-- A variable. -/
structure Variable where
  value : Option Text := none
  /-- Do other programs see it? -/
  exported : Bool := false
  /-- Does it keep its value? -/
  fixed : Bool := false
  /-- The values of a list, each with its number or name. -/
  items : Option (List (Text × Text)) := none
  /-- Are those known by names, and not by numbers? -/
  named : Bool := false
  /-- Is what is assigned an expression? -/
  calculated : Bool := false

/-- What a part of a script with a state of its own has from the shell. -/
structure Setting where
  dialect : Dialect := .plain
  /-- The name of the script. -/
  name : Text := "sh".toList
  /-- The line of the script that is being run. -/
  line : Nat := 1
  parameters : List Text := []
  bindings : List (Text × Variable) := []
  /-- For each function at work, the variables that it has hidden. -/
  hidden : List (List (Text × Option Variable)) := []
  functions : List (Text × Command) := []
  aliases : List (Text × Text) := []
  /-- What to do on a signal or at the end, by name. -/
  traps : List (Text × Text) := []
  /-- The letters of the options that are on. -/
  options : List Char := []
  /-- The status of the last command. -/
  status : Nat := 0
  /-- The status of the last command substitution in a command, if there was one. -/
  substituted : Option Nat := none
  /-- The path of the current directory, as it has been given. -/
  directory : Text := []
  /-- Is what is being run in a file that has been read for that? -/
  sourced : Bool := false
  /-- The status before what is being done on a signal or at the end. -/
  trapped : Option Nat := none
  /-- The rights that new files do not have. -/
  mask : Nat := 18
  /-- How many loops there are around a command. -/
  loops : Nat := 0
  /-- How many characters of an argument have been looked at for options. -/
  looked : Nat := 0
  /-- The process that was last not waited for. -/
  lastNumber : Option Nat := none
  /-- The process of the shell itself. -/
  shellNumber : Nat := 0

/-- A command that nobody waits for.  It is run as soon as somebody does or the shell ends. -/
structure Background where
  number : Nat
  command : Command
  setting : Setting
  current : Location
  descriptors : List (Nat × Nat)

/-- The state of a shell. -/
structure State extends Setting where
  job : Job
  waiting : List Background := []
  /-- The processes that have ended, with their status. -/
  finished : List (Nat × Nat) := []

/-- Why a run does not go on with the next command. -/
inductive Stop
  | exit
  /-- Something makes no sense. -/
  | error
  | killed (signal : Nat)
  /-- Leave a number of loops. -/
  | leave (loops : Nat)
  /-- Leave a number of loops and begin the next round of the one around them. -/
  | again (loops : Nat)
  | return
  deriving DecidableEq

/-- A step of a run. -/
abbrev Act (α : Type) := ExceptT Stop (StateM State) α

namespace State

/-- Is an option on? -/
def has (s : State) (letter : Char) : Bool := s.options.contains letter

/-! ### Variables -/

/-- The variable with a name. -/
def lookUp? (s : State) (name : Text) : Option Variable := s.bindings.lookup name

/-- The state with a variable, which stays where it is among the others. -/
def setVariable (s : State) (name : Text) (v : Variable) : State :=
  if s.bindings.any (·.1 == name) then
    { s with bindings := s.bindings.map fun entry =>
        if entry.1 == name then (name, v) else entry }
  else { s with bindings := (name, v) :: s.bindings }

/-- The state without a variable. -/
def removeVariable (s : State) (name : Text) : State :=
  { s with bindings := s.bindings.filter (·.1 != name) }

/-- The state with a variable as it was before. -/
def restoreVariable (s : State) (name : Text) : Option Variable → State
  | some v => s.setVariable name v
  | none => s.removeVariable name

/-- The value of a variable, which of a list is the first one. -/
def variableValue? (s : State) (name : Text) : Option Text :=
  (s.lookUp? name).bind fun v =>
    match v.items with
    | some items => items.lookup ['0']
    | none => v.value

/-- The characters that separate fields. -/
def separators (s : State) : Text :=
  match s.lookUp? "IFS".toList with
  | some v => v.value.getD []
  | none => [' ', '\t', '\n']

/-- The character between parameters that are put together. -/
def glue (s : State) : Text := s.separators.take 1

/-- The letters of options, in the order in which they are shown. -/
def shownOptions : List Char := "ubaCvxsnfe".toList

/-- The value of a parameter; all positional ones are put together. -/
def value? (s : State) (name : Text) : Option Text :=
  match Text.number? name with
  | some 0 => some s.name
  | some (n + 1) => s.parameters[n]?
  | none =>
      match name with
      | ['#'] => some (Text.decimal s.parameters.length)
      | ['?'] => some (Text.decimal s.status)
      | ['$'] => some (Text.decimal s.shellNumber)
      | ['-'] => some (shownOptions.filter s.has)
      | ['!'] => s.lastNumber.map Text.decimal
      | ['*'] => if s.parameters.isEmpty then none else some (s.glue.intercalate s.parameters)
      | ['@'] => if s.parameters.isEmpty then none else some ([' '].intercalate s.parameters)
      | _ =>
          if s.dialect = .rich ∧ name = "LINENO".toList then some (Text.decimal s.line)
          else s.variableValue? name

/-- The variables that other programs see. -/
def environment (s : State) : List (Text × Text) :=
  s.bindings.reverse.filterMap fun (name, v) =>
    if v.exported then v.value.map (name, ·) else none

end State

/-! ### Steps -/

namespace Act

/-- End the command with a status. -/
def done (status : Nat) : Act Unit := modify fun s => { s with status }

/-- Change the job. -/
def onJob (f : Job → Job) : Act Unit := modify fun s => { s with job := f s.job }

/-- Go on after output, which may have ended the run. -/
def checkPipe : Act Unit := do
  if (← get).job.brokenPipe then throw (.killed Programs.pipeSignal)

/-- Write a text to a stream. -/
def write (stream : Nat) (text : Text) : Act Unit := do
  onJob (·.write stream text)
  checkPipe

/-- Write a text to the output. -/
def print (text : Text) : Act Unit := write 1 text

/-- Write a line to where errors go. -/
def complain (text : Text) : Act Unit := onJob (·.complain text)

/-- What is said about the script before a complaint. -/
def place : Act Text := do
  let s ← get
  let line := if s.dialect = .rich then "line ".toList ++ Text.decimal s.line
    else Text.decimal s.line
  return s.name ++ ": ".toList ++ line ++ ": ".toList

/-- Complain about the script. -/
def blame (text : Text) : Act Unit := do complain ((← place) ++ text)

/-- Complain in the name of a command, and give it a status. -/
def refuse (status : Nat) (name : String) (text : Text) : Act Unit := do
  blame (name.toList ++ ": ".toList ++ text)
  done status

/-- Complain, and stop what is being run. -/
def fail {α : Type} (text : Text) : Act α := do
  blame text
  done (if (← get).dialect = .rich then 1 else 2)
  throw .error

/-- Complain in the name of a command, and stop what is being run. -/
def failIn {α : Type} (name : String) (text : Text) : Act α :=
  fail (name.toList ++ ": ".toList ++ text)

/-- How the opening of a file to write to is called if it fails. -/
def creationErrorText (e : OsError) : Text :=
  match e with
  | .noEntry => "Directory nonexistent".toList
  | e => Job.errorText e

/-- How the opening of a file to read from is called if it fails. -/
def openingErrorText (e : OsError) : Text :=
  match e with
  | .noEntry => "No such file".toList
  | e => Job.errorText e

/-! ### Variables -/

/-- Change a variable, unless it keeps its value. -/
def change (name : Text) (f : Variable → Variable) : Act Unit := do
  let s ← get
  let v := (s.lookUp? name).getD {}
  if v.fixed then
    if s.dialect = .rich then do
      blame (name ++ ": readonly variable".toList)
      done 1
      throw .error
    else fail (name ++ ": is read only".toList)
  else
    let v := f v
    modify fun s => s.setVariable name
      { v with exported := v.exported || s.has 'a' }
    if name = "OPTIND".toList then modify fun s => { s with looked := 0 }

/-- Put a value under a number or a name in a list; numbers are kept in order. -/
def place_ (key value : Text) : List (Text × Text) → List (Text × Text)
  | [] => [(key, value)]
  | (k, v) :: rest =>
      if k = key then (key, value) :: rest
      else match Text.number? key, Text.number? k with
        | some m, some n =>
            if m < n then (key, value) :: (k, v) :: rest else (k, v) :: place_ key value rest
        | _, _ => (k, v) :: place_ key value rest

/-- Assign a value to a variable. -/
def assign (name value : Text) : Act Unit := change name fun v =>
  match v.items with
  | some items => { v with items := some (place_ ['0'] value items) }
  | none => { v with value := some value }

/-- Assign a value to a variable that other programs see. -/
def assignExported (name value : Text) : Act Unit :=
  change name fun v => { v with value := some value, exported := true }

/-- Forget a variable. -/
def forget (name : Text) : Act Unit := do
  match (← get).lookUp? name with
  | none => pure ()
  | some v =>
      if v.fixed then failIn "unset" (name ++ ": is read only".toList)
      else modify fun s => s.removeVariable name

/-- Hide a variable until the function at work ends. -/
def hide (name : Text) : Act Unit := modify fun s =>
  match s.hidden with
  | [] => s
  | own :: others =>
      if own.any (·.1 == name) then s
      else { s with hidden := ((name, s.lookUp? name) :: own) :: others }

/-- Run a step, and see how it ended. -/
def attempt {α : Type} (a : Act α) : Act (Except Stop α) := fun s =>
  match a s with
  | (r, s) => (.ok r, s)

end Act

end LtoBridge.Shell
