/-
**The state of a program for records.**

Some variables are tied to the records: a change of one is a change of the other.  Tables have
numbers, so that a function can be given one.

Main definitions:

* `LtoBridge.Awk.State`, `LtoBridge.Awk.Stop`, `LtoBridge.Awk.Act`;
* `LtoBridge.Awk.Act.value`, `LtoBridge.Awk.Act.assign`: variables;
* `LtoBridge.Awk.Act.field`, `LtoBridge.Awk.Act.setField`, `LtoBridge.Awk.Act.setRecord`;
* `LtoBridge.Awk.Act.nextRecord`: the records of the input;
* `LtoBridge.Awk.Act.put`, `LtoBridge.Awk.Act.flush`: the output.
-/

import LtoBridge.Awk.Value
import LtoBridge.Programs.Job
import Std.Data.HashMap

set_option autoImplicit false

namespace LtoBridge.Awk

open LtoBridge.Programs (Text Job Launch)

/-- What a name stands for within a function. -/
inductive Slot
  /-- Nothing yet; if it is used as a table, it is the one with the number. -/
  | free (table : Nat)
  | value (v : Value)
  | table (n : Nat)

/-- The values of a table by their keys, and the keys in reversed order. -/
structure Table where
  values : Std.HashMap String Value := {}
  keys : List Text := []

namespace Table

/-- The value for a key. -/
def get? (t : Table) (key : Text) : Option Value := t.values.get? (String.ofList key)

/-- Is there a value for a key? -/
def has (t : Table) (key : Text) : Bool := t.values.contains (String.ofList key)

/-- The table with a value for a key. -/
def insert (t : Table) (key : Text) (v : Value) : Table :=
  { values := t.values.insert (String.ofList key) v
    keys := if t.has key then t.keys else key :: t.keys }

/-- The table without a key. -/
def erase (t : Table) (key : Text) : Table :=
  if t.has key then
    { values := t.values.erase (String.ofList key), keys := t.keys.filter (· != key) }
  else t

/-- The table with values for the numbers from 1 on. -/
def ofList (values : List Value) : Table :=
  (values.foldl (fun (t, n) v => (t.insert (Text.decimal n) v, n + 1)) (({} : Table), 1)).1

end Table

/-- The state of a program. -/
structure State where
  launch : Launch
  job : Job
  functions : List (Text × Function) := []
  bindings : Std.HashMap String Value := {}
  /-- The numbers of the tables that are variables. -/
  tableNumbers : List (Text × Nat) := []
  tables : Std.HashMap Nat Table := {}
  nextTable : Nat := 1
  /-- What names stand for in the function at work. -/
  locals : Option (List (Text × Slot)) := none
  record : Text := []
  fields : Array Value := #[]
  /-- The arguments of which none has been read yet. -/
  operands : List Text := []
  /-- Has a file been named? -/
  isNamed : Bool := false
  /-- What is left of the file that is being read. -/
  input : Option Text := none
  /-- What is left of other files and of what commands have printed. -/
  streams : List (Bool × Text × Text) := []
  /-- The files that are being written. -/
  files : List (Text × Nat) := []
  /-- What has been printed for commands, the last piece first. -/
  pipes : List (Text × List Text) := []
  /-- What has been printed and not been passed on yet, the last piece first. -/
  held : List Text := []
  /-- The number of characters in that. -/
  heldSize : Nat := 0
  /-- The rules whose first condition has been met, but not the last one. -/
  active : List Nat := []
  /-- The status that the program will have. -/
  status : Nat := 0
  seed : Nat := 0

/-- The state in which a name of the function at work stands for something else. -/
def State.bind (s : State) (name : Text) (slot : Slot) : State :=
  { s with locals := s.locals.map fun own =>
      own.map fun (l : Text × Slot) => if l.1 == name then (name, slot) else l }

/-- Why a run does not go on. -/
inductive Stop
  | next
  | nextFile
  | exit
  | break_
  | continue_
  | return_ (v : Value)
  | failure (complaint : Text)

/-- A step, which can stop the run. -/
abbrev Act := ExceptT Stop (StateM State)

namespace Act

/-- Stop with a complaint. -/
def fail {α : Type} (complaint : String) : Act α := throw (.failure complaint.toList)

/-! ### Variables -/

/-- What variables are at the beginning. -/
def usualVariables : List (String × Value) :=
  [("FS", .text [' ']), ("OFS", .text [' ']), ("RS", .text ['\n']), ("ORS", .text ['\n']),
    ("CONVFMT", .text "%.6g".toList), ("OFMT", .text "%.6g".toList),
    ("SUBSEP", .text ['\x1c']), ("NR", .ofInt 0), ("FNR", .ofInt 0), ("RSTART", .ofInt 0),
    ("RLENGTH", .ofInt (-1)), ("FILENAME", .nothing)]

/-- A variable by its name. -/
def global (name : String) : Act Value := do
  return ((← get).bindings.get? name).getD .nothing

/-- How numbers become texts. -/
def numberFormat : Act Text := do
  match ← global "CONVFMT" with
  | .text t | .input t => return t
  | _ => return "%.6g".toList

/-- A value as a text. -/
def textOf (v : Value) : Act Text := do
  match v with
  | .text t | .input t => return t
  | v => return v.toText (← numberFormat)

/-- A variable by its name, as a text. -/
def globalText (name : String) : Act Text := do textOf (← global name)

/-- Set a variable by its name. -/
def setGlobal (name : String) (v : Value) : Act Unit :=
  modify fun s => { s with bindings := s.bindings.insert name v }

/-! ### Records -/

/-- Take a text as the record. -/
def setRecord (text : Text) : Act Unit := do
  let separator ← globalText "FS"
  let separator := if (← globalText "RS").isEmpty ∧ separator ≠ [' '] then
      if separator.length = 1 then ['\n', '|', '['] ++ separator ++ [']']
      else ['\n', '|'] ++ separator
    else separator
  modify fun s => { s with
    record := text
    fields := ((split separator text).map Value.input).toArray }

/-- Put the record together from its fields. -/
def joinFields : Act Unit := do
  let separator ← globalText "OFS"
  let texts ← (← get).fields.toList.mapM textOf
  modify fun s => { s with record := separator.intercalate texts }

/-- A field by its number; the whole record is number 0. -/
def field (n : Int) : Act Value := do
  let s ← get
  if n < 0 then fail "negative field index"
  else if n = 0 then return .input s.record
  else return (s.fields[n.toNat - 1]?).getD .nothing

/-- The fields, as many as wanted. -/
def resized (fields : Array Value) (n : Nat) : Array Value :=
  (fields.toList.take n ++ List.replicate (n - fields.size) (Value.input [])).toArray

/-- Set a field by its number. -/
def setField (n : Int) (v : Value) : Act Unit := do
  if n < 0 ∨ n > 1000000 then fail "field index out of range"
  else if n = 0 then setRecord (← textOf v)
  else do
    modify fun s => { s with
      fields := (resized s.fields (max s.fields.size n.toNat)).setIfInBounds (n.toNat - 1) v }
    joinFields

/-- The value of a variable. -/
def value (name : Text) : Act Value := do
  let s ← get
  match s.locals.bind (·.lookup name) with
  | some (.value v) => return v
  | some (.free _) => return .nothing
  | some (.table _) => fail "a table has no value"
  | none =>
      if name = "NF".toList then return .ofInt s.fields.size
      else return (s.bindings.get? (String.ofList name)).getD .nothing

/-- Set a variable. -/
def assign (name : Text) (v : Value) : Act Unit := do
  let s ← get
  match s.locals with
  | some own =>
      if own.any (·.1 == name) then
        set (s.bind name (.value v))
      else setGlobal (String.ofList name) v
  | none => setGlobal (String.ofList name) v
  if name = "NF".toList then do
    let n := v.toInt
    if n < 0 ∨ n > 1000000 then fail "NF out of range"
    else do
      modify fun s => { s with fields := resized s.fields n.toNat }
      joinFields

/-! ### Tables -/

/-- The number of the table that a name stands for. -/
def tableNumber (name : Text) : Act Nat := do
  let s ← get
  match s.locals.bind (·.lookup name) with
  | some (.table n) => return n
  | some (.free n) => do
      modify (·.bind name (.table n))
      return n
  | some (.value _) => fail "a value is no table"
  | none =>
      match s.tableNumbers.lookup name with
      | some n => return n
      | none => do
          set { s with
            tableNumbers := (name, s.nextTable) :: s.tableNumbers
            nextTable := s.nextTable + 1 }
          return s.nextTable

/-- The table with a number. -/
def table (n : Nat) : Act Table := do return ((← get).tables.get? n).getD {}

/-- Change the table with a number. -/
def changeTable (n : Nat) (f : Table → Table) : Act Unit := modify fun s =>
  let t := (s.tables.get? n).getD {}
  { s with tables := (s.tables.erase n).insert n (f t) }

/-! ### Input -/

/-- The next record of a text, and what is left of it. -/
def cutRecord (separator text : Text) : Option (Text × Text) :=
  match separator with
  | [] =>
      let text := text.dropWhile (· == '\n')
      if text.isEmpty then none
      else match Text.cutAt? ['\n', '\n'] text with
        | some (record, rest) => some (record, rest.dropWhile (· == '\n'))
        | none => some (Text.chopped text, [])
  | [c] =>
      if text.isEmpty then none
      else
        let record := text.takeWhile (· != c)
        some (record, text.drop (record.length + 1))
  | _ =>
      if text.isEmpty then none
      else match (pattern separator).find? text with
        | some (start, stop) =>
            if stop.position = 0 then some (text, []) else some (start.before.reverse, stop.after)
        | none => some (text, [])

/-- A value that an argument assigns to a variable. -/
def assignment? (argument : Text) : Option (Text × Text) :=
  let name := argument.takeWhile fun c => c.isAlphanum || c == '_'
  match argument.drop name.length with
  | '=' :: value =>
      if name.head?.any fun c => c.isAlpha || c == '_' then
        some (name, (({} : Programs.Escapes).unescape value).1)
      else none
  | _ => none

/-- Go on to the next file of the input, if there is one. -/
def nextInput : (operands : List Text) → Act Bool
  | [] => do
      if (← get).isNamed then return false
      else do
        let (text, job) := (← get).job.readAll 0
        modify fun s => { s with job, isNamed := true, operands := [] }
        match text with
        | .ok text => do
            modify fun s => { s with input := some text }
            return true
        | .error _ => return false
  | operand :: rest => do
      if operand.isEmpty then nextInput rest
      else match assignment? operand with
        | some (name, text) => do
            assign name (.input text)
            nextInput rest
        | none => do
            let (text, job) := (← get).job.fileText operand
            modify fun s => { s with job, isNamed := true, operands := rest }
            setGlobal "FILENAME" (.text operand)
            setGlobal "FNR" (.ofInt 0)
            match text with
            | .ok text => do
                modify fun s => { s with input := some text }
                return true
            | .error e => do
                throw (.failure ("cannot open \"".toList ++ operand ++ "\" (".toList ++
                  Job.errorText e ++ [')']))

/-- The next record of the input. -/
def nextRecord : (fuel : Nat) → Act (Option Text)
  | 0 => return none
  | fuel + 1 => do
      let s ← get
      match s.input with
      | some text => do
          match cutRecord (← globalText "RS") text with
          | some (record, rest) => do
              modify fun s => { s with input := some rest }
              setGlobal "NR" (.ofInt ((← global "NR").toInt + 1))
              setGlobal "FNR" (.ofInt ((← global "FNR").toInt + 1))
              return some record
          | none => do
              modify fun s => { s with input := none }
              nextRecord fuel
      | none => do
          if ← nextInput s.operands then nextRecord fuel
          else return none

/-! ### Output -/

/-- Pass on what has been printed. -/
def flush : Act Unit := do
  modify fun s =>
    { s with job := s.job.print s.held.reverse.flatten, held := [], heldSize := 0 }
  if (← get).job.brokenPipe then throw .exit

/-- How much is held before it is passed on. -/
def holdLimit : Nat := 4096

/-- Print a text to the output, which is passed on later. -/
def put (text : Text) : Act Unit := do
  modify fun s => { s with held := text :: s.held, heldSize := s.heldSize + text.length }
  if (← get).heldSize ≥ holdLimit then flush

end Act

end LtoBridge.Awk
