/-
**Running a program for records.**

Main definitions:

* `LtoBridge.Awk.evaluate`, `LtoBridge.Awk.perform`: expressions and statements;
* `LtoBridge.Awk.program`: read records and follow the rules of a script.
-/

import LtoBridge.Awk.Grammar
import LtoBridge.Awk.State
import LtoBridge.Programs.Search

set_option autoImplicit false

namespace LtoBridge.Awk

open LtoBridge.Programs (Text Job Launch Program settle statusOf)
open LtoBridge.Programs.Format (Quantity)
open LtoBridge.Text (Regex)
open Act

/-! ### Commands and files -/

/-- Run a command of the usual shell. -/
def runCommand (command : Text) (job : Job) : Act (Nat × Job) := do
  match (← get).launch "/bin/sh".toList ["-c".toList, command]
      { job with name := "sh".toList } with
  | .ok (status, job) => return (statusOf status, job)
  | .error _ => return (127, job)

/-- Run a command, which leaves its traces behind. -/
def runInTurn (command : Text) (prepare : Job → Job) : Act Nat := do
  let j := (← get).job
  let (status, after) ← runCommand command (prepare j.child)
  modify fun s => { s with job := s.job.rejoin after }
  return status

/-- What a command prints. -/
def outputOf (command : Text) : Act Text := do
  flush
  let j := (← get).job
  let (id, opened) := j.child.add { channel := .pipe }
  let (_, after) ← runCommand command (opened.attach 1 id)
  let text := ((after.opened.lookup id).map (·.available)).getD []
  modify fun s => { s with job := s.job.rejoin after }
  return text

/-- Finish what has been printed to a file or for a command, and forget what is left to read. -/
def closeStream (name : Text) : Act Int := do
  let s ← get
  let known := (s.streams.any (·.2.1 == name)) || (s.files.lookup name).isSome
  set { s with
    streams := s.streams.filter (·.2.1 != name)
    files := s.files.filter (·.1 != name)
    pipes := s.pipes.filter (·.1 != name) }
  match s.pipes.lookup name with
  | some pieces => do
      let status ← runInTurn name (·.feeding pieces.reverse.flatten)
      return status
  | none => return if known then 0 else -1

/-- Finish everything that has been printed for commands. -/
def closeAll : Act Unit := do
  for (name, _) in (← get).pipes.reverse do
    let _ ← closeStream name

/-- Print a text to a file or for a command. -/
def putTo (route : Route) (name text : Text) : Act Unit := do
  match route with
  | .command => do
      if ((← get).pipes.lookup name).isNone then flush
      modify fun s =>
        let before := (s.pipes.lookup name).getD []
        { s with pipes := (name, text :: before) :: s.pipes.filter (·.1 != name) }
  | route => do
      if name = "/dev/stdout".toList ∨ name = ['-'] then put text
      else if name = "/dev/stderr".toList then
        modify fun s => { s with job := s.job.write 2 text }
      else do
        let s ← get
        let id ← match s.files.lookup name with
          | some id => pure id
          | none =>
              match s.job.openToWrite (route == .append) false name with
              | .ok (id, job) => do
                  set { s with job, files := (name, id) :: s.files }
                  pure id
              | .error e =>
                  throw (.failure ("cannot open \"".toList ++ name ++ "\" (".toList ++
                    Job.errorText e ++ [')']))
        /- The file is written through a number that nothing else has. -/
        modify fun s => { s with job := ((s.job.attach 1000 id).write 1000 text).detach 1000 }

/-- The next line of a file or of what a command prints: whether there is one. -/
def lineFrom (command : Bool) (name : Text) : Act (Option (Option Text)) := do
  let s ← get
  let text ← match s.streams.find? fun t => t.1 == command && t.2.1 == name with
    | some (_, _, text) => pure (some text)
    | none => do
        if command then pure (some (← outputOf name))
        else do
          let (text, job) := s.job.fileText name
          set { s with job }
          pure text.toOption
  match text with
  | none => return none
  | some text => do
      let found := cutRecord (← globalText "RS") text
      let rest := (found.map (·.2)).getD []
      modify fun s => { s with
        streams := (command, name, rest) ::
          s.streams.filter fun t => !(t.1 == command && t.2.1 == name) }
      return some (found.map (·.1))

/-! ### Expressions and statements -/

/-- The key of several values. -/
def keyOf (values : List Value) : Act Text := do
  match values with
  | [v] => textOf v
  | values => do
      let texts ← values.mapM textOf
      return (← globalText "SUBSEP").intercalate texts

/-- The part of a text from a place on, counted from 1, with a length; both are rounded. -/
def substring (text : Text) (start : Quantity) (size : Option Quantity) : Text :=
  let round (x : Quantity) : Int := match x with
    | .finite x => integerPart (Operator.plus.onNumbers
        (.finite x) (.finite { negative := x.negative, top := 1, bottom := 2 }))
    | x => integerPart x
  let first := round start
  let stop : Int := match size with
    | some n => match start, n with
        | .finite _, .finite _ => round (Operator.plus.onNumbers start n)
        | _, n => first + integerPart n
    | none => text.length + 1
  let from_ := max first 1
  (text.drop (from_ - 1).toNat).take (stop - from_).toNat

/-- The next number that looks like chance, of those below 2147483648. -/
def chance (seed : Nat) : Nat := (1103515245 * seed + 12345) % 0x80000000

/-- The value of a function that every program has, for arguments that are plain values. -/
def plainBuiltin (name : String) (values : List Value) : Act Value := do
  let first := values.headD .nothing
  match name, values with
  | "length", _ => return .ofInt (← textOf first).length
  | "substr", [t, n] => return .text (substring (← textOf t) n.toNumber none)
  | "substr", [t, n, size] =>
      return .text (substring (← textOf t) n.toNumber (some size.toNumber))
  | "index", [t, u] => do
      let text ← textOf t
      return .ofInt (match Text.cutAt? (← textOf u) text with
        | some (before, _) => before.length + 1
        | none => 0)
  | "sprintf", format :: rest => do
      let pieces := Programs.Format.pieces formatDialect (← textOf format)
      match formatted? (← numberFormat) pieces rest with
      | some text => return .text text
      | none => fail "not enough arguments"
  | "toupper", _ => return .text ((← textOf first).map Char.toUpper)
  | "tolower", _ => return .text ((← textOf first).map Char.toLower)
  | "int", _ => return match first.toNumber with
      | .finite x => .ofInt x.truncated
      | x => .number x
  | "sqrt", _ => return .number (ofFloat (Float.sqrt (toFloat first.toNumber)))
  | "exp", _ => return .number (ofFloat (Float.exp (toFloat first.toNumber)))
  | "log", _ => return .number (ofFloat (Float.log (toFloat first.toNumber)))
  | "sin", _ => return .number (ofFloat (Float.sin (toFloat first.toNumber)))
  | "cos", _ => return .number (ofFloat (Float.cos (toFloat first.toNumber)))
  | "atan2", [y, x] =>
      return .number (ofFloat (Float.atan2 (toFloat y.toNumber) (toFloat x.toNumber)))
  | "system", _ => do
      flush
      return .ofInt (← runInTurn (← textOf first) id)
  | "close", _ => return .ofInt (← closeStream (← textOf first))
  | "fflush", _ => do
      flush
      return .ofInt 0
  | "rand", _ => do
      let seed := chance (← get).seed
      modify fun s => { s with seed }
      return .number (rounded { top := seed, bottom := 0x80000000 })
  | "srand", _ => do
      let before := (← get).seed
      modify fun s => { s with seed := first.toInt.toNat }
      return .ofInt before
  | _, _ => fail "unsupported function"

mutual

/-- The value of an expression. -/
def evaluate : (fuel : Nat) → Expression → Act Value
  | 0, _ => fail "too deep"
  | fuel + 1, e => do
      match e with
      | .number digits => return .number (numberIn digits)
      | .text t => return .text t
      | .pattern t => return .ofBool (((pattern t).find? (← get).record).isSome)
      | .variable name => value name
      | .item table key => do
          let key ← keyOf (← evaluateAll fuel key)
          let n ← tableNumber table
          match (← Act.table n).get? key with
          | some v => return v
          | none => do
              changeTable n (·.insert key .nothing)
              return .nothing
      | .field number => field (← evaluate fuel number).toInt
      | .assign target e => do
          let v ← evaluate fuel e
          store fuel target v
          return v
      | .update op target e => do
          let v ← evaluate fuel e
          let before ← evaluate fuel target
          let v := Value.number (op.onNumbers before.toNumber v.toNumber)
          store fuel target v
          return v
      | .count op isNew target => do
          let before := (← evaluate fuel target).toNumber
          let after := Value.number (op.onNumbers before (whole 1))
          store fuel target after
          return if isNew then after else .number before
      | .choose condition a b => do
          if (← evaluate fuel condition).holds then evaluate fuel a else evaluate fuel b
      | .binary op a b =>
          match op with
          | .and => do
              if (← evaluate fuel a).holds then return .ofBool (← evaluate fuel b).holds
              else return .ofBool false
          | .or => do
              if (← evaluate fuel a).holds then return .ofBool true
              else return .ofBool (← evaluate fuel b).holds
          | .join => do
              let v ← evaluate fuel a
              let w ← evaluate fuel b
              return .text ((← textOf v) ++ (← textOf w))
          | .fits | .fitsNot => do
              let text ← textOf (← evaluate fuel a)
              let r ← patternOf fuel b
              return .ofBool ((r.find? text).isSome == (op == .fits))
          | .less | .atMost | .equal | .different | .more | .atLeast => do
              let v ← evaluate fuel a
              let w ← evaluate fuel b
              return .ofBool (compares (← numberFormat) op v w)
          | op => do
              let v ← evaluate fuel a
              let w ← evaluate fuel b
              return .number (op.onNumbers v.toNumber w.toNumber)
      | .not a => do return .ofBool !(← evaluate fuel a).holds
      | .negate a => do
          match (← evaluate fuel a).toNumber with
          | .finite x => return .number (.finite
              { x with negative := if x.top = 0 then false else !x.negative })
          | .infinite negative => return .number (.infinite !negative)
          | .notANumber => return .number .notANumber
      | .asNumber a => do return .number (← evaluate fuel a).toNumber
      | .contains key table => do
          let key ← keyOf (← evaluateAll fuel key)
          return .ofBool ((← Act.table (← tableNumber table)).has key)
      | .builtin name arguments => builtin fuel name arguments
      | .call name arguments => call fuel name arguments
      | .readLine command source target => readLine fuel command source target

/-- The values of expressions. -/
def evaluateAll : (fuel : Nat) → List Expression → Act (List Value)
  | 0, _ => fail "too deep"
  | _ + 1, [] => return []
  | fuel + 1, e :: rest => do
      let v ← evaluate fuel e
      return v :: (← evaluateAll fuel rest)

/-- The pattern that an expression stands for. -/
def patternOf : (fuel : Nat) → Expression → Act Regex
  | 0, _ => fail "too deep"
  | _ + 1, .pattern t => return pattern t
  | fuel + 1, e => do return pattern (← textOf (← evaluate fuel e))

/-- Set what an expression stands for. -/
def store : (fuel : Nat) → Expression → Value → Act Unit
  | 0, _, _ => fail "too deep"
  | fuel + 1, e, v => do
      match e with
      | .variable name => assign name v
      | .field n => do setField (← evaluate fuel n).toInt v
      | .item table key => do
          let key ← keyOf (← evaluateAll fuel key)
          changeTable (← tableNumber table) (·.insert key v)
      | _ => fail "cannot be set"

/-- Read a line. -/
def readLine : (fuel : Nat) → (command : Bool) → (source target : Option Expression) → Act Value
  | 0, _, _, _ => fail "too deep"
  | fuel + 1, command, source, target => do
      let found ← match source with
        | none => do pure (some (← nextRecord 100000))
        | some e => do lineFrom command (← textOf (← evaluate fuel e))
      if command then setGlobal "NR" (.ofInt ((← global "NR").toInt + 1))
      match found, target with
      | none, _ => return .ofInt (-1)
      | some none, _ => return .ofInt 0
      | some (some line), none => do
          setRecord line
          return .ofInt 1
      | some (some line), some e => do
          store fuel e (.input line)
          return .ofInt 1

/-- The value of a function that every program has. -/
def builtin : (fuel : Nat) → String → List Expression → Act Value
  | 0, _, _ => fail "too deep"
  | fuel + 1, name, arguments => do
      match name, arguments with
      | "length", [] => return .ofInt (← get).record.length
      | "length", [.variable t] => do
          let s ← get
          let isTable := match s.locals.bind (·.lookup t) with
            | some (.table _) => true
            | some _ => false
            | none => (s.tableNumbers.lookup t).isSome
          if isTable then return .ofInt (← Act.table (← tableNumber t)).keys.length
          else plainBuiltin name [← value t]
      | "split", e :: .variable t :: separator => do
          let text ← textOf (← evaluate fuel e)
          let parts ← match separator with
            | [] => do pure (split (← globalText "FS") text)
            | .pattern r :: _ =>
                pure (if text.isEmpty then []
                  else splitBy (pattern r) (text.length + 1) [] [] text)
            | e :: _ => do pure (split (← textOf (← evaluate fuel e)) text)
          let n ← tableNumber t
          changeTable n fun _ => .ofList (parts.map Value.input)
          return .ofInt parts.length
      | "match", [e, r] => do
          let text ← textOf (← evaluate fuel e)
          let found := (← patternOf fuel r).find? text
          let (start, size) : Int × Int := match found with
            | some (start, stop) => (start.before.length + 1, stop.position)
            | none => (0, -1)
          setGlobal "RSTART" (.ofInt start)
          setGlobal "RLENGTH" (.ofInt size)
          return .ofInt start
      | "sub", r :: e :: target | "gsub", r :: e :: target => do
          let regex ← patternOf fuel r
          let other ← textOf (← evaluate fuel e)
          let target := target.headD (.field (.number ['0']))
          let text ← textOf (← evaluate fuel target)
          let most := if name = "sub" then 1 else text.length + 1
          let (n, pieces) := replaceIn regex other (text.length + 2) most false [] text
          if n > 0 then store fuel target (.text pieces.flatten)
          return .ofInt n
      | name, arguments => do plainBuiltin name (← evaluateAll fuel arguments)

/-- What arguments are for parameters. -/
def slots : (fuel : Nat) → List Text → List Expression → Act (List (Text × Slot))
  | 0, _, _ => fail "too deep"
  | _ + 1, [], _ => return []
  | fuel + 1, p :: parameters, arguments => do
      let fresh : Act Slot := do
        let n := (← get).nextTable
        modify fun s => { s with nextTable := n + 1 }
        return .free n
      let slot ← match arguments with
        | [] => fresh
        | .variable name :: _ => do
            let s ← get
            match s.locals.bind (·.lookup name) with
            | some slot => pure slot
            | none =>
                match s.tableNumbers.lookup name, s.bindings.get? (String.ofList name) with
                | some n, _ => pure (.table n)
                | none, none =>
                    if name = "NF".toList then pure (.value (← value name))
                    else do pure (.free (← tableNumber name))
                | none, some v => pure (.value v)
        | e :: _ => do pure (.value (← evaluate fuel e))
      return (p, slot) :: (← slots fuel parameters arguments.tail)

/-- Call a function of the script. -/
def call : (fuel : Nat) → Text → List Expression → Act Value
  | 0, _, _ => fail "too deep"
  | fuel + 1, name, arguments => do
      match (← get).functions.lookup name with
      | none => fail "function never defined"
      | some f => do
          let own ← slots fuel f.parameters arguments
          let before := (← get).locals
          modify fun s => { s with locals := some own }
          let outcome ← observing (perform fuel f.body)
          modify fun s => { s with locals := before }
          match outcome with
          | .ok _ => return .nothing
          | .error (.return_ v) => return v
          | .error stop => throw stop

/-- Do something, and see how it ended. -/
def observing (a : Act Unit) : Act (Except Stop Unit) := fun s =>
  match a s with
  | (r, s) => (.ok r, s)

/-- Do what a statement says. -/
def perform : (fuel : Nat) → Statement → Act Unit
  | 0, _ => fail "too long"
  | fuel + 1, s => do
      match s with
      | .evaluate e => do
          let _ ← evaluate fuel e
      | .print formatted_ arguments route => do
          let values ← evaluateAll fuel arguments
          let format ← if formatted_ then numberFormat else globalText "OFMT"
          let text ← if formatted_ then do
              let pieces := Programs.Format.pieces formatDialect (← textOf (values.headD .nothing))
              match formatted? format pieces values.tail with
              | some text => pure text
              | none => fail "not enough arguments"
            else do
              let record := (← get).record
              let texts := if arguments.isEmpty then [record] else values.map (·.toText format)
              pure ((← globalText "OFS").intercalate texts ++ (← globalText "ORS"))
          match route with
          | none => put text
          | some (route, e) => do putTo route (← textOf (← evaluate fuel e)) text
      | .choose condition a b => do
          if (← evaluate fuel condition).holds then perform fuel a else perform fuel b
      | .loop condition body step => repeatWhile fuel condition body step
      | .doLoop body condition => do
          if ← continues fuel body then repeatWhile fuel condition body (.block [])
      | .each name table body => do
          let keys := (← Act.table (← tableNumber table)).keys
          overKeys fuel name body keys
      | .block body => performAll fuel body
      | .delete table key => do
          let n ← tableNumber table
          if key.isEmpty then changeTable n fun _ => {}
          else do
            let key ← keyOf (← evaluateAll fuel key)
            changeTable n (·.erase key)
      | .next => throw .next
      | .nextFile => throw .nextFile
      | .exit status => do
          match status with
          | some e => do
              let n := (← evaluate fuel e).toInt
              modify fun s => { s with status := (n % 256).toNat }
          | none => pure ()
          throw .exit
      | .break_ => throw .break_
      | .continue_ => throw .continue_
      | .return_ e => do
          match e with
          | some e => throw (.return_ (← evaluate fuel e))
          | none => throw (.return_ .nothing)

/-- Do statements one after the other. -/
def performAll : (fuel : Nat) → List Statement → Act Unit
  | 0, _ => fail "too long"
  | _ + 1, [] => return
  | fuel + 1, s :: rest => do
      perform fuel s
      performAll fuel rest

/-- Do the body of a loop, and say whether the loop goes on. -/
def continues : (fuel : Nat) → Statement → Act Bool
  | 0, _ => fail "too long"
  | fuel + 1, body => do
      match ← observing (perform fuel body) with
      | .ok _ | .error .continue_ => return true
      | .error .break_ => return false
      | .error stop => throw stop

/-- Do the body of a loop as long as a condition holds. -/
def repeatWhile : (fuel : Nat) → Expression → (body step : Statement) → Act Unit
  | 0, _, _, _ => fail "too long"
  | fuel + 1, condition, body, step => do
      if (← evaluate fuel condition).holds then do
        if ← continues fuel body then do
          perform fuel step
          repeatWhile fuel condition body step

/-- Do the body of a loop for keys. -/
def overKeys : (fuel : Nat) → Text → Statement → List Text → Act Unit
  | 0, _, _, _ => fail "too long"
  | _ + 1, _, _, [] => return
  | fuel + 1, name, body, key :: rest => do
      assign name (.input key)
      if ← continues fuel body then overKeys fuel name body rest

end

/-! ### Programs -/

/-- How many steps can be nested or follow one another in a loop. -/
def runFuel : Nat := 100000000

/-- Follow the rules for the record, the first of which has the given number. -/
def followAll : (number : Nat) → List (Condition × Statement) → Act Unit
  | _, [] => return
  | number, (condition, action) :: rest => do
      let meets : Bool ← match condition with
        | .beginning | .ending => pure false
        | .always => pure true
        | .when e => do pure (← evaluate runFuel e).holds
        | .fromTo first last => do
            let begins ← if (← get).active.contains number then pure true
              else do pure (← evaluate runFuel first).holds
            if begins then do
              let ends := (← evaluate runFuel last).holds
              modify fun s =>
                let others := s.active.filter (· != number)
                { s with active := if ends then others else number :: others }
            pure begins
      if meets then perform runFuel action
      followAll (number + 1) rest

/-- Follow the rules for all records. -/
def followRecords (rules : List (Condition × Statement)) : (fuel : Nat) → Act Unit
  | 0 => fail "too long"
  | fuel + 1 => do
      match ← nextRecord 100000 with
      | none => return
      | some record => do
          setRecord record
          match ← observing (followAll 0 rules) with
          | .ok _ | .error .next => followRecords rules fuel
          | .error .nextFile => do
              modify fun s => { s with input := none }
              followRecords rules fuel
          | .error stop => throw stop

/-- Follow the rules for the beginning or for the end. -/
def followSome (chosen : Condition → Bool) : List (Condition × Statement) → Act Unit
  | [] => return
  | (condition, action) :: rest => do
      if chosen condition then perform runFuel action
      followSome chosen rest

/-- Is the rule for the beginning? -/
def Condition.isBeginning : Condition → Bool
  | .beginning => true
  | _ => false

/-- Is the rule for the end? -/
def Condition.isEnding : Condition → Bool
  | .ending => true
  | _ => false

/-- Follow a script. -/
def follow (script : Script) : Act Unit := do
  let started ← observing (followSome Condition.isBeginning script.rules)
  let readsInput := script.rules.any fun rule => !rule.1.isBeginning
  let finished ← match started with
    | .ok _ =>
        if readsInput then observing (followRecords script.rules runFuel) else pure (.ok ())
    | .error stop => pure (.error stop)
  match finished, started with
  | .ok _, _ | .error .exit, .ok _ => followSome Condition.isEnding script.rules
  | .error stop, _ => throw stop

/-- What the options of the program say. -/
structure Call where
  separator : Option Text := none
  values : List Text := []
  sources : List Text := []
  operands : List Text := []

/-- Read the options of the program. -/
def Call.read? : Call → List Text → Option Call
  | c, [] => some c
  | c, ['-', '-'] :: rest => some { c with operands := rest }
  | c, ['-', 'F'] :: value :: rest => Call.read? { c with separator := some value } rest
  | c, ['-', 'v'] :: value :: rest => Call.read? { c with values := c.values ++ [value] } rest
  | c, ['-', 'f'] :: value :: rest => Call.read? { c with sources := c.sources ++ [value] } rest
  | c, ['-', 'W'] :: _ :: rest => Call.read? c rest
  | c, ('-' :: 'F' :: value) :: rest => Call.read? { c with separator := some value } rest
  | c, ('-' :: 'v' :: value) :: rest => Call.read? { c with values := c.values ++ [value] } rest
  | c, ('-' :: 'f' :: value) :: rest => Call.read? { c with sources := c.sources ++ [value] } rest
  | c, ('-' :: l :: letters) :: rest =>
      if l = '-' ∨ l = 'W' ∨ letters.isEmpty then none else
        Call.read? { c with operands := c.operands } rest
  | c, rest => some { c with operands := rest }

/-- **Read records and follow the rules of a script.** -/
def program : Program := fun launch arguments j =>
  let refuse (text : Text) (j : Job) : ExitStatus × Job :=
    settle 2 (j.complain ("mawk: ".toList ++ text))
  match Call.read? {} arguments with
  | none => refuse "bad option".toList j
  | some c =>
      let texts := c.sources.mapM fun name => (j.fileText name).1
      let source : Option (Text × List Text) := match texts, c.sources, c.operands with
        | .ok _, [], text :: operands => some (text, operands)
        | .ok (text :: others), _, operands =>
            some (['\n'].intercalate (text :: others), operands)
        | _, _, _ => none
      match source with
      | none => refuse "no program".toList j
      | some (text, operands) =>
          match Script.parse? text with
          | none => refuse "syntax error".toList j
          | some script =>
              let s : State :=
                { launch
                  job := j
                  functions := script.functions
                  bindings := .ofList Act.usualVariables
                  operands }
              let table (number : Nat) (entries : List (Text × Text)) : Nat × Table :=
                (number, entries.foldl (fun t (key, v) => t.insert key (.input v)) {})
              let numbered := ("mawk".toList :: operands).mapIdx fun i a => (Text.decimal i, a)
              let s := { s with
                tables := .ofList [table 1 j.environment, table 2 numbered]
                tableNumbers := [("ENVIRON".toList, 1), ("ARGV".toList, 2)]
                nextTable := 3 }
              let run : Act Unit := do
                setGlobal "ARGC" (.ofInt (operands.length + 1))
                for value in c.values do
                  match Act.assignment? value with
                  | some (name, text) => assign name (.input text)
                  | none => fail "improper assignment"
                match c.separator with
                | some ['t'] => setGlobal "FS" (.text ['\t'])
                | some text =>
                    setGlobal "FS" (.text (({} : Programs.Escapes).unescape text).1)
                | none => pure ()
                follow script
              let finish (s : State) : State := (flush (closeAll s).2).2
              match run s with
              | (.ok _, s) | (.error .exit, s) =>
                  let s := finish s
                  settle s.status s.job
              | (.error (.failure complaint), s) => refuse complaint (finish s).job
              | (.error _, s) =>
                  let s := finish s
                  settle s.status s.job

end LtoBridge.Awk
