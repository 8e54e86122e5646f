/-
**The run of a script.**

A script is read and run line by line, so that what stands before a line that makes no sense has
an effect.  How other programs are run is given.

Main definitions:

* `LtoBridge.Shell.Act.run`: run a command;
* `LtoBridge.Shell.Act.runText`: run a text line by line;
* `LtoBridge.Shell.program`: the shell as a program.
-/

import LtoBridge.Programs.RegexSyntax
import LtoBridge.Shell.Builtin
import LtoBridge.Shell.Grammar

set_option autoImplicit false

namespace LtoBridge.Shell

open LtoBridge.Programs (Text Job OpenFile Launch search)

/-! ### Parts of the shell -/

/-- The traps of a part with a state of its own: signals stay ignored, but nothing is done on the
others. -/
def ownTraps (traps : List (Text × Text)) : List (Text × Text) := traps.filter (·.2.isEmpty)

/-- The state that a part of the script begins with. -/
def State.branch (s : State) : State :=
  { s with job := s.job.child, traps := ownTraps s.traps, waiting := [] }

/-- The status of a part that has ended, as the shell sees it. -/
def statusAfter (r : Except Stop Unit) (s : State) : Nat :=
  match r with
  | .error (.killed signal) => 128 + signal
  | _ => s.status

/-- How the end of a program by a signal is reported, if it is. -/
def deathNotice? (signal : Nat) : Option String :=
  [(1, "Hangup"), (3, "Quit"), (4, "Illegal instruction"), (6, "Aborted"), (7, "Bus error"),
    (8, "Floating point exception"), (9, "Killed"), (10, "User defined signal 1"),
    (11, "Segmentation fault"), (12, "User defined signal 2"), (14, "Alarm clock"),
    (15, "Terminated")].lookup signal

/-- The status of a program whose file cannot be run. -/
def statusOfError : OsError → Nat
  | .noEntry | .notDirectory | .nameTooLong | .tooManyLinks => 127
  | _ => 126

namespace Act

/-- The state after a part of the script that had a state of its own. -/
def rejoin (r : Except Stop Unit) (after : State) : Act Unit := do
  modify fun s => { s with job := s.job.rejoin after.job, status := statusAfter r after }
  match r with
  | .error (.killed signal) =>
      match deathNotice? signal with
      | some notice => complain notice.toList
      | none => pure ()
  | _ => pure ()

/-- Run a part of the script with a state of its own. -/
def separately (a : Act Unit) : Act Unit := do
  let (r, after) := a (← get).branch
  rejoin r after

/-- Run a step with the streams that are there now, whatever it does to them. -/
def keepingStreams {α : Type} (a : Act α) : Act α := do
  let before := (← get).job.descriptors
  let r ← attempt a
  onJob fun j => { j with descriptors := before }
  match r with
  | .ok value => return value
  | .error e => throw e

/-- Run a step, and let variables be as they were before. -/
def keepingVariables (names : List Text) (a : Act Unit) : Act Unit := do
  let s ← get
  let before := names.map fun name => (name, s.lookUp? name)
  let r ← attempt a
  modify fun s => before.foldl (fun s entry => s.restoreVariable entry.1 entry.2) s
  match r with
  | .ok () => pure ()
  | .error e => throw e

/-- Run a step of a loop, and say whether the loop goes on. -/
def inLoop (a : Act Unit) : Act Bool := do
  match ← attempt a with
  | .ok () => return true
  | .error (.leave n) => if n ≤ 1 then return false else throw (.leave (n - 1))
  | .error (.again n) => if n ≤ 1 then return true else throw (.again (n - 1))
  | .error e => throw e

/-- Run a loop, which others can be around. -/
def looping (a : Act Unit) : Act Unit := do
  modify fun s => { s with loops := s.loops + 1 }
  let r ← attempt a
  modify fun s => { s with loops := s.loops - 1 }
  match r with
  | .ok () => pure ()
  | .error e => throw e

/-- Look at what a command of the shell itself has failed to write. -/
def checkWriting (name : Text) : Act Unit := do
  match (← get).job.writeError with
  | none => pure ()
  | some _ => do
      onJob fun j => { j with writeError := none }
      blame (name ++ ": ".toList ++ name ++ ": I/O error".toList)
      done 1

/-- Open a file for a stream. -/
def openStream (stream : Nat) (open_ : Job → Except OsError (Nat × Job))
    (complaint : OsError → Text) : Act Unit := do
  match open_ (← get).job with
  | .ok (id, job) => onJob fun _ => job.attach stream id
  | .error e =>
      if (← get).dialect = .rich then do
        blame (complaint e)
        done 1
        throw .error
      else fail (complaint e)

/-- Remember how the parts of a pipeline have ended. -/
def setStages (stages : List Nat) : Act Unit := modify fun s =>
  s.setVariable "PIPESTATUS".toList
    { items := some ((stages.zipIdx 0).map fun (status, n) =>
        (Text.decimal n, Text.decimal status)) }

/-- Redirect a stream, with the text that its target stands for. -/
def redirectTo (r : Redirection Word) (text : Text) : Act Unit := do
  let rich := (← get).dialect == .rich
  let said (before after : Text) : Text :=
    if rich then text ++ ": ".toList ++ after else before ++ text ++ ": ".toList ++ after
  let creating (e : OsError) : Text :=
    said "cannot create ".toList (if rich then Job.errorText e else creationErrorText e)
  let opening (e : OsError) : Text :=
    said "cannot open ".toList (if rich then Job.errorText e else openingErrorText e)
  let toFile (stream : Nat) (appends : Bool) : Act Unit :=
    openStream stream (·.openToWrite appends false text) creating
  match r.target with
  | .input => openStream r.stream (·.openToRead text) opening
  | .output forced => do
      let s ← get
      let isKept : Bool := s.has 'C' && !forced && match s.job.disk.find (Text.bytes text) with
        | .ok (_, .file _ _) | .ok (_, .program _) => true
        | _ => false
      if isKept then openStream r.stream (fun _ => .error .alreadyExists) creating
      else toFile r.stream false
  | .append => toFile r.stream true
  | .both => openStream r.stream (·.openToWrite false true text) creating
  | .text line =>
      let text := if line then text ++ ['\n'] else text
      openStream r.stream
        (fun j => .ok (j.add { channel := .pipe, writes := false, waiting := text })) opening
  | .duplicate =>
      if text = ['-'] then onJob (·.detach r.stream)
      else match Text.number? text with
        | some n =>
            match (← get).job.descriptors.lookup n with
            | some id => onJob (·.attach r.stream id)
            | none => fail (text ++ ": Bad file descriptor".toList)
        | none =>
            if rich ∧ r.stream = 1 then do
              toFile 1 false
              onJob fun j => j.attach 2 ((j.descriptors.lookup 1).getD 2)
            else fail "Syntax error: Bad fd number".toList
  | .outputAndErrors appends => do
      toFile 1 appends
      onJob fun j => j.attach 2 ((j.descriptors.lookup 1).getD 2)

/-- Redirect streams. -/
def redirect (capture : Capture) (rs : List (Redirection Word)) : Act Unit := do
  for r in rs do
    let text ← match r.target with
      | .text false => do
          let ps ← pieces capture depth false r.word
          pure (textOf ps)
      | _ => expandText capture r.word
    redirectTo r text

/-- The key and the value in a word that gives both. -/
def keyed? (w : Word) : Option (Word × Word) :=
  match w with
  | .literal ('[' :: text) false :: rest => go [] (.literal text false :: rest)
  | _ => none
where
  go (found : Word) : Word → Option (Word × Word)
    | [] => none
    | .literal text false :: rest =>
        match Text.cutAt? "]=".toList text with
        | some (before, after) =>
            some (found.reverse ++ [.literal before false], .literal after false :: rest)
        | none => go (.literal text false :: found) rest
    | p :: rest => go (p :: found) rest

/-- The values of a list, each with its number or name. -/
def listItems (capture : Capture) (name : Text) : List Word → (items : List (Text × Text)) →
    Act (List (Text × Text))
  | [], items => return items
  | w :: ws, items => do
      match keyed? w with
      | some (key, value) => do
          let key ← indexText capture depth name (some key)
          let value ← expandAssigned capture value
          listItems capture name ws (place_ (key.getD []) value items)
      | none => do
          let values ← expandFields capture [w]
          let first := items.foldl (fun n entry => max n ((Text.number? entry.1).getD 0 + 1)) 0
          listItems capture name ws
            (items ++ (values.zipIdx first).map fun (v, n) => (Text.decimal n, v))

/-- Assign a value to a variable or to an element of a list. -/
def assignOne (capture : Capture) (a : Assignment Word) : Act Unit := do
  match a.list with
  | some words => do
      let start : List (Text × Text) := match a.adds, (← get).lookUp? a.name with
        | true, some { items := some items, .. } => items
        | true, some { value := some value, .. } => [(['0'], value)]
        | _, _ => []
      let items ← listItems capture a.name words start
      change a.name fun v => { v with items := some items, value := none }
  | none => do
      let value ← expandAssigned capture a.value
      match ← indexText capture depth a.name a.index with
      | some key => do
          let before : Text := match (← get).lookUp? a.name with
            | some { items := some items, .. } => (items.lookup key).getD []
            | _ => []
          assignItem a.name key (if a.adds then before ++ value else value)
      | none => do
          let v := ((← get).lookUp? a.name).getD {}
          let before := ((← get).variableValue? a.name).getD []
          if v.calculated then do
            let n ← calculate value
            let m ← if a.adds then calculate before else pure 0
            assign a.name (Text.signedDecimal (m + n))
          else assign a.name (if a.adds then before ++ value else value)

/-- Assign values for a single command, which other programs see. -/
def assignFor (capture : Capture) (as : List (Assignment Word)) : Act Unit := do
  for a in as do
    assignOne capture a
    modify fun s => s.setVariable a.name
      { (s.lookUp? a.name).getD {} with exported := true }

/-- Show a command before it is run, if that is wanted. -/
def trace (as : List (Assignment Word)) (arguments : List Text) : Act Unit := do
  let s ← get
  if s.has 'x' then
    let assigned := as.map fun a => a.name ++ '=' :: (s.variableValue? a.name).getD []
    complain ("+ ".toList ++ Text.spaced (assigned ++ arguments))

/-! ### Other programs -/

/-- The first characters of a file. -/
def fileStart (j : Job) (path : Text) : Text :=
  match j.disk.find (Text.bytes path) with
  | .ok (_, node) => ((Disk.part node 0 128).map Text.ofBytes).toOption.getD []
  | .error _ => []

/-- Does a file look as if it were no script?  That can be seen in its first line. -/
def isBinary (d : Dialect) (start : Text) : Bool :=
  let line := start.takeWhile (· != '\n')
  match d with
  | .rich => line.contains '\x00' || "\x7fELF".toList.isPrefixOf line
  | .plain => line.any fun c =>
      let n := c.toNat
      n < 9 || (15 < n && n < 32 && n != 27) || n == 127

/-- Run another program; `inPlace` tells whether that is the end of the shell. -/
def external (launch : Launch) (inPlace : Bool) (arguments : List Text) : Act Unit := do
  let s ← get
  let name := arguments.headD []
  let own : Text := if inPlace ∧ s.dialect = .plain then "exec: ".toList else []
  let rest := arguments.tail
  let failed (e : OsError) : Act Unit := do
    let text := match e, s.dialect with
      | .noEntry, .plain | .notDirectory, .plain =>
          if name.isEmpty then "Permission denied".toList else "not found".toList
      | .noEntry, .rich =>
          if name.contains '/' then Job.errorText e else "command not found".toList
      | e, _ => Job.errorText e
    blame (own ++ name ++ ": ".toList ++ text)
    done (statusOfError e)
  match search s.job.disk (Builtin.directories s) name with
  | .error e => failed e
  | .ok path => do
      let child := { s.job.child with environment := s.environment, name := name }
      let answer : Except OsError (ExitStatus × Job) := match launch path rest child with
        | .error .execFormat =>
            if isBinary s.dialect (fileStart s.job path) then .error .execFormat
            else launch "/bin/sh".toList (path :: rest) { child with name := "/bin/sh".toList }
        | answer => answer
      match answer with
      | .error e => failed e
      | .ok (status, job) =>
          let r : Except Stop Unit := match status with
            | .killed signal => .error (.killed signal)
            | .exited _ => .ok ()
          rejoin r { s with job, status := Programs.statusOf status }

/-! ### Conditions of a rich shell -/

/-- What two texts have to do with each other, of which the second one can be a pattern. -/
def compare (sign : Text) (a : Text) (b : Pattern) : Act Bool := do
  let s ← get
  let context : Programs.Condition.Context :=
    { disk := s.job.disk, doubled := true, complaint := fun t => t }
  match String.ofList sign with
  | "=" | "==" => return b.fits .rich a
  | "!=" => return !b.fits .rich a
  | "=~" =>
      let text := b.flatMap fun (c, quoted) =>
        if quoted ∧ ¬ c.isAlphanum ∧ c ≠ ' ' ∧ c ≠ '_' then ['\\', c] else [c]
      let y : Programs.RegexSyntax := { extended := true }
      match y.parse? text with
      | none => do
          done 2
          return false
      | some regex =>
          match regex.find? a with
          | none => return false
          | some found => do
              let whole := a.drop found.1.before.length |>.take found.2.position
              let group (n : Nat) : Text :=
                if n = 0 then whole else (found.2.group? n).getD []
              let items := (List.range 10).map fun n => (Text.decimal n, group n)
              modify fun s => s.setVariable "BASH_REMATCH".toList { items := some items }
              return true
  | sign => do
      let b := b.map (·.1)
      if sign.startsWith "-" ∧ ¬ ["-nt", "-ot", "-ef"].contains sign then do
        let m ← calculate a
        let n ← calculate b
        return (Programs.Condition.binary context sign (Text.signedDecimal m)
          (Text.signedDecimal n)).toOption.getD false
      else return (Programs.Condition.binary context sign a b).toOption.getD false

mutual

/-- Whether a condition holds, and what follows it.  Only what is `live` is looked at. -/
def anyOf (capture : Capture) : (fuel : Nat) → (live : Bool) → List (Bool × Word) →
    Act (Bool × List (Bool × Word))
  | 0, _, items => return (false, items)
  | fuel + 1, live, items => do
      let (a, rest) ← allOf capture fuel live items
      match rest with
      | (true, [.literal ['|', '|'] false]) :: rest => do
          let (b, rest) ← anyOf capture fuel (live && !a) rest
          return (a || b, rest)
      | _ => return (a, rest)

/-- Whether all of some conditions hold. -/
def allOf (capture : Capture) : (fuel : Nat) → (live : Bool) → List (Bool × Word) →
    Act (Bool × List (Bool × Word))
  | 0, _, items => return (false, items)
  | fuel + 1, live, items => do
      let (a, rest) ← oneOf capture fuel live items
      match rest with
      | (true, [.literal ['&', '&'] false]) :: rest => do
          let (b, rest) ← allOf capture fuel (live && a) rest
          return (a && b, rest)
      | _ => return (a, rest)

/-- Whether a single condition holds. -/
def oneOf (capture : Capture) : (fuel : Nat) → (live : Bool) → List (Bool × Word) →
    Act (Bool × List (Bool × Word))
  | 0, _, items => return (false, items)
  | fuel + 1, live, items => do
      let isSign (item : Bool × Word) (text : String) : Bool :=
        item.1 && Word.plain? item.2 == some text.toList
      match items with
      | [] => return (false, [])
      | first :: rest =>
          if isSign first "!" then do
            let (a, rest) ← oneOf capture fuel live rest
            return (!a, rest)
          else if isSign first "(" then do
            let (a, rest) ← anyOf capture fuel live rest
            return (a, rest.tail)
          else
            let unary := (Word.plain? first.2).bind Programs.Condition.unary?
            match rest with
            | [] => do
                if ¬ live then return (false, [])
                else return (!(← expandText capture first.2).isEmpty, [])
            | second :: others =>
                let operator := (Word.plain? second.2).filter fun t =>
                  t == ['=', '~'] || (Programs.Condition.binary? true t).isSome
                match operator, others with
                | some operator, third :: after => do
                    if ¬ live then return (false, after)
                    else do
                      let a ← expandText capture first.2
                      let b ← expandPattern capture third.2
                      return (← compare operator a b, after)
                | _, _ => do
                    match unary with
                    | some sign =>
                        if ¬ live then return (false, others)
                        else do
                          let text ← expandText capture second.2
                          return (Programs.Condition.unary (← get).job.disk sign text, others)
                    | none =>
                        if ¬ live then return (false, rest)
                        else if Word.plain? first.2 = some ['-', 'v'] then do
                          let name ← expandText capture second.2
                          return (Builtin.isSet (← get) name, others)
                        else return (!(← expandText capture first.2).isEmpty, rest)

end

/-! ### Commands -/

variable (launch : Launch)

mutual

/-- Run a command.  If its status is tested, failing does not end the run.  Without fuel, the run
is ended from outside. -/
def run : (fuel : Nat) → (tested : Bool) → Command → Act Unit
  | 0, _, _ => throw (.killed 9)
  | fuel + 1, tested, command => do
      let capture : Capture := captureText fuel
      let settle : Act Unit := do
        checkSignals fuel
        let s ← get
        if s.status ≠ 0 ∧ ¬ tested then
          match s.traps.lookup "ERR".toList with
          | some action => do
              modify fun s => { s with traps := s.traps.filter (·.1 != "ERR".toList) }
              runText fuel true s.line action
              modify fun after => { after with
                status := s.status, traps := ("ERR".toList, action) :: after.traps }
          | none => pure ()
        if s.has 'e' ∧ ¬ tested ∧ s.status ≠ 0 then throw .exit
      if (← get).has 'n' then return
      match command with
      | .nothing => pure ()
      | .simple line assignments words redirections => do
          modify fun s => { s with line, substituted := none }
          runSimple fuel tested assignments words redirections
          let s ← get
          if s.dialect = .rich then setStages [s.status]
          settle
      | .pipeline commands => do
          runPipeline fuel tested none 0 [] commands
          settle
      | .negation command => do
          run fuel true command
          done (if (← get).status = 0 then 1 else 0)
      | .both first second => do
          run fuel true first
          if (← get).status = 0 then run fuel tested second
      | .either first second => do
          run fuel true first
          if (← get).status ≠ 0 then run fuel tested second
      | .sequence first second => do
          run fuel tested first
          run fuel tested second
      | .background command => do
          let s ← get
          let number := s.job.nextNumber
          modify fun s => { s with
            job := { s.job with nextNumber := number + 1 }
            lastNumber := some number
            status := 0
            waiting := s.waiting ++ [{
              number
              command
              setting := { s.toSetting with traps := ownTraps s.traps }
              current := s.job.disk.current
              descriptors := s.job.descriptors }] }
      | .conditional test yes no => do
          run fuel true test
          if (← get).status = 0 then run fuel tested yes
          else do
            done 0
            run fuel tested no
      | .loop until_ test body => looping (runLoop fuel tested until_ test body 0)
      | .each name words body => do
          let values ← match words with
            | some words => expandFields capture words
            | none => do pure (← get).parameters
          done 0
          looping (runEach fuel tested name values body)
      | .count begin test step body => do
          let value (w : Word) : Act Int := do
            let text := textOf (← pieces capture depth false w)
            if (Text.trimmed text).isEmpty then return 1 else calculate text
          let _ ← value begin
          done 0
          looping (runCount fuel tested (value test) (value step) body)
      | .choose word arms => do
          let text ← expandText capture word
          done 0
          runArms fuel tested text false arms
      | .group line body redirections => do
          modify fun s => { s with line }
          keepingStreams do
            match ← attempt (redirect capture redirections) with
            | .error .error => pure ()
            | .error e => throw e
            | .ok () => run fuel tested body
      | .separate line body redirections => do
          modify fun s => { s with line }
          separately (finish fuel do
            redirect capture redirections
            run fuel tested body)
          settle
      | .define name body => modify fun s => { s with
            functions := (name, body) :: s.functions.filter (·.1 != name)
            status := 0 }
      | .calculation e => do
          let n ← calculate (textOf (← pieces capture depth false e))
          done (if n = 0 then 1 else 0)
          settle
      | .condition items => do
          let (holds, _) ← anyOf capture (8 * items.length + 8) true items
          done (if holds then 0 else 1)
          settle

/-- Run a simple command. -/
def runSimple : (fuel : Nat) → (tested : Bool) → List (Assignment Word) → List Word →
    List (Redirection Word) → Act Unit
  | 0, _, _, _, _ => throw (.killed 9)
  | fuel + 1, tested, assignments, words, redirections => do
      let capture : Capture := captureText fuel
      let first ← expandFields capture (words.take 1)
      let isDeclaring : Bool := match first with
        | [name] => declaring.contains (String.ofList name)
        | _ => false
      let others ← if isDeclaring then expandDeclared capture (words.drop 1)
        else expandFields capture (words.drop 1)
      let names := assignments.map (·.name)
      /- Run something while streams are redirected, and say whether that was possible. -/
      let redirected (a : Act Unit) : Act Bool := keepingStreams do
        match ← attempt (redirect capture redirections) with
        | .error .error => return false
        | .error e => throw e
        | .ok () => do
            a
            return true
      match first ++ others with
      | [] => do
          let _ ← redirected do
            for a in assignments do
              assignOne capture a
            trace assignments []
            done (((← get).substituted).getD 0)
      | name :: arguments => do
          let s ← get
          let special := s.dialect == .plain && Builtin.isSpecial name
          if name = "exec".toList then do
            redirect capture redirections
            assignFor capture assignments
            trace assignments (name :: arguments)
            if arguments.isEmpty then done 0
            else do
              external launch true (arguments.dropWhile (· == ['-', '-']))
              modify fun s => { s with traps := ownTraps s.traps }
              throw .exit
          else if special then do
            let ok ← redirected do
              for a in assignments do
                assignOne capture a
              trace assignments (name :: arguments)
              runOwn fuel tested name arguments
              checkWriting name
            if ¬ ok then throw .error
          else do
            let _ ← redirected (keepingVariables names do
              assignFor capture assignments
              trace assignments (name :: arguments)
              match (← get).functions.lookup name with
              | some body => callFunction fuel tested name body arguments
              | none =>
                  if Builtin.isOwn s.dialect name then do
                    match ← attempt (runOwn fuel tested name arguments) with
                    | .ok () | .error .error => checkWriting name
                    | .error e => throw e
                  else do
                    if name = "sleep".toList then runWaiting fuel none
                    external launch false (name :: arguments))

/-- Run a command of the shell itself. -/
def runOwn : (fuel : Nat) → (tested : Bool) → (name : Text) → List Text → Act Unit
  | 0, _, _, _ => throw (.killed 9)
  | fuel + 1, tested, name, arguments => do
      let rich := (← get).dialect == .rich
      let source : Act Unit := do
        let (answer, given) := match arguments with
          | ['-', '-'] :: path :: given => (some path, given)
          | path :: given => (some path, given)
          | [] => (none, [])
        match answer with
        | none => done 0
        | some path => do
            let s ← get
            let candidates := if path.contains '/' then [path]
              else (Text.splitAt (· == ':') (Builtin.directories s)).map (fun d =>
                if d.isEmpty then path else d ++ '/' :: path) ++ if rich then [path] else []
            let isFile (p : Text) : Bool :=
              (Job.standing? p).isSome || match s.job.disk.find (Text.bytes p) with
                | .ok (_, .directory) | .error _ => false
                | .ok _ => true
            match candidates.find? isFile with
            | none =>
                if rich then refuse 1 "." (path ++ ": No such file or directory".toList)
                else if path.contains '/' then
                  failIn "." ("cannot open ".toList ++ path ++ ": No such file".toList)
                else failIn "." (path ++ ": not found".toList)
            | some file => do
                let (answer, job) := s.job.fileText file
                onJob fun _ => job
                modify fun s => { s with
                  sourced := true
                  parameters := if rich ∧ ¬ given.isEmpty then given else s.parameters }
                let r ← attempt (runText fuel tested 1 (answer.toOption.getD []))
                modify fun after => { after with
                  line := s.line
                  sourced := s.sourced
                  parameters := if rich ∧ ¬ given.isEmpty then s.parameters
                    else after.parameters }
                match r with
                | .ok () | .error .return => pure ()
                | .error e => throw e
      match String.ofList name, rich with
      | "eval", _ => do
          let line := (← get).line
          done 0
          runText fuel tested line (Text.spaced arguments)
          modify fun s => { s with line }
      | ".", _ | "source", true => source
      | "wait", _ => do
          match arguments with
          | [] => do
              runWaiting fuel none
              done 0
          | [['-', 'n']] =>
              match (← get).waiting.head? with
              | some b => do
                  runWaiting fuel (some b.number)
                  done (((← get).finished.lookup b.number).getD 127)
              | none => done 127
          | _ => do
              for target in arguments do
                if target.head? = some '%' then do
                  let number := (← get).lastNumber
                  runWaiting fuel none
                  let finished := (← get).finished
                  done ((number.bind fun n => finished.lookup n).getD 127)
                else match Text.number? target with
                  | none => failIn "wait" ("Illegal number: ".toList ++ target)
                  | some n => do
                      runWaiting fuel (some n)
                      done (((← get).finished.lookup n).getD 127)
      | "command", _ | "builtin", true => do
          match arguments with
          | ['-', 'v'] :: names => do
              for name in names.take 1 do
                Builtin.describe true name
          | ['-', 'V'] :: names => do
              for name in names.take 1 do
                Builtin.describe false name
          | _ => do
              match arguments.dropWhile fun a => a == ['-', 'p'] || a == ['-', '-'] with
              | [] => done 0
              | name :: arguments =>
                  if Builtin.isOwn (← get).dialect name then do
                    match ← attempt (runOwn fuel tested name arguments) with
                    | .ok () | .error .error => pure ()
                    | .error e => throw e
                  else external launch false (name :: arguments)
      | "let", true => do
          let mut n : Int := 0
          for text in arguments do
            n ← calculate text
          done (if n = 0 then 1 else 0)
      | _, _ => do
          match Builtin.find? (← get).dialect name with
          | some f => f arguments
          | none => done 0

/-- Run the body of a function. -/
def callFunction : (fuel : Nat) → (tested : Bool) → (name : Text) → Command → List Text → Act Unit
  | 0, _, _, _, _ => throw (.killed 9)
  | fuel + 1, tested, name, body, arguments => do
      let before ← get
      if before.dialect = .rich then
        modify fun s => s.setVariable "FUNCNAME".toList
          { items := some ((['0'], name) :: (match before.lookUp? "FUNCNAME".toList with
              | some { items := some items, .. } => (items.zipIdx 1).map fun (entry, n) =>
                  (Text.decimal n, entry.2)
              | _ => [(['1'], "main".toList)])) }
      modify fun s => { s with
        parameters := arguments, hidden := [] :: s.hidden, loops := 0 }
      let r ← attempt (run fuel tested body)
      modify fun s =>
        let own := s.hidden.headD []
        let s := own.foldl (fun s entry => s.restoreVariable entry.1 entry.2) s
        { s with
          parameters := before.parameters, hidden := before.hidden, loops := before.loops
          line := before.line }
      if before.dialect = .rich then
        modify fun s => s.restoreVariable "FUNCNAME".toList (before.lookUp? "FUNCNAME".toList)
      match r with
      | .ok () | .error .return => pure ()
      | .error e => throw e

/-- Run commands that feed each other, from the number of an open file on; a status that has to be
kept is given. -/
def runPipeline : (fuel : Nat) → (tested : Bool) → (feed : Option Nat) → (kept : Nat) →
    (stages : List Nat) → List Command → Act Unit
  | 0, _, _, _, _, _ => throw (.killed 9)
  | _ + 1, _, _, _, _, [] => pure ()
  | fuel + 1, tested, feed, kept, stages, command :: rest => do
      let (pipe, job) := (← get).job.add { channel := .pipe }
      onJob fun _ => job
      let body : Act Unit := finish fuel do
        onJob fun j =>
          let j := match feed with
            | some id => j.attach 0 id
            | none => j
          if rest.isEmpty then j else j.attach 1 pipe
        run fuel tested command
      separately body
      onJob fun j => { j with opened := j.opened.filter fun o => some o.1 != feed }
      let s ← get
      let kept := if s.has 'P' ∧ s.status ≠ 0 then s.status else kept
      let stages := s.status :: stages
      if rest.isEmpty then do
        if s.dialect = .rich then setStages stages.reverse
        if s.has 'P' then done kept
      else runPipeline fuel tested (some pipe) kept stages rest

/-- Run a loop, whose status so far is given. -/
def runLoop : (fuel : Nat) → (tested until_ : Bool) → Command → Command → (status : Nat) → Act Unit
  | 0, _, _, _, _, _ => throw (.killed 9)
  | fuel + 1, tested, until_, test, body, status => do
      if ← inLoop (run fuel true test) then
        if ((← get).status == 0) == until_ then done status
        else do
          if ← inLoop (run fuel tested body) then
            runLoop fuel tested until_ test body (← get).status

/-- Run a command once for each value of a variable. -/
def runEach : (fuel : Nat) → (tested : Bool) → Text → List Text → Command → Act Unit
  | 0, _, _, _, _ => throw (.killed 9)
  | _ + 1, _, _, [], _ => pure ()
  | fuel + 1, tested, name, value :: values, body => do
      assign name value
      if ← inLoop (run fuel tested body) then runEach fuel tested name values body

/-- Run a command as long as an expression is not zero, and evaluate another one each time. -/
def runCount : (fuel : Nat) → (tested : Bool) → (test step : Act Int) → Command → Act Unit
  | 0, _, _, _, _ => throw (.killed 9)
  | fuel + 1, tested, test, step, body => do
      if (← test) ≠ 0 then
        if ← inLoop (run fuel tested body) then do
          let _ ← step
          runCount fuel tested test step body

/-- Run the first arm with a pattern that a text fits; the patterns may have been found to fit
already. -/
def runArms : (fuel : Nat) → (tested : Bool) → Text → (fits : Bool) →
    List (List Word × Command × ArmEnd) → Act Unit
  | 0, _, _, _, _ => throw (.killed 9)
  | _ + 1, _, _, _, [] => pure ()
  | fuel + 1, tested, text, fits, (patterns, body, ending) :: arms => do
      let d := (← get).dialect
      let found ← if fits then pure true else anyFits fuel d text patterns
      if ¬ found then runArms fuel tested text false arms
      else do
        run fuel tested body
        match ending with
        | .leaves => pure ()
        | .goesOn => runArms fuel tested text true arms
        | .looksOn => runArms fuel tested text false arms

/-- Does a text fit one of some patterns?  Those after it are not expanded. -/
def anyFits : (fuel : Nat) → Dialect → Text → List Word → Act Bool
  | 0, _, _, _ => throw (.killed 9)
  | _ + 1, _, _, [] => return false
  | fuel + 1, d, text, w :: ws => do
      let p ← expandPattern (captureText fuel) w
      if p.fits d text then return true else anyFits fuel d text ws

/-- Run a text line by line. -/
def runText : (fuel : Nat) → (tested : Bool) → (line : Nat) → Text → Act Unit
  | 0, _, _, _ => throw (.killed 9)
  | fuel + 1, tested, line, text => do
      let dialect := (← get).dialect
      runLines fuel tested (readingFuel text) { text, line, dialect }

/-- Run the lines of a script. -/
def runLines : (fuel : Nat) → (tested : Bool) → (reading : Nat) → Source → Act Unit
  | 0, _, _, _ => throw (.killed 9)
  | fuel + 1, tested, reading, source => do
      match nextCommand reading { source with aliases := (← get).aliases } with
      | .error fault => do
          modify fun s => { s with line := fault.line }
          if (← get).dialect = .rich then do
            blame ("syntax error: ".toList ++ fault.message)
            done 2
          else fail ("Syntax error: ".toList ++ fault.message)
      | .ok none => pure ()
      | .ok (some (command, source)) => do
          if (← get).dialect = .rich then
            match ← attempt (run fuel tested command) with
            | .ok () | .error .error => pure ()
            | .error e => throw e
          else run fuel tested command
          runLines fuel tested reading source

/-- The output of a command. -/
def captureText : (fuel : Nat) → Command → Act Text
  | 0, _ => throw (.killed 9)
  | fuel + 1, command => do
      let before := (← get).status
      let (pipe, job) := (← get).job.add { channel := .pipe }
      onJob fun _ => job
      let shown : Option Word := match command, (← get).dialect with
        | .simple _ [] [] [{ stream := 0, target := .input, word }], .rich => some word
        | _, _ => none
      separately (finish fuel do
        onJob fun j => j.attach 1 pipe
        match shown with
        | some word => do
            redirectTo { stream := 0, target := .input, word }
              (← expandText (captureText fuel) word)
            let (text, job) := (← get).job.readAll 0
            onJob fun _ => job
            print (text.toOption.getD [])
            done 0
        | none => run fuel false command)
      let s ← get
      let text := match s.job.opened.lookup pipe with
        | some file => file.available
        | none => []
      modify fun s => { s with
        job := { s.job with opened := s.job.opened.filter (·.1 != pipe) }
        substituted := some s.status
        status := before }
      return text

/-- Run the processes that nobody has waited for: the one with a number, or all of them. -/
def runWaiting : (fuel : Nat) → Option Nat → Act Unit
  | 0, _ => throw (.killed 9)
  | fuel + 1, target => do
      let s ← get
      let (chosen, others) := s.waiting.partition fun b => target.all (· == b.number)
      modify fun s => { s with waiting := others }
      for b in chosen do
        let s ← get
        let child := s.job.child
        let (nothing, child) := child.add { channel := .nothing }
        let own : State := { b.setting with
          job := { child with
            number := b.number
            nextNumber := s.job.nextNumber
            descriptors := (0, nothing) :: b.descriptors.filter (·.1 != 0)
            disk := { child.disk with current := b.current } } }
        let (r, after) := finish fuel (run fuel false b.command) own
        modify fun s => { s with
          job := s.job.rejoin after.job
          finished := (b.number, statusAfter r after) :: s.finished }

/-- Do what has been set for signals that have come. -/
def checkSignals : (fuel : Nat) → Act Unit
  | 0 => throw (.killed 9)
  | fuel + 1 => do
      let s ← get
      if ¬ s.job.signals.isEmpty then do
        let (mine, others) := s.job.signals.partition (·.1 == s.job.number)
        onJob fun j => { j with signals := others }
        for (_, signal) in mine do
          match s.traps.lookup (Builtin.signalName signal) with
          | some action =>
              if signal = 9 then throw (.killed signal)
              else if ¬ action.isEmpty then do
                let before := (← get).status
                modify fun s => { s with trapped := some before }
                runText fuel false s.line action
                modify fun s => { s with trapped := none }
                done before
          | none => if ¬ Builtin.isHarmless signal then throw (.killed signal)

/-- Run a part of the script that has a state of its own, and do what has been set for its end. -/
def finish : (fuel : Nat) → Act Unit → Act Unit
  | 0, _ => throw (.killed 9)
  | fuel + 1, body => do
      let ended ← attempt body
      let s ← get
      let isLast : Bool := match ended with
        | .error (.killed signal) => s.dialect == .plain || signal == 9 || signal == 13
        | _ => false
      match ended, isLast with
      | .error (.killed signal), true => throw (.killed signal)
      | _, _ => do
          match s.traps.lookup "EXIT".toList with
          | none => pure ()
          | some action => do
              modify fun s => { s with
                traps := s.traps.filter (·.1 != "EXIT".toList)
                trapped := some s.status }
              match ← attempt (runText fuel false s.line action) with
              | .error .exit | .error .error => pure ()
              | .error (.killed signal) => throw (.killed signal)
              | _ => done s.status
          let status := (← get).status
          runWaiting fuel none
          done status
          match ended with
          | .error (.killed signal) => throw (.killed signal)
          | _ => pure ()

end

end Act

/-! ### The shell as a program -/

/-- How many commands can be run one within the other, and how many rounds a loop can take. -/
def runFuel : Nat := 10000000

/-- The variables of a shell when it starts. -/
def firstVariables (d : Dialect) (job : Job) (directory : Text) : List (Text × Variable) :=
  let facts : List (String × String) := if d = .plain then []
    else [("BASH", "/bin/bash"), ("UID", "0"), ("EUID", "0"), ("SECONDS", "0"),
      ("HOSTTYPE", "x86_64"), ("OSTYPE", "linux-gnu"), ("MACHTYPE", "x86_64-pc-linux-gnu")]
  let own : List (Text × Variable) :=
    [("OPTIND".toList, { value := some ['1'] }),
      ("IFS".toList, { value := some [' ', '\t', '\n'] }),
      ("PPID".toList, { value := some (Text.decimal job.parent) }),
      ("PS1".toList, { value := some "# ".toList }),
      ("PS2".toList, { value := some "> ".toList }),
      ("PS4".toList, { value := some "+ ".toList }),
      ("PWD".toList, { value := some directory, exported := true })] ++
    facts.map fun (name, value) => (name.toList, { value := some value.toList })
  let given := job.environment.filter fun entry =>
    isName entry.1 && (own.lookup entry.1).isNone
  own ++ given.map fun (name, value) => (name, { value := some value, exported := true })

/-- The path of the current directory as the environment has it, if it leads there. -/
def firstDirectory (job : Job) : Text :=
  match job.lookUp? "PWD" with
  | some path =>
      match job.disk.find (Text.bytes path) with
      | .ok (l, _) =>
          if l = job.disk.current ∧ path.head? = some '/' then path
          else Text.ofBytes job.disk.currentPath
      | .error _ => Text.ofBytes job.disk.currentPath
  | none => Text.ofBytes job.disk.currentPath

/-- The words after two hyphens that a rich shell takes for options and that change nothing. -/
def idleWords : List String := ["--norc", "--noprofile", "--posix", "--login", "--restricted"]

/-- What a shell does with its arguments: options, then a script and arguments for it. -/
def start (launch : Launch) (arguments : List Text) : Act Unit := do
  let rich := (← get).dialect == .rich
  let arguments := if rich then
      arguments.dropWhile fun a => idleWords.contains (String.ofList a)
    else arguments
  let isCommand (a : Text) : Bool :=
    a.head? == some '-' && a.getD 1 '-' != '-' && a.contains 'c'
  let heading := arguments.takeWhile fun a => a.head? == some '-' || a.head? == some '+'
  let fromText := heading.any isCommand
  let cleaned := arguments.map fun a => if heading.contains a ∧ isCommand a then
      a.filter (· != 'c') else a
  let cleaned := cleaned.filter fun a => !(fromText && a == ['-'])
  modify fun s => { s with line := 0 }
  let (_, rest) ← Builtin.options "" cleaned
  modify fun s => { s with line := 1 }
  let fromInput := !fromText && (← get).has 's'
  if fromInput then modify fun s => { s with parameters := rest }
  let rest := if fromInput then [] else rest
  let text ← match fromText, rest with
    | true, script :: rest => do
        modify fun s => { s with name := rest.headD s.name, parameters := rest.drop 1 }
        pure script
    | true, [] => do
        modify fun s => { s with line := 0 }
        fail "-c requires an argument".toList
    | false, path :: rest =>
        match (← get).job.fileText path with
        | (.error e, _) => do
            if rich then do
              complain ((← get).name ++ ": ".toList ++ path ++ ": ".toList ++ Job.errorText e)
              Act.done 127
              throw .exit
            else do
              modify fun s => { s with line := 0 }
              fail ("cannot open ".toList ++ path ++ ": ".toList ++ Act.openingErrorText e)
        | (.ok text, job) => do
            modify fun s => { s with job, name := path, parameters := rest }
            if rich then
              modify fun s => s.setVariable "BASH_SOURCE".toList
                { items := some [(['0'], path)] }
            pure text
    | false, [] => do
        let (answer, job) := (← get).job.readAll 0
        Act.onJob fun _ => job
        pure (answer.toOption.getD [])
  Act.runText launch runFuel false 1 text
where
  fail {α : Type} (text : Text) : Act α := Act.fail text
  complain (text : Text) : Act Unit := Act.complain text

/-- **The shell as a program.** -/
def program (dialect : Dialect) : Programs.Program := fun launch arguments job =>
  let directory := firstDirectory job
  let s : State :=
    { dialect
      name := job.name
      bindings := firstVariables dialect job directory
      directory
      shellNumber := job.number
      job }
  match Act.finish launch runFuel (start launch arguments) s with
  | (.error (.killed signal), s) => (.killed signal, s.job)
  | (_, s) => (.exited (UInt8.ofNat s.status), s.job)

end LtoBridge.Shell
