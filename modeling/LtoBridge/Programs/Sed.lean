/-
**Lines edited by a script.**

A script is a list of instructions, each with a choice of the lines that it is for.  For every line
of the input it is run from its beginning, and what has become of the line is shown at the end.

Main definitions:

* `LtoBridge.Programs.Sed.Instruction`, `LtoBridge.Programs.Sed.read`: scripts;
* `LtoBridge.Programs.Sed.Editor`, `LtoBridge.Programs.Sed.runFrom`: their run;
* `LtoBridge.Programs.sed`: the program.
-/

import LtoBridge.Programs.Extract
import LtoBridge.Programs.RegexSyntax

set_option autoImplicit false

namespace LtoBridge.Programs

open LtoBridge.Text (Regex)

namespace Sed

/-! ### Scripts -/

/-- A line that an instruction is for. -/
inductive Address
  | line (n : Nat)
  | last
  /-- One that an expression fits; without one it is the expression used before. -/
  | fits (regex : Option Regex)
  /-- A line and those at equal distances after it. -/
  | every (first step : Nat)
  deriving DecidableEq

/-- Where a range of lines ends. -/
inductive RangeEnd
  | at (a : Address)
  | after (lines : Nat)
  /-- At the next line whose number is a multiple. -/
  | multiple (n : Nat)
  deriving DecidableEq

/-- The lines that an instruction is for. -/
structure Choice where
  first : Option Address := none
  second : Option RangeEnd := none
  negated : Bool := false

/-- A part of a replacement. -/
inductive Part
  | text (t : Text)
  /-- The text of a group; group zero is the whole match. -/
  | group (n : Nat)
  /-- What follows is in capital or small letters; the first letter only if `once` holds. -/
  | case (upper : Option Bool) (once : Bool)
  deriving DecidableEq

/-- A replacement of what fits an expression. -/
structure Substitution where
  regex : Option Regex
  parts : List Part
  /-- The number of the first match that is replaced. -/
  number : Nat := 1
  every : Bool := false
  prints : Bool := false
  file : Option Text := none

/-- What an instruction does. -/
inductive Action
  | opens
  | closes
  | label (name : Text)
  | substitute (s : Substitution)
  | translate (source target : Text)
  | append (text : Text)
  | insert (text : Text)
  | change (text : Text)
  | jump (name : Text)
  | jumpIfDone (name : Text) (negated : Bool)
  | quit (status : Nat) (silent : Bool)
  | read (file : Text)
  | write (file : Text)
  /-- One of the instructions that are a letter alone. -/
  | letter (c : Char)

/-- An instruction. -/
structure Instruction where
  choice : Choice
  action : Action

/-- A step that takes something from a script. -/
abbrev Reader (α : Type) := StateT Text (Except String) α

/-- Skip characters with a property. -/
def skipWhile (p : Char → Bool) : Reader Unit := modify fun t => t.dropWhile p

/-- Take characters with a property. -/
def takeWhile (p : Char → Bool) : Reader Text := fun t => .ok (t.takeWhile p, t.dropWhile p)

/-- Take the next character, if there is one. -/
def next? : Reader (Option Char) := fun t => .ok (t.head?, t.tail)

/-- Take a number. -/
def number : Reader Nat := do
  return Text.ofDigits 10 (← takeWhile Char.isDigit)

/-- The text up to a mark, in which a backslash keeps the mark for the text, and what follows.
Within brackets of an expression the mark does not count. -/
def upTo (mark : Char) (inRegex : Bool) : (fuel : Nat) → (inSet : Bool) → Text →
    Option (Text × Text)
  | 0, _, _ => none
  | fuel + 1, inSet, text =>
      match text with
      | [] => none
      | '\\' :: c :: rest =>
          let kept := if c = mark ∧ ¬ inSet then [c]
            else if c = '\n' then ['\\', '\n']
            else ['\\', c]
          (upTo mark inRegex fuel inSet rest).map fun (t, rest) => (kept ++ t, rest)
      | c :: rest =>
          if c = mark ∧ ¬ inSet then some ([], rest)
          else if c = '\n' ∧ inRegex then none
          else
            let (skipped, nowIn, rest) : Text × Bool × Text :=
              if ¬ inRegex then ([c], false, rest)
              else if inSet then ([c], c != ']', rest)
              else if c = '[' then
                match rest with
                | '^' :: ']' :: rest => (['[', '^', ']'], true, rest)
                | ']' :: rest => (['[', ']'], true, rest)
                | '^' :: rest => (['[', '^'], true, rest)
                | rest => (['['], true, rest)
              else ([c], false, rest)
            (upTo mark inRegex fuel nowIn rest).map fun (t, rest) => (skipped ++ t, rest)

/-- Take a text up to a mark. -/
def delimited (mark : Char) (inRegex : Bool) (complaint : String) : Reader Text := fun t =>
  match upTo mark inRegex (t.length + 1) false t with
  | some r => .ok r
  | none => .error complaint

/-- The expression that a text stands for; an empty one is the expression used before. -/
def regexOf (extended caseless : Bool) (text : Text) : Except String (Option Regex) :=
  if text.isEmpty then .ok none
  else match RegexSyntax.parse? { extended, controls := true } text with
    | some r => .ok (some (if caseless then r.anyCase else r))
    | none => .error "unterminated address regex"

/-- Take an address, if one comes next. -/
def address? (extended : Bool) : Reader (Option Address) := do
  match ← get with
  | '$' :: rest => do
      set rest
      return some .last
  | '/' :: rest => do
      set rest
      let text ← delimited '/' true "unterminated address regex"
      finish text
  | '\\' :: c :: rest => do
      set rest
      let text ← delimited c true "unterminated address regex"
      finish text
  | c :: _ =>
      if c.isDigit then do
        let n ← number
        match ← get with
        | '~' :: rest => do
            set rest
            return some (.every n (← number))
        | _ => return some (.line n)
      else return none
  | [] => return none
where
  finish (text : Text) : Reader (Option Address) := do
    let flags ← takeWhile fun c => c == 'I' || c == 'M'
    return some (.fits (← regexOf extended (flags.contains 'I') text))

/-- Is the character a blank or the end of a line? -/
def isGap (c : Char) : Bool := c == ' ' || c == '\t' || c == '\n'

/-- Take the lines that an instruction is for. -/
def choice (extended : Bool) : Reader Choice := do
  let first ← address? extended
  skipWhile Text.isBlank
  let second ← match first, ← get with
    | some _, ',' :: rest => do
        set (rest.dropWhile Text.isBlank)
        match ← get with
        | '+' :: rest => do
            set rest
            pure (some (RangeEnd.after (← number)))
        | '~' :: rest => do
            set rest
            pure (some (RangeEnd.multiple (← number)))
        | _ =>
            match ← address? extended with
            | some a => pure (some (RangeEnd.at a))
            | none => throw "unexpected ','"
    | _, _ => pure none
  skipWhile Text.isBlank
  match ← get with
  | '!' :: rest => do
      set (rest.dropWhile fun c => Text.isBlank c || c == '!')
      return { first, second, negated := true }
  | _ => return { first, second }

/-- The parts of a replacement. -/
def partsOf : (fuel : Nat) → (found : Text) → Text → List Part
  | 0, _, _ => []
  | fuel + 1, found, text =>
      let plain : List Part := if found.isEmpty then [] else [.text found.reverse]
      match text with
      | [] => plain
      | '&' :: rest => plain ++ .group 0 :: partsOf fuel [] rest
      | '\\' :: c :: rest =>
          let more (p : Part) : List Part := plain ++ p :: partsOf fuel [] rest
          if c.isDigit then more (.group (c.toNat - 48))
          else match c with
            | 'U' => more (.case (some true) false)
            | 'L' => more (.case (some false) false)
            | 'u' => more (.case (some true) true)
            | 'l' => more (.case (some false) true)
            | 'E' => more (.case none false)
            | c =>
                let d := match c with
                  | 'n' => '\n'
                  | 't' => '\t'
                  | 'r' => '\r'
                  | 'f' => '\x0c'
                  | 'v' => '\x0b'
                  | 'a' => '\x07'
                  | c => c
                partsOf fuel (d :: found) rest
      | c :: rest => partsOf fuel (c :: found) rest

/-- Take the rest of a line. -/
def restOfLine : Reader Text := do
  let text ← takeWhile (· != '\n')
  return text

/-- Take a replacement. -/
def substitution (extended : Bool) : Reader Action := do
  match ← next? with
  | none => throw "unterminated `s' command"
  | some mark => do
      let pattern ← delimited mark true "unterminated `s' command"
      let target ← delimited mark false "unterminated `s' command"
      let flags ← takeWhile fun c => "gpiImMe".toList.contains c || c.isDigit
      let file ← match ← get with
        | 'w' :: rest => do
            set (rest.dropWhile Text.isBlank)
            let name ← restOfLine
            pure (some name)
        | _ => pure none
      let regex ← regexOf extended (flags.contains 'i' || flags.contains 'I') pattern
      let digits := flags.filter Char.isDigit
      if digits = ['0'] then throw "number option to `s' command may not be zero"
      return .substitute
        { regex
          parts := partsOf (target.length + 1) [] target
          number := (Text.number? digits).getD 1
          every := flags.contains 'g'
          prints := flags.contains 'p'
          file }

/-- The characters of a translation. -/
def translated : Text → Text
  | '\\' :: 'n' :: rest => '\n' :: translated rest
  | '\\' :: 't' :: rest => '\t' :: translated rest
  | '\\' :: '\\' :: rest => '\\' :: translated rest
  | c :: rest => c :: translated rest
  | [] => []

/-- The lines of a text that is put in, which goes on after a backslash. -/
def textLines : (found : Text) → Text → Text × Text
  | found, [] => (found.reverse, [])
  | found, '\\' :: c :: rest => textLines (c :: found) rest
  | found, '\n' :: rest => (found.reverse, rest)
  | found, c :: rest => textLines (c :: found) rest

/-- Take a text that is put in. -/
def givenText : Reader Text := do
  skipWhile Text.isBlank
  match ← get with
  | [] => throw "expected \\ after `a', `c' or `i'"
  | '\\' :: rest => do
      let rest := rest.dropWhile Text.isBlank
      set (match rest with
        | '\n' :: rest => rest
        | rest => rest)
  | _ => pure ()
  let (text, rest) := textLines [] (← get)
  set ('\n' :: rest)
  return text ++ ['\n']

/-- Take a label or the name of one. -/
def labelName : Reader Text := do
  skipWhile Text.isBlank
  let name ← takeWhile fun c => c != '\n' && c != ';'
  return Text.trimmed name

/-- Take what an instruction does. -/
def action (extended : Bool) : Reader Action := do
  match ← next? with
  | none => throw "missing command"
  | some c => do
      match c with
      | '\x7b' => return .opens
      | '\x7d' => return .closes
      | ':' => do
          let name ← labelName
          if name.isEmpty then throw "\":\" lacks a label" else return .label name
      | 's' => substitution extended
      | 'y' => do
          match ← next? with
          | none => throw "unterminated `y' command"
          | some mark => do
              let source ← delimited mark false "unterminated `y' command"
              let target ← delimited mark false "unterminated `y' command"
              let source := translated source
              let target := translated target
              if source.length ≠ target.length then
                throw "strings for `y' command are different lengths"
              else return .translate source target
      | 'a' => return .append (← givenText)
      | 'i' => return .insert (← givenText)
      | 'c' => return .change (← givenText)
      | 'b' => return .jump (← labelName)
      | 't' => return .jumpIfDone (← labelName) false
      | 'T' => return .jumpIfDone (← labelName) true
      | 'q' => do
          skipWhile Text.isBlank
          return .quit (← number) false
      | 'Q' => do
          skipWhile Text.isBlank
          return .quit (← number) true
      | 'r' => do
          skipWhile Text.isBlank
          return .read (← restOfLine)
      | 'w' => do
          skipWhile Text.isBlank
          return .write (← restOfLine)
      | c =>
          if "=dDgGhHlnNpPxzF".toList.contains c then return .letter c
          else throw "unknown command"

/-- Take instructions to the end of the script.  Each takes a character, so its length is enough
fuel. -/
def instructions (extended : Bool) : (fuel : Nat) → (found : List Instruction) →
    Reader (List Instruction)
  | 0, found => return found.reverse
  | fuel + 1, found => do
      skipWhile fun c => isGap c || c == ';'
      match ← get with
      | [] => return found.reverse
      | '#' :: _ => do
          let _ ← restOfLine
          instructions extended fuel found
      | _ => do
          let chosen ← choice extended
          let a ← action extended
          skipWhile Text.isBlank
          match ← get with
          | [] | '\n' :: _ | ';' :: _ | '\x7d' :: _ | '#' :: _ => pure ()
          | _ =>
              match a with
              | .opens => pure ()
              | _ => throw "extra characters after command"
          instructions extended fuel ({ choice := chosen, action := a } :: found)

/-- Do the braces of a script belong together? -/
def isBalanced (script : List Instruction) : Bool :=
  let depth := script.foldl (fun (depth : Option Nat) i =>
    match depth, i.action with
    | some n, .opens => some (n + 1)
    | some (n + 1), .closes => some n
    | some 0, .closes => none
    | depth, _ => depth) (some 0)
  depth == some 0

/-- Read a script. -/
def read (extended : Bool) (text : Text) : Except String (List Instruction) := do
  let (script, _) ← (instructions extended (text.length + 1) []).run text
  if isBalanced script then .ok script else .error "unmatched `\x7b'"

/-! ### The run -/

/-- The state of a run. -/
structure Editor where
  job : Job
  /-- The line that is edited. -/
  space : Text := []
  /-- A text that is kept for later. -/
  hold : Text := []
  number : Nat := 0
  /-- Did the line have an end? -/
  ended : Bool := true
  /-- The lines that are still to be read. -/
  input : List Text := []
  /-- What is shown after the line. -/
  queue : List Text := []
  /-- What has been shown, the last piece first. -/
  shown : List Text := []
  /-- Does the output lack the end of a line? -/
  lacksEnd : Bool := false
  replaced : Bool := false
  /-- The ranges that have begun, by instruction, each with the line where it ends if that is
  known. -/
  active : List (Nat × Option Nat) := []
  regex : Option Regex := none

namespace Editor

/-- Show a text. -/
def put (e : Editor) (text : Text) : Editor :=
  if text.isEmpty then e
  else { e with
    shown := (if e.lacksEnd then '\n' :: text else text) :: e.shown, lacksEnd := false }

/-- Show a text as a line, whose end is left out if the line that is edited has none. -/
def putLine (e : Editor) (text : Text) : Editor :=
  if e.ended then e.put (text ++ ['\n'])
  else
    let e := if text.isEmpty then e else e.put text
    { e with lacksEnd := true }

/-- Show what has been kept for the end of the line. -/
def flush (e : Editor) : Editor :=
  { (e.queue.foldl put e) with queue := [] }

/-- Read the next line, if there is one. -/
def next? (e : Editor) : Option Editor :=
  match e.input with
  | [] => none
  | line :: rest => some { e with
      space := Text.chopped line, ended := line.getLast? == some '\n', input := rest
      number := e.number + 1 }

/-- Write a line to a file. -/
def writeFile (e : Editor) (file : Text) (line : Text) : Editor :=
  if file = "/dev/stdout".toList then e.put line
  else
    let job := (e.job.onDisk (·.append (Text.bytes file) (Text.bytes line))).toOption
    { e with job := job.getD e.job }

/-- Is the line one that an address is for? -/
def fits (e : Editor) (a : Address) : Bool × Editor :=
  match a with
  | .line n => (e.number == n, e)
  | .last => (e.input.isEmpty, e)
  | .every first step =>
      (if step = 0 then e.number == first
        else first ≤ e.number && (e.number - first) % step == 0, e)
  | .fits regex =>
      match regex.or e.regex with
      | none => (false, e)
      | some r => ((r.find? e.space).isSome, { e with regex := some r })

/-- Is an instruction for the line?  Its place tells the ranges apart. -/
def isChosen (e : Editor) (place : Nat) (c : Choice) : Bool × Editor :=
  let (chosen, e) : Bool × Editor :=
    match c.first, c.second with
    | none, _ => (true, e)
    | some a, none => e.fits a
    | some a, some stop =>
        let without : Editor := { e with active := e.active.filter (·.1 != place) }
        let begin (endLine : Option Nat) (e : Editor) : Editor :=
          { e with active := (place, endLine) :: e.active.filter (·.1 != place) }
        match e.active.lookup place with
        | some (some last) =>
            if e.number < last then (true, e)
            else if e.number = last then (true, without)
            else
              /- The end has been passed while other lines were read. -/
              e.fits a |>.map id fun _ => without
        | some none =>
            match stop with
            | .at (.line n) => (e.number ≤ n, if e.number < n then e else without)
            | .at b =>
                let (ends, e) := e.fits b
                (true, if ends then { e with active := e.active.filter (·.1 != place) } else e)
            | _ => (true, without)
        | none =>
            let (starts, e) := if a = .line 0 ∧ e.number = 1 then (true, e) else e.fits a
            if ¬ starts then (false, e)
            else match stop with
              | .after n => (true, if n = 0 then e else begin (some (e.number + n)) e)
              | .multiple n =>
                  let last := if n = 0 then e.number else (e.number + n - 1) / n * n
                  (true, if last ≤ e.number then e else begin (some last) e)
              | .at (.line n) => (true, if n ≤ e.number then e else begin none e)
              | .at b =>
                  if a = .line 0 then
                    let (ends, e) := e.fits b
                    (true, if ends then e else begin none e)
                  else (true, begin none e)
  (chosen != c.negated, e)

end Editor

/-- A text that is put together letter by letter, with the case of what follows. -/
structure Casing where
  text : List Text := []
  always : Option Bool := none
  once : Option Bool := none

/-- Add a text in the case that is due. -/
def Casing.add (c : Casing) (text : Text) : Casing :=
  let shift (upper : Bool) (d : Char) : Char := if upper then d.toUpper else d.toLower
  let text := match c.always with
    | some upper => text.map (shift upper)
    | none => text
  match c.once, text with
  | some upper, d :: rest => { c with text := (shift upper d :: rest) :: c.text, once := none }
  | _, _ => { c with text := text :: c.text }

/-- The text of a replacement for a match. -/
def replacement (parts : List Part) (whole : Text) (end_ : Regex.Spot) : Text :=
  let c := parts.foldl (fun (c : Casing) p =>
    match p with
    | .text t => c.add t
    | .group 0 => c.add whole
    | .group n => c.add ((end_.group? n).getD [])
    | .case upper true => { c with once := upper }
    | .case upper false => { c with always := upper, once := none }) {}
  c.text.reverse.flatten

/-- Replace what fits an expression from a spot on, of which the characters before are given, the
last one first.  Each step takes a character, so the length of the text is enough fuel. -/
def replaceFrom (s : Substitution) (r : Regex) : (fuel count : Nat) → (done : List Text) →
    (afterMatch : Bool) → (before after : Text) → Bool × List Text
  | 0, _, done, _, _, after => (false, after :: done)
  | fuel + 1, count, done, afterMatch, before, after =>
      match r.findFrom? before after with
      | none => (false, after :: done)
      | some (start, stop) =>
          let size := start.before.length - before.length
          let skipped := after.take size
          let whole := start.after.take stop.position
          let passed := skipped :: done
          let step (passed : List Text) (count : Nat) : Bool × List Text :=
            match stop.position, start.after with
            | 0, c :: rest =>
                replaceFrom s r fuel count ([c] :: passed) false (c :: start.before) rest
            | 0, [] => (false, passed)
            | _, _ => replaceFrom s r fuel count passed true stop.before stop.after
          if afterMatch ∧ whole.isEmpty ∧ size = 0 then step passed count
          else if count + 1 < s.number then step (whole :: passed) (count + 1)
          else
            let passed := replacement s.parts whole stop :: passed
            if s.every then
              let (_, done) := step passed (count + 1)
              (true, done)
            else (true, stop.after :: passed)

/-- A text as it can be shown whatever is in it, in lines of a width. -/
def unambiguous (text : Text) : Text :=
  let shown (c : Char) : Text :=
    match c with
    | '\\' => "\\\\".toList
    | '\x07' => "\\a".toList
    | '\x08' => "\\b".toList
    | '\x0c' => "\\f".toList
    | '\n' => "\\n".toList
    | '\r' => "\\r".toList
    | '\t' => "\\t".toList
    | '\x0b' => "\\v".toList
    | c =>
        if Text.isPrintable c then [c]
        else '\\' :: Text.pad false '0' 3 (Nat.toDigits 8 c.toNat)
  let (line, lines) := (text.map shown).foldl (fun (state : Text × List Text) piece =>
    let (line, lines) := state
    if line.length + piece.length > 69 then (piece, (line ++ ['\\', '\n']) :: lines)
    else (line ++ piece, lines)) ([], [])
  lines.reverse.flatten ++ line ++ ['$', '\n']

/-- How the script goes on after an instruction. -/
inductive Flow
  | next
  | jump (place : Nat)
  /-- The line is done; it may be shown. -/
  | endLine (shows : Bool)
  /-- Begin again with what is left of the line. -/
  | restart
  | quit (status : Nat) (shows : Bool)

/-- The place after a label; without a name it is the end of the script. -/
def placeOf (script : Array Instruction) (name : Text) : Nat :=
  if name.isEmpty then script.size
  else match script.findIdx? fun i => match i.action with
      | .label n => n == name
      | _ => false with
    | some n => n + 1
    | none => script.size

/-- The place after the brace that closes the one before a place. -/
def afterBlock (script : Array Instruction) : (fuel depth place : Nat) → Nat
  | 0, _, place => place
  | fuel + 1, depth, place =>
      match script[place]? with
      | none => place
      | some i =>
          match i.action, depth with
          | .opens, depth => afterBlock script fuel (depth + 1) (place + 1)
          | .closes, 0 => place + 1
          | .closes, depth + 1 => afterBlock script fuel depth (place + 1)
          | _, depth => afterBlock script fuel depth (place + 1)

/-- Run an instruction that is a letter alone. -/
def runLetter (silent : Bool) (c : Char) (e : Editor) : Flow × Editor :=
  match c with
  | '=' => (.next, e.put (Text.decimal e.number ++ ['\n']))
  | 'd' => (.endLine false, e)
  | 'D' =>
      match e.space.dropWhile (· != '\n') with
      | _ :: rest => (.restart, { e with space := rest })
      | [] => (.endLine false, e)
  | 'g' => (.next, { e with space := e.hold })
  | 'G' => (.next, { e with space := e.space ++ '\n' :: e.hold })
  | 'h' => (.next, { e with hold := e.space })
  | 'H' => (.next, { e with hold := e.hold ++ '\n' :: e.space })
  | 'x' => (.next, { e with space := e.hold, hold := e.space })
  | 'z' => (.next, { e with space := [] })
  | 'F' => (.next, e.put "-\n".toList)
  | 'l' => (.next, e.put (unambiguous e.space))
  | 'p' => (.next, e.putLine e.space)
  | 'P' => (.next, e.put (e.space.takeWhile (· != '\n') ++ ['\n']))
  | 'n' =>
      if e.input.isEmpty then (.quit 0 true, e)
      else
        let e := if silent then e else e.putLine e.space
        (.next, (e.flush.next?).getD e)
  | _ =>
      if e.input.isEmpty then (.quit 0 true, e)
      else
        let before := e.space
        let e := (e.flush.next?).getD e
        (.next, { e with space := before ++ '\n' :: e.space })

/-- Run the instruction at a place, for a line that it is for. -/
def runAction (silent : Bool) (script : Array Instruction) (place : Nat) (i : Instruction)
    (e : Editor) : Flow × Editor :=
  match i.action with
  | .opens | .closes | .label _ => (.next, e)
  | .letter c => runLetter silent c e
  | .substitute s =>
      match s.regex.or e.regex with
      | none => (.next, e)
      | some r =>
          let e := { e with regex := some r }
          let (found, pieces) := replaceFrom s r (e.space.length + 2) 0 [] false [] e.space
          if ¬ found then (.next, e)
          else
            let e := { e with space := pieces.reverse.flatten, replaced := true }
            let e := if s.prints then e.putLine e.space else e
            match s.file with
            | some file => (.next, e.writeFile file (e.space ++ ['\n']))
            | none => (.next, e)
  | .translate source target =>
      let pairs := source.zip target
      (.next, { e with space := e.space.map fun c => (pairs.lookup c).getD c })
  | .append text => (.next, { e with queue := e.queue ++ [text] })
  | .insert text => (.next, e.put text)
  | .change text =>
      let isOver := i.choice.second.isNone || i.choice.negated ||
        (e.active.lookup place).isNone
      (.endLine false, if isOver then e.put text else e)
  | .jump name => (.jump (placeOf script name), e)
  | .jumpIfDone name negated =>
      let e' := { e with replaced := false }
      if e.replaced != negated then (.jump (placeOf script name), e') else (.next, e')
  | .quit status quiet => (.quit status (!quiet), e)
  | .read file =>
      match (e.job.fileText file).1 with
      | .ok text => (.next, { e with queue := e.queue ++ [text] })
      | .error _ => (.next, e)
  | .write file => (.next, e.writeFile file (e.space ++ ['\n']))

/-- Run a script from a place on, and for all lines of the input after that. -/
def runFrom (silent : Bool) (script : Array Instruction) : (fuel place : Nat) → Editor →
    Nat × Editor
  | 0, _, e => (4, e)
  | fuel + 1, place, e =>
      let finish (shows : Bool) (e : Editor) : Editor :=
        (if shows ∧ ¬ silent then e.putLine e.space else e).flush
      let nextLine (e : Editor) : Nat × Editor :=
        match e.next? with
        | some e => runFrom silent script fuel 0 { e with replaced := false }
        | none => (0, e)
      match script[place]? with
      | none => nextLine (finish true e)
      | some i =>
          match e.isChosen place i.choice with
          | (false, e) =>
              match i.action with
              | .opens =>
                  runFrom silent script fuel (afterBlock script script.size 0 (place + 1)) e
              | _ => runFrom silent script fuel (place + 1) e
          | (true, e) =>
              match runAction silent script place i e with
              | (.next, e) => runFrom silent script fuel (place + 1) e
              | (.jump place, e) => runFrom silent script fuel place e
              | (.endLine shows, e) => nextLine (finish shows e)
              | (.restart, e) => runFrom silent script fuel 0 e.flush
              | (.quit status shows, e) => (status, finish shows e)

/-- How many instructions can be run. -/
def runFuel : Nat := 20000000

/-- Run a script for all lines of a text: the status, the output and what is left behind. -/
def run (silent : Bool) (script : List Instruction) (input : List Text) (job : Job) :
    Nat × Text × Job :=
  let e : Editor := { job, input }
  match e.next? with
  | none => (0, [], job)
  | some e =>
      let (status, e) := runFrom silent script.toArray runFuel 0 e
      (status, e.shown.reverse.flatten, e.job)

/-- The files that a script writes to. -/
def files (script : List Instruction) : List Text := script.filterMap fun i =>
  match i.action with
  | .write file => some file
  | .substitute s => s.file
  | _ => none

end Sed

/-- Edit lines by a script. -/
def sed : Tool := fun arguments j =>
  let grammar : Grammar :=
    { letters := "bcEe:f:i?l:nrsuz"
      words := [("quiet", 'n'), ("silent", 'n'), ("expression", 'e'), ("file", 'f'),
        ("regexp-extended", 'E'), ("in-place", 'i'), ("separate", 's')] }
  match grammar.read arguments with
  | none => misused "sed" 1 j
  | some r =>
      let given := r.options.filter fun o => o.1 == 'e' || o.1 == 'f'
      let texts : Except (Text × OsError) (List Text) := given.mapM fun (letter, value) =>
        if letter = 'e' then .ok value
        else match (j.fileText value).1 with
          | .ok text => .ok (Text.chopped text)
          | .error e => .error (value, e)
      match texts with
      | .error (name, e) =>
          (1, j.complain ("sed: couldn't open file ".toList ++ name ++ ": ".toList ++
            Job.errorText e))
      | .ok texts =>
          let (text, names) := match given.isEmpty, r.operands with
            | false, names => (some (['\n'].intercalate texts), names)
            | true, script :: names => (some script, names)
            | true, [] => (none, [])
          match text with
          | none => misused "sed" 1 j
          | some text =>
              let extended := r.has 'E' || r.has 'r'
              let silent := r.has 'n' || "#n\n".toList.isPrefixOf text
              match Sed.read extended text with
              | .error complaint =>
                  (1, j.complain ("sed: -e expression #1, char 1: ".toList ++ complaint.toList))
              | .ok script =>
                  let j := (Sed.files script).foldl (fun j file =>
                    ((j.onDisk (·.create (Text.bytes file))).toOption).getD j) j
                  let names := if names.isEmpty then [['-']] else names
                  let said (name : Text) (e : OsError) : Text := match e with
                    | .isDirectory => "sed: couldn't edit ".toList ++ name ++
                        ": not a regular file".toList
                    | e => "sed: can't read ".toList ++ name ++ ": ".toList ++ Job.errorText e
                  if r.has 'i' ∨ r.has 's' then
                    names.foldl (fun (status, j) name =>
                      match j.fileText name with
                      | (.error e, j) =>
                          (if e = .isDirectory then 4 else 2, j.complain (said name e))
                      | (.ok text, j) =>
                          let (own, output, after) := Sed.run silent script (Text.lines text) j
                          let status := if own = 0 then status else own
                          if ¬ r.has 'i' then (status, after.print output)
                          else
                            let path := Text.bytes name
                            let suffix := (r.value? 'i').getD []
                            let changed := after.onDisk fun d => do
                              let executable := match d.find path with
                                | .ok (_, .file _ executable) => executable
                                | _ => false
                              let d ← if suffix.isEmpty then .ok d else do
                                let kept := Text.bytes (name ++ suffix)
                                let d ← d.create kept
                                d.append kept (Text.bytes text)
                              let d ← d.create path
                              let d ← d.append path (Text.bytes output)
                              d.setExecutable path executable
                            (status, changed.toOption.getD after)) (0, j)
                  else
                    let (lines, status, j) := names.foldl
                      (fun (state : List Text × Nat × Job) name =>
                        let (lines, status, j) := state
                        match j.fileText name with
                        | (.error .isDirectory, j) =>
                            (lines, 2, j.complain ("sed: read error on ".toList ++ name ++
                              ": Is a directory".toList))
                        | (.error e, j) => (lines, 2, j.complain (said name e))
                        | (.ok text, j) =>
                            /- Between files every line has an end. -/
                            let lines := if text.isEmpty then lines else lines.map Text.ended
                            (lines ++ Text.lines text, status, j)) ([], 0, j)
                    let (own, output, after) := Sed.run silent script lines j
                    (if own = 0 then status else own, after.print output)

end LtoBridge.Programs
