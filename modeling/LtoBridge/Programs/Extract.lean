/-
**Parts of files.**

Programs that show all of their files or a part of them: the first or the last lines, or some
columns.

Main definitions:

* `LtoBridge.Programs.eachInput`: do something with every file that is named;
* `LtoBridge.Programs.cat`, `LtoBridge.Programs.head`, `LtoBridge.Programs.tail`,
  `LtoBridge.Programs.cut`, `LtoBridge.Programs.tee`.
-/

import LtoBridge.Programs.Job
import LtoBridge.Programs.Options

set_option autoImplicit false

namespace LtoBridge.Programs

/-! ### Inputs -/

/-- Complain about arguments that make no sense, with the given status. -/
def misused (program : String) (status : Nat) (j : Job) : Nat × Job :=
  (status, j.complain (program.toList ++ ": invalid usage".toList))

/-- Do something with the text of every file that is named; without names, with the input.  What
cannot be read gives the status 1. -/
def eachInput (program : String) (names : List Text) (j : Job)
    (f : (name text : Text) → Job → Job) : Nat × Job :=
  (if names.isEmpty then [['-']] else names).foldl (fun (status, j) name =>
    match j.fileText name with
    | (.ok text, j) => (status, f name text j)
    | (.error e, j) => (1, j.blame program name e)) (0, j)

/-- The texts of all files that are named, one after the other. -/
def allInputs (program : String) (names : List Text) (j : Job) : Text × Nat × Job :=
  let (status, (found, j)) :=
    (if names.isEmpty then [['-']] else names).foldl
      (fun (state : Nat × List Text × Job) name =>
        let (status, found, j) := state
        match j.fileText name with
        | (.ok text, j) => (status, text :: found, j)
        | (.error e, j) => (1, found, j.blame program name e)) (0, [], j)
  (found.reverse.flatten, status, j)

/-- A name within quotes. -/
def quotedName (name : Text) : Text := '\'' :: name ++ ['\'']

/-- The name of an input in a heading. -/
def shownName (name : Text) : Text := if name = ['-'] then "standard input".toList else name

/-- The number that a letter after a number multiplies it with. -/
def unit? (text : Text) : Option Nat :=
  match String.ofList text with
  | "" => some 1
  | "b" => some 512
  | "kB" | "KB" => some 1000
  | "k" | "K" | "KiB" => some 1024
  | "MB" => some 1000000
  | "M" | "MiB" => some 1048576
  | "GB" => some 1000000000
  | "G" | "GiB" => some 1073741824
  | _ => none

/-- A number with a letter after it.  White space and a plus sign can come before it. -/
def quantity? (text : Text) : Option Nat := do
  let text := text.dropWhile Text.isSpace
  let text := if text.head? = some '+' then text.tail else text
  let digits := text.takeWhile Char.isDigit
  let n ← Text.number? digits
  let unit ← unit? (text.drop digits.length)
  some (n * unit)

/-! ### Whole files -/

/-- A character with a mark for those that cannot be seen. -/
def visible (c : Char) : Text :=
  let n := c.toNat
  let low (n : Nat) : Text :=
    if n < 32 then ['^', Char.ofNat (n + 64)] else if n = 127 then ['^', '?'] else [Char.ofNat n]
  if n < 128 then low n else 'M' :: '-' :: low (n - 128)

/-- What has been shown so far, the last piece first, the number of the next line and whether the
last line was empty. -/
structure Shown where
  pieces : List Text := []
  next : Nat := 1
  afterEmpty : Bool := false
  inLine : Bool := false

/-- Show a line, or the rest of one, as the options want it. -/
def showLine (r : Request) (s : Shown) (line : Text) : Shown :=
  let isEmpty := line == ['\n'] && !s.inLine
  if r.has 's' && isEmpty && s.afterEmpty then s
  else
    let body := Text.chopped line
    let marks := r.has 'v' || r.has 'A' || r.has 'e' || r.has 't'
    let tabs := r.has 'T' || r.has 'A' || r.has 't'
    let body := body.flatMap fun c =>
      if c = '\t' then if tabs then ['^', 'I'] else [c] else if marks then visible c else [c]
    let ending := if line.getLast? = some '\n' then
        if r.has 'E' || r.has 'A' || r.has 'e' then ['$', '\n'] else ['\n']
      else []
    let numbers := !s.inLine && (if r.has 'b' then !isEmpty else r.has 'n')
    let number := if numbers then Text.pad false ' ' 6 (Text.decimal s.next) ++ ['\t'] else []
    { pieces := (number ++ body ++ ending) :: s.pieces
      next := if numbers then s.next + 1 else s.next
      afterEmpty := isEmpty
      inLine := ending.isEmpty }

/-- Show all of some files. -/
def cat : Tool := fun arguments j =>
  let grammar : Grammar :=
    { letters := "AbeEnstTuv"
      words := [("show-all", 'A'), ("number-nonblank", 'b'), ("show-ends", 'E'), ("number", 'n'),
        ("squeeze-blank", 's'), ("show-tabs", 'T'), ("show-nonprinting", 'v')] }
  match grammar.read arguments with
  | none => misused "cat" 1 j
  | some r =>
      if r.options.isEmpty then
        eachInput "cat" r.operands j fun _ text j => j.print text
      else
        let names := if r.operands.isEmpty then [['-']] else r.operands
        let (status, _, j) := names.foldl (fun (state : Nat × Shown × Job) name =>
          let (status, s, j) := state
          match j.fileText name with
          | (.ok text, j) =>
              let after := (Text.lines text).foldl (showLine r) { s with pieces := [] }
              (status, after, j.print after.pieces.reverse.flatten)
          | (.error e, j) => (1, s, j.blame "cat" name e)) (0, {}, j)
        (status, j)

/-- Show the input and write it to files. -/
def tee : Tool := fun arguments j =>
  let grammar : Grammar :=
    { letters := "aip", words := [("append", 'a'), ("ignore-interrupts", 'i')] }
  match grammar.read arguments with
  | none => misused "tee" 1 j
  | some r =>
      match j.readAll 0 with
      | (.error e, j) => (1, j.blame "tee" "read error".toList e)
      | (.ok text, j) =>
          r.operands.foldl (fun (status, j) name =>
            match j.openToWrite (r.has 'a') false name with
            | .error e => (1, j.blame "tee" name e)
            | .ok (id, opened) =>
                let written := (opened.attach 9 id).write 9 text
                (status, { written with descriptors := j.descriptors })) (0, j.print text)

/-! ### The first and the last lines -/

/-- The files that a program shows with a heading for each, if the options want one. -/
def withHeadings (program : String) (r : Request) (j : Job) (f : (text : Text) → Text) :
    Nat × Job :=
  let names := if r.operands.isEmpty then [['-']] else r.operands
  let headed := if r.has 'q' then false else r.has 'v' || names.length > 1
  let (status, _, j) := names.foldl (fun (state : Nat × Bool × Job) name =>
    let (status, isFirst, j) := state
    match j.fileText name with
    | (.ok text, j) =>
        let heading := if headed then
            (if isFirst then [] else ['\n']) ++ "==> ".toList ++ shownName name ++ " <==\n".toList
          else []
        (status, false, j.print (heading ++ f text))
    | (.error e, j) =>
        let complaint := program.toList ++ (match e with
          | .isDirectory => ": error reading ".toList ++ quotedName name
          | _ => ": cannot open ".toList ++ quotedName name ++ " for reading".toList) ++
            ": ".toList ++ Job.errorText e
        match e with
        | .isDirectory =>
            let heading := if headed then
                (if isFirst then [] else ['\n']) ++ "==> ".toList ++ name ++ " <==\n".toList
              else []
            (1, false, (j.print heading).complain complaint)
        | _ => (1, isFirst, j.complain complaint)) (0, true, j)
  (status, j)

/-- Arguments in which a number after a hyphen has been spelled out as an option. -/
def spelledOut : List Text → List Text
  | ('-' :: d :: digits) :: rest =>
      if d.isDigit then
        let number := d :: digits.takeWhile Char.isDigit
        match digits.dropWhile Char.isDigit with
        | ['c'] => ('-' :: 'c' :: number) :: rest
        | letters => ('-' :: 'n' :: number) ::
            (if letters.isEmpty then rest else ('-' :: letters) :: rest)
      else ('-' :: d :: digits) :: rest
  | arguments => arguments

/-- The first lines or characters of a text; all but the last ones if `most` is not set. -/
def firstPart (byLines most : Bool) (n : Nat) (text : Text) : Text :=
  if byLines then
    let lines := Text.lines text
    (if most then lines.take n else lines.take (lines.length - n)).flatten
  else if most then text.take n
  else text.take (text.length - n)

/-- Show the first lines of files. -/
def head : Tool := fun arguments j =>
  let grammar : Grammar :=
    { letters := "c:n:qvz"
      words := [("bytes", 'c'), ("lines", 'n'), ("quiet", 'q'), ("silent", 'q'),
        ("verbose", 'v')] }
  match grammar.read (spelledOut arguments) with
  | none => misused "head" 1 j
  | some r =>
      let byLines := r.lastOf? "cn" != some 'c'
      let value := (r.value? (if byLines then 'n' else 'c')).getD ['1', '0']
      let (most, digits) := match value with
        | '-' :: digits => (false, digits)
        | '+' :: digits => (true, digits)
        | digits => (true, digits)
      match quantity? digits with
      | none => (1, j.complain ("head: invalid number of lines: ".toList ++ quotedName value))
      | some n =>
          if r.operands.isEmpty ∧ ¬ r.has 'v' then
            let isSeekable : Bool := match j.file? 0 with
              | some (_, file) => file.channel != .pipe
              | none => false
            let available := if byLines ∨ ¬ most then j.pending 0 else j.peek 0 n
            match available with
            | .error e => (1, j.blame "head" "error reading 'standard input'".toList e)
            | .ok text =>
                let part := firstPart byLines most n text
                let used := if isSeekable then part.length else text.length
                (0, (j.print part).consume 0 used)
          else
            match byLines, most, r.operands with
            | false, true, [name] =>
                match j.openToRead name with
                | .ok (id, opened) =>
                    match (opened.attach 9 id).peek 9 n with
                    | .ok text => (0, j.print text)
                    | .error e => (1, j.blame "head" name e)
                | .error _ => withHeadings "head" r j id
            | _, _, _ => withHeadings "head" r j (firstPart byLines most n)

/-- The last lines or characters of a text, or those from a given one on. -/
def lastPart (byLines fromStart : Bool) (n : Nat) (text : Text) : Text :=
  if byLines then
    let lines := Text.lines text
    (lines.drop (if fromStart then n - 1 else lines.length - n)).flatten
  else text.drop (if fromStart then n - 1 else text.length - n)

/-- Arguments in which a number with a sign has been spelled out as an option, for which at most one
file may follow. -/
def spelledLast : List Text → List Text
  | (sign :: text) :: rest =>
      let isAlone : Bool := match rest with
        | [] | [['-', '-'], _] => true
        | [file] => file.head? != some '-' || file.length == 1 || file == ['-', '-']
        | _ => false
      let isNumber : Bool := sign == '+' || (sign == '-' && !text.isEmpty && text != ['c'])
      let digits := text.takeWhile Char.isDigit
      let (letter, after) := match text.drop digits.length with
        | 'c' :: after => ('c', after)
        | 'l' :: after => ('n', after)
        | after => ('n', after)
      if isAlone ∧ isNumber ∧ (after = [] ∨ after = ['f']) then
        ('-' :: letter :: sign :: if digits.isEmpty then ['1', '0'] else digits) :: rest
      else (sign :: text) :: rest
  | arguments => arguments

/-- Show the last lines of files. -/
def tail : Tool := fun arguments j =>
  let grammar : Grammar :=
    { letters := "c:fn:qs:vzF"
      words := [("bytes", 'c'), ("lines", 'n'), ("quiet", 'q'), ("silent", 'q'),
        ("verbose", 'v'), ("follow", 'f')] }
  match grammar.read (spelledLast arguments) with
  | none => misused "tail" 1 j
  | some r =>
      let byLines := r.lastOf? "cn" != some 'c'
      let value := (r.value? (if byLines then 'n' else 'c')).getD ['1', '0']
      let (fromStart, digits) := match value with
        | '+' :: digits => (true, digits)
        | '-' :: digits => (false, digits)
        | digits => (false, digits)
      match quantity? digits with
      | none => (1, j.complain ("tail: invalid number of lines: ".toList ++ quotedName value))
      | some n => withHeadings "tail" r j (lastPart byLines fromStart n)

/-! ### Columns -/

/-- A range of columns; without an end it goes on to the last one. -/
abbrev Columns := Nat × Option Nat

/-- Read a list of columns. -/
def columns? (text : Text) : Option (List Columns) :=
  (Text.splitAt (fun c => c == ',' || c == ' ') text).mapM fun part =>
    match Text.splitAt (· == '-') part with
    | [a] => (Text.number? a).bind fun n => if n = 0 then none else some (n, some n)
    | [a, b] => do
        let low ← if a.isEmpty then some 1 else Text.number? a
        let high ← if b.isEmpty then some none else (Text.number? b).map some
        if low = 0 ∨ (a.isEmpty ∧ b.isEmpty) ∨ high.any (· < low) then none else some (low, high)
    | _ => none

/-- Is a column in one of the ranges? -/
def isChosen (list : List Columns) (complement : Bool) (column : Nat) : Bool :=
  list.any (fun range => range.1 ≤ column && range.2.all (column ≤ ·)) != complement

/-- The chosen ones of some things, which are numbered from one on. -/
def choose {α : Type} (list : List Columns) (complement : Bool) (items : List α) : List α :=
  (items.zipIdx 1).filterMap fun (item, column) =>
    if isChosen list complement column then some item else none

/-- Show some columns of files. -/
def cut : Tool := fun arguments j =>
  let grammar : Grammar :=
    { letters := "b:c:d:f:nsz"
      words := [("bytes", 'b'), ("characters", 'c'), ("delimiter", 'd'), ("fields", 'f'),
        ("only-delimited", 's'), ("complement", 'C'), ("output-delimiter", 'O')] }
  let grammar := { grammar with letters := grammar.letters ++ "CO:" }
  match grammar.read arguments with
  | none => misused "cut" 1 j
  | some r =>
      match r.lastOf? "bcf" with
      | none =>
          (1, j.complain "cut: you must specify a list of bytes, characters, or fields".toList)
      | some kind =>
          match (r.value? kind).bind columns?, r.value? 'd' with
          | none, _ => (1, j.complain "cut: invalid field list".toList)
          | some list, delimiter =>
              if kind = 'f' ∧ delimiter.any (·.length > 1) then
                (1, j.complain "cut: the delimiter must be a single character".toList)
              else
                let mark := (delimiter.bind (·.head?)).getD '\t'
                let glue := (r.value? 'O').getD [mark]
                let part (line : Text) : Text :=
                  if kind = 'f' then
                    if line.contains mark then
                      glue.intercalate
                        (choose list (r.has 'C') (Text.splitAt (· == mark) line)) ++ ['\n']
                    else if r.has 's' then []
                    else line ++ ['\n']
                  else choose list (r.has 'C') line ++ ['\n']
                eachInput "cut" r.operands j fun _ text j =>
                  j.print ((Text.lines text).flatMap fun line => part (Text.chopped line))

end LtoBridge.Programs
