/-
**Lines in other forms.**

Main definitions:

* `LtoBridge.Programs.wc`: count lines, words and characters;
* `LtoBridge.Programs.tac`, `LtoBridge.Programs.rev`, `LtoBridge.Programs.nl`,
  `LtoBridge.Programs.paste`, `LtoBridge.Programs.fold`: turn, number, join and break lines;
* `LtoBridge.Programs.seq`: make lines with numbers.
-/

import LtoBridge.Programs.Extract
import LtoBridge.Programs.Format

set_option autoImplicit false

namespace LtoBridge.Programs

/-! ### Counting -/

/-- What is counted in a text. -/
structure Counts where
  lines : Nat := 0
  words : Nat := 0
  characters : Nat := 0
  bytes : Nat := 0
  longest : Nat := 0

namespace Counts

/-- The sum of counts, of which the longest line is the longer one of both. -/
def add (a b : Counts) : Counts :=
  { lines := a.lines + b.lines
    words := a.words + b.words
    characters := a.characters + b.characters
    bytes := a.bytes + b.bytes
    longest := max a.longest b.longest }

/-- The number of words of a text. -/
def wordCount (text : Text) : Nat :=
  (text.foldl (fun (state : Nat × Bool) c =>
    if Text.isSpace c then (state.1, false)
    else if state.2 then state
    else (state.1 + 1, true)) (0, false)).1

/-- The width of a line on a screen. -/
def lineWidth (line : Text) : Nat :=
  line.foldl (fun n c =>
    if c = '\t' then (n / 8 + 1) * 8 else if Text.isPrintable c then n + 1 else n) 0

/-- What is counted in a text. -/
def ofText (text : Text) : Counts :=
  { lines := text.count '\n'
    words := wordCount text
    characters := text.length
    bytes := text.length
    longest := ((Text.lines text).map lineWidth).foldl max 0 }

/-- The counts that are wanted. -/
def wanted (r : Request) (c : Counts) : List Nat :=
  let all := !("lwmcL".toList.any r.has)
  (if all || r.has 'l' then [c.lines] else []) ++ (if all || r.has 'w' then [c.words] else []) ++
    (if r.has 'm' then [c.characters] else []) ++ (if all || r.has 'c' then [c.bytes] else []) ++
    (if r.has 'L' then [c.longest] else [])

/-- Counts on a line, with a name after them. -/
def line (r : Request) (width : Nat) (c : Counts) (name : Text) : Text :=
  let numbers := (c.wanted r).map fun n => Text.pad false ' ' width (Text.decimal n)
  Text.spaced numbers ++ (if name.isEmpty then [] else ' ' :: name) ++ ['\n']

end Counts

/-- How much is known to be in a file before it is read; nothing if it is not a plain one. -/
def knownSize (j : Job) (name : Text) : Except OsError (Option Nat) :=
  let sizeOf (n : Node) : Option Nat := match n with
    | .file bytes _ => some bytes.length
    | .program _ => some Disk.programImage.length
    | _ => none
  if name = ['-'] then
    match j.file? 0 with
    | some (_, { channel := .file l, .. }) => .ok ((j.disk.tree.get? l).bind sizeOf)
    | some _ => .ok none
    | none => .error .badDescriptor
  else (j.disk.find (Text.bytes name)).map fun (_, n) => sizeOf n

/-- Count lines, words and characters of files. -/
def wc : Tool := fun arguments j =>
  let grammar : Grammar :=
    { letters := "clLmw"
      words := [("bytes", 'c'), ("chars", 'm'), ("lines", 'l'), ("words", 'w'),
        ("max-line-length", 'L')] }
  match grammar.read arguments with
  | none => misused "wc" 1 j
  | some r =>
      let names := if r.operands.isEmpty then [['-']] else r.operands
      let isSingle := names.length = 1 ∧ (Counts.wanted r {}).length = 1
      let width :=
        if isSingle then 1
        else
          let sizes := names.map (knownSize j)
          let total := sizes.foldl (fun n size => match size with
            | .ok (some size) => n + size
            | _ => n) 0
          let least := if sizes.any fun size => match size with
              | .ok none => true
              | _ => false
            then 7 else 1
          max least (Text.decimal total).length
      let shown (name : Text) : Text := if r.operands.isEmpty then [] else name
      let (status, total, j) := names.foldl (fun (state : Nat × Counts × Job) name =>
        let (status, total, j) := state
        match j.fileText name with
        | (.ok text, j) =>
            let counts := Counts.ofText text
            (status, total.add counts, j.print (counts.line r width (shown name)))
        | (.error .isDirectory, j) =>
            (1, total, (j.blame "wc" name .isDirectory).print
              (Counts.line r width {} (shown name)))
        | (.error e, j) => (1, total, j.blame "wc" name e)) (0, {}, j)
      (status, if names.length > 1 then j.print (total.line r width "total".toList) else j)

/-! ### Turning, numbering and joining -/

/-- Show the lines of files from the last one to the first one. -/
def tac : Tool := fun arguments j =>
  let grammar : Grammar := { letters := "brs:" }
  match grammar.read arguments with
  | none => misused "tac" 1 j
  | some r => eachInput "tac" r.operands j fun _ text j =>
      j.print (Text.lines text).reverse.flatten

/-- Show lines with their characters in the opposite order. -/
def rev : Tool := fun arguments j =>
  eachInput "rev" arguments j fun _ text j =>
    j.print ((Text.lines text).flatMap fun line =>
      (Text.chopped line).reverse ++ (if line.getLast? = some '\n' then ['\n'] else []))

/-- Show lines with numbers. -/
def nl : Tool := fun arguments j =>
  let grammar : Grammar := { letters := "b:d:f:h:i:l:n:ps:v:w:" }
  match grammar.read arguments with
  | none => misused "nl" 1 j
  | some r =>
      let number (letter : Char) (usual : Nat) : Nat :=
        ((r.value? letter).bind Text.number?).getD usual
      let width := number 'w' 6
      let step := number 'i' 1
      let mark := (r.value? 's').getD ['\t']
      let style := (r.value? 'b').getD ['t']
      let form := (r.value? 'n').getD ['r', 'n']
      let (text, status, j) := allInputs "nl" r.operands j
      let shown := (Text.lines text).foldl (fun (state : List Text × Nat) line =>
        let (pieces, n) := state
        let body := Text.chopped line
        let counts := style = ['a'] ∨ (style = ['t'] ∧ ¬ body.isEmpty)
        if counts then
          let digits := Text.decimal n
          let field := if form = ['l', 'n'] then Text.pad true ' ' width digits
            else Text.pad false (if form = ['r', 'z'] then '0' else ' ') width digits
          ((field ++ mark ++ body ++ ['\n']) :: pieces, n + step)
        else ((List.replicate (width + mark.length) ' ' ++ body ++ ['\n']) :: pieces, n))
        ([], number 'v' 1)
      (status, j.print shown.1.reverse.flatten)

/-- The separators that a text lists. -/
def separatorList : Text → List Text
  | '\\' :: 'n' :: rest => ['\n'] :: separatorList rest
  | '\\' :: 't' :: rest => ['\t'] :: separatorList rest
  | '\\' :: '0' :: rest => [] :: separatorList rest
  | '\\' :: c :: rest => [c] :: separatorList rest
  | c :: rest => [c] :: separatorList rest
  | [] => []

/-- Texts with separators between them, which are used in turn. -/
def joinedWith (separators : List Text) (texts : List Text) : Text :=
  match texts with
  | [] => []
  | first :: rest =>
      first ++ (rest.zipIdx 0).flatMap fun (t, n) =>
        (separators[n % separators.length]?).getD [] ++ t

/-- The lines of files side by side: as many rows as the longest file has lines. -/
def sideBySide : (fuel : Nat) → List (List Text) → List (List Text)
  | 0, _ => []
  | fuel + 1, columns =>
      if columns.all (·.isEmpty) then []
      else columns.map (·.headD []) :: sideBySide fuel (columns.map List.tail)

/-- Show the lines of files side by side or one after the other. -/
def paste : Tool := fun arguments j =>
  let grammar : Grammar :=
    { letters := "d:sz", words := [("delimiters", 'd'), ("serial", 's')] }
  match grammar.read arguments with
  | none => misused "paste" 1 j
  | some r =>
      let separators := separatorList ((r.value? 'd').getD ['\t'])
      let separators := if separators.isEmpty then [[]] else separators
      let names := if r.operands.isEmpty then [['-']] else r.operands
      let inputs := (names.filter (· == ['-'])).length
      let first := names.findIdx (· == ['-'])
      let read := (names.zipIdx 0).foldl
        (fun (state : Except (Nat × Job) (List (List Text) × Job)) (name, n) =>
          match state with
          | .error e => .error e
          | .ok (columns, j) =>
              if name = ['-'] ∧ n ≠ first ∧ ¬ r.has 's' then
                let all := (columns[first]?).getD []
                .ok (columns ++ [all], j)
              else match j.fileText name with
                | (.ok text, j) => .ok (columns ++ [(Text.lines text).map Text.chopped], j)
                | (.error e, j) => .error (1, j.blame "paste" name e)) (.ok ([], j))
      match read with
      | .error e => e
      | .ok (columns, j) =>
          if r.has 's' then
            (0, j.print (columns.flatMap fun lines => joinedWith separators lines ++ ['\n']))
          else
            /- Lines of the input go to the columns for it in turn. -/
            let columns := (names.zip columns).zipIdx 0 |>.map fun ((name, lines), n) =>
              if name = ['-'] ∧ inputs > 1 then
                let own := ((names.take n).filter (· == ['-'])).length
                (lines.zipIdx 0).filterMap fun (line, k) =>
                  if k % inputs = own then some line else none
              else lines
            let most := (columns.map List.length).foldl max 0
            (0, j.print ((sideBySide (most + 1) columns).flatMap fun row =>
              joinedWith separators row ++ ['\n']))

/-- Break a line into pieces of a width, after blanks if that is wanted.  Each piece takes at least
one character, so the length of the line is enough fuel. -/
def foldLine (width : Nat) (atBlanks : Bool) : (fuel : Nat) → Text → Text
  | 0, line => line
  | fuel + 1, line =>
      if line.length ≤ width then line
      else
        let piece := line.take width
        let kept := (piece.reverse.dropWhile (!Text.isBlank ·)).reverse
        let piece := if atBlanks ∧ ¬ kept.isEmpty then kept else piece
        piece ++ '\n' :: foldLine width atBlanks fuel (line.drop piece.length)

/-- Break long lines. -/
def fold : Tool := fun arguments j =>
  let grammar : Grammar :=
    { letters := "bsw:", words := [("width", 'w'), ("spaces", 's'), ("bytes", 'b')] }
  match grammar.read arguments with
  | none => misused "fold" 1 j
  | some r =>
      match Text.number? ((r.value? 'w').getD ['8', '0']) with
      | none | some 0 => (1, j.complain "fold: invalid number of columns".toList)
      | some width => eachInput "fold" r.operands j fun _ text j =>
          j.print ((Text.lines text).flatMap fun line =>
            let body := Text.chopped line
            foldLine width (r.has 's') (body.length + 1) body ++ line.drop body.length)

/-- A line with blanks in place of tabs, of which the next stands at a column. -/
def withoutTabs (width : Nat) (column : Nat) : Text → Text
  | [] => []
  | '\t' :: rest =>
      let n := width - column % width
      List.replicate n ' ' ++ withoutTabs width (column + n) rest
  | c :: rest => c :: withoutTabs width (if c = '\n' then 0 else column + 1) rest

/-- Put blanks in place of tabs. -/
def expand : Tool := fun arguments j =>
  let grammar : Grammar := { letters := "it:", words := [("initial", 'i'), ("tabs", 't')] }
  match grammar.read arguments with
  | none => misused "expand" 1 j
  | some r =>
      match Text.number? ((r.value? 't').getD ['8']) with
      | none | some 0 => (1, j.complain "expand: tab size contains invalid character(s)".toList)
      | some width => eachInput "expand" r.operands j fun _ text j =>
          j.print (withoutTabs width 0 text)

/-- A line with tabs in place of blanks, some of which have been seen at its beginning. -/
def withTabs (width : Nat) (column blanks : Nat) : Text → Text
  | ' ' :: rest =>
      if (column + 1) % width = 0 then '\t' :: withTabs width (column + 1) 0 rest
      else withTabs width (column + 1) (blanks + 1) rest
  | '\t' :: rest => '\t' :: withTabs width (column + width - column % width) 0 rest
  | rest => List.replicate blanks ' ' ++ rest

/-- Put tabs in place of the blanks at the beginnings of lines. -/
def unexpand : Tool := fun arguments j =>
  let grammar : Grammar :=
    { letters := "at:", words := [("all", 'a'), ("tabs", 't'), ("first-only", 'f')] }
  match grammar.read arguments with
  | none => misused "unexpand" 1 j
  | some r =>
      match Text.number? ((r.value? 't').getD ['8']) with
      | none | some 0 => (1, j.complain "unexpand: tab size contains invalid character(s)".toList)
      | some width => eachInput "unexpand" r.operands j fun _ text j =>
          j.print ((Text.lines text).flatMap (withTabs width 0 0))

/-- The letters that tell parts of a file apart. -/
def partSuffix (digits : Bool) (length n : Nat) : Text :=
  (List.range length).reverse.map fun place =>
    if digits then Char.ofNat (48 + n / Nat.pow 10 place % 10)
    else Char.ofNat (97 + n / Nat.pow 26 place % 26)

/-- Cut a file into parts. -/
def split : Tool := fun arguments j =>
  let grammar : Grammar :=
    { letters := "a:b:C:dl:n:"
      words := [("bytes", 'b'), ("lines", 'l'), ("suffix-length", 'a'), ("numeric-suffixes", 'd')] }
  match grammar.read arguments with
  | none => misused "split" 1 j
  | some r =>
      let input := r.operands.headD ['-']
      let stem := r.operands.tail.headD ['x']
      match j.fileText input with
      | (.error e, j) =>
          (1, j.blame "split: cannot open" (quotedName input ++ " for reading".toList) e)
      | (.ok text, j) =>
          let size := match r.value? 'b' with
            | some n => quantity? n
            | none => some 0
          let count := Text.number? ((r.value? 'l').getD "1000".toList)
          match size, count with
          | some size, some (lines + 1) =>
              let rec cut (fuel : Nat) (text : Text) : List Text :=
                match fuel with
                | 0 => []
                | fuel + 1 =>
                    if text.isEmpty then []
                    else
                      let part := if size > 0 then text.take size
                        else ((Text.lines text).take (lines + 1)).flatten
                      part :: cut fuel (text.drop part.length)
              let parts := cut (text.length + 1) text
              let length := ((r.value? 'a').bind Text.number?).getD 2
              let (status, j, _) := parts.foldl (fun (state : Nat × Job × Nat) part =>
                let (status, j, n) := state
                let name := stem ++ partSuffix (r.has 'd') length n
                match j.openToWrite false false name with
                | .ok (id, j) => (status, ((j.attach 1000 id).write 1000 part).detach 1000, n + 1)
                | .error e => (1, j.blame "split" name e, n + 1)) (0, j, 0)
              (status, j)
          | _, _ => (1, j.complain "split: invalid number".toList)

/-! ### Numbers -/

/-- The prime factors of a number from a divisor on.  Each step takes a factor or a divisor that is
no factor, of which there are few. -/
def primeFactors : (fuel divisor n : Nat) → List Nat
  | 0, _, n => [n]
  | fuel + 1, divisor, n =>
      if n ≤ 1 then []
      else if divisor * divisor > n then [n]
      else if n % divisor = 0 then divisor :: primeFactors fuel divisor (n / divisor)
      else primeFactors fuel (divisor + (if divisor = 2 then 1 else 2)) n

/-- Show prime factors of numbers. -/
def factor : Tool := fun arguments j =>
  let (input, j) := if arguments.isEmpty then j.readAll 0 else (.ok [], j)
  let words := arguments ++ Text.wordsOf (input.toOption.getD [])
  words.foldl (fun (status, j) word =>
    match Text.number? word with
    | some n =>
        let factors := primeFactors (1000000) 2 n
        (status, j.print (Text.decimal n ++ ':' :: factors.flatMap (fun p => ' ' :: Text.decimal p)
          ++ ['\n']))
    | none => (1, j.complain ("factor: ".toList ++ quotedName word ++
        " is not a valid positive integer".toList))) (0, j)

/-- A decimal number: how many of the smallest units it has, and how many places those stand for. -/
def scaled? (text : Text) : Option (Int × Nat) := do
  let (negative, digits) := match text with
    | '-' :: rest => (true, rest)
    | '+' :: rest => (false, rest)
    | rest => (false, rest)
  let whole := digits.takeWhile Char.isDigit
  let fraction ← match digits.drop whole.length with
    | '.' :: rest => if rest.all Char.isDigit then some rest else none
    | [] => some []
    | _ => none
  if whole.isEmpty ∧ fraction.isEmpty then none
  else
    let n : Int := Text.ofDigits 10 (whole ++ fraction)
    some (if negative then -n else n, fraction.length)

/-- A number of units with the given number of places. -/
def scaledText (places : Nat) (n : Int) : Text :=
  let digits := Text.pad false '0' (places + 1) (Text.decimal n.natAbs)
  let whole := digits.take (digits.length - places)
  let text := if places = 0 then whole else whole ++ '.' :: digits.drop whole.length
  if n < 0 then '-' :: text else text

/-- The numbers from one to another one. -/
def progression (step last : Int) : (fuel : Nat) → Int → List Int
  | 0, _ => []
  | fuel + 1, n =>
      if (0 < step ∧ last < n) ∨ (step < 0 ∧ n < last) then []
      else n :: progression step last fuel (n + step)

/-- Show numbers, each on a line. -/
def seq : Tool := fun arguments j =>
  let isNumber (a : Text) : Bool := (scaled? a).isSome
  /- A negative number is no option. -/
  let options := arguments.takeWhile fun a => !isNumber a
  let grammar : Grammar :=
    { letters := "f:s:w", mixed := false
      words := [("separator", 's'), ("equal-width", 'w'), ("format", 'f')] }
  let options := if options.getLast?.any fun a =>
      a == ['-', 's'] || a == ['-', 'f'] then arguments.take (options.length + 1) else options
  match grammar.read options with
  | none => misused "seq" 1 j
  | some r =>
      let operands := r.operands ++ arguments.drop options.length
      let bounds := match operands with
        | [last] => some (['1'], ['1'], last)
        | [first, last] => some (first, ['1'], last)
        | [first, step, last] => some (first, step, last)
        | _ => none
      let numbers := bounds.bind fun (first, step, last) => do
        some (← scaled? first, ← scaled? step, ← scaled? last)
      match numbers with
      | none =>
          match operands.find? (!isNumber ·) with
          | some wrong =>
              (1, j.complain ("seq: invalid floating point argument: ".toList ++ quotedName wrong))
          | none => misused "seq" 1 j
      | some ((first, p), (step, q), (last, t)) =>
          if step = 0 then (1, j.complain "seq: invalid Zero increment value: '0'".toList)
          else
            let places := max p q
            let most := max places t
            let units (n : Int) (places : Nat) : Int := n * (Nat.pow 10 (most - places) : Nat)
            let found := progression (units step q) (units last t) 1000000 (units first p)
            let down (n : Int) : Int := n / (Nat.pow 10 (most - places) : Nat)
            let texts := found.map fun n => scaledText places (down n)
            let width := (texts.map List.length).foldl max 0
            let texts := if r.has 'w' then texts.map fun t =>
                match t with
                | '-' :: rest => '-' :: Text.pad false '0' (width - 1) rest
                | t => Text.pad false '0' width t
              else texts
            let texts := match r.value? 'f' with
              | some format => texts.map fun t =>
                  (Format.print { escapes := {} } format [t]).1
              | none => texts
            let mark := (r.value? 's').getD ['\n']
            if texts.isEmpty then (0, j)
            else (0, j.print (mark.intercalate texts ++ ['\n']))

end LtoBridge.Programs
