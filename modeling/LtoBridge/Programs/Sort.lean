/-
**Sorted lines.**

Lines are compared by keys, which are parts of them, and as a whole if no key tells them apart.

Main definitions:

* `LtoBridge.Programs.SortKey`, `LtoBridge.Programs.SortKey.compare`: keys;
* `LtoBridge.Programs.sort`, `LtoBridge.Programs.uniq`, `LtoBridge.Programs.comm`: the programs.
-/

import LtoBridge.Programs.Extract

set_option autoImplicit false

namespace LtoBridge.Programs

/-! ### Comparison -/

/-- The order of two texts. -/
def Text.compare (a b : Text) : Ordering :=
  if a = b then .eq else if Text.precedes a b then .lt else .gt

/-- The order of two texts of digits as fractions of one. -/
def compareFractions : Text → Text → Ordering
  | [], [] => .eq
  | [], b => if b.all (· == '0') then .eq else .lt
  | a, [] => if a.all (· == '0') then .eq else .gt
  | c :: a, d :: b =>
      if c = d then compareFractions a b else if c.toNat < d.toNat then .lt else .gt

/-- A number at the beginning of a text: whether it is negative, its digits and those after the
point. -/
def leadingNumber (text : Text) : Bool × Nat × Text :=
  let text := text.dropWhile Text.isBlank
  let (negative, text) := match text with
    | '-' :: rest => (true, rest)
    | text => (false, text)
  let digits := text.takeWhile Char.isDigit
  let fraction := match text.drop digits.length with
    | '.' :: rest => rest.takeWhile Char.isDigit
    | _ => []
  (negative, Text.ofDigits 10 digits, fraction)

/-- The size that a letter after a number stands for. -/
def magnitude (text : Text) : Nat :=
  let rest := (text.dropWhile Text.isBlank).dropWhile fun c => c == '-' || c == '.' || c.isDigit
  match rest with
  | c :: _ => "KMGTPEZY".toList.findIdx (· == c.toUpper) |> fun n => if n < 8 then n + 1 else 0
  | [] => 0

/-- The order of the numbers at the beginning of two texts. -/
def compareNumbers (a b : Text) : Ordering :=
  let (m, x, s) := leadingNumber a
  let (n, y, t) := leadingNumber b
  let isZero (n : Nat) (digits : Text) : Bool := n == 0 && digits.all (· == '0')
  let negA := m && !isZero x s
  let negB := n && !isZero y t
  let size := (compareOfLessAndEq x y).then (compareFractions s t)
  match negA, negB with
  | false, false => size
  | true, true => size.swap
  | true, false => .lt
  | false, true => .gt

/-- The digits at the beginning of a text and what stands before and after them. -/
def versionParts : (fuel : Nat) → Text → List (Text × Nat)
  | 0, _ => []
  | fuel + 1, text =>
      if text.isEmpty then []
      else
        let word := text.takeWhile (!Char.isDigit ·)
        let rest := text.drop word.length
        let digits := rest.takeWhile Char.isDigit
        (word, Text.ofDigits 10 digits) :: versionParts fuel (rest.drop digits.length)

/-- The order of two texts with numbers in them. -/
def compareVersions (a b : Text) : Ordering :=
  go (versionParts (a.length + 1) a) (versionParts (b.length + 1) b)
where
  go : List (Text × Nat) → List (Text × Nat) → Ordering
    | [], [] => .eq
    | [], _ => .lt
    | _, [] => .gt
    | (s, m) :: a, (t, n) :: b =>
        ((Text.compare s t).then (compareOfLessAndEq m n)).then (go a b)

/-! ### Keys -/

/-- A part of a line by which lines are compared: from a character of a field to another one.  The
letters tell how. -/
structure SortKey where
  startField : Nat := 1
  startChar : Nat := 1
  endField : Option Nat := none
  endChar : Nat := 0
  letters : Text := []
  /-- Are blanks skipped at the start and at the end? -/
  skipsStart : Bool := false
  skipsEnd : Bool := false

namespace SortKey

/-- A field and a character of it, the letters after them and what follows. -/
def position? (text : Text) : Option (Nat × Nat × Text × Text) := do
  let field := text.takeWhile Char.isDigit
  let n ← Text.number? field
  let rest := text.drop field.length
  let (char, rest) ← match rest with
    | '.' :: rest =>
        let digits := rest.takeWhile Char.isDigit
        (Text.number? digits).map fun c => (c, rest.drop digits.length)
    | rest => some (0, rest)
  let letters := rest.takeWhile Char.isAlpha
  some (n, char, letters, rest.drop letters.length)

/-- Read a key. -/
def read? (text : Text) : Option SortKey := do
  let (field, char, letters, rest) ← position? text
  if field = 0 then none
  else
    let key : SortKey :=
      { startField := field, startChar := max 1 char, letters, skipsStart := letters.contains 'b' }
    match rest with
    | [] => some key
    | ',' :: rest => do
        let (field, char, more, rest) ← position? rest
        if field = 0 ∨ ¬ rest.isEmpty then none
        else some { key with
          endField := some field, endChar := char, letters := letters ++ more
          skipsEnd := more.contains 'b' }
    | _ => none

/-- The number of characters of a line before a field, whose fields have blanks before them or a
separator between them. -/
def fieldStart (separator : Option Char) : (fuel field : Nat) → Text → Nat
  | 0, _, _ => 0
  | _ + 1, 0, _ => 0
  | fuel + 1, field + 1, line =>
      match separator with
      | none =>
          let blanks := line.takeWhile Text.isBlank
          let word := (line.drop blanks.length).takeWhile (!Text.isBlank ·)
          let size := blanks.length + word.length
          if size = 0 then 0 else size + fieldStart separator fuel field (line.drop size)
      | some c =>
          let word := line.takeWhile (· != c)
          if word.length = line.length then line.length
          else word.length + 1 + fieldStart separator fuel field (line.drop (word.length + 1))

/-- The part of a line that a key is about. -/
def part (separator : Option Char) (k : SortKey) (line : Text) : Text :=
  let blanks (n : Nat) (skips : Bool) : Nat :=
    if skips then n + ((line.drop n).takeWhile Text.isBlank).length else n
  let start := fieldStart separator (line.length + 1) (k.startField - 1) line
  let start := min line.length (blanks start k.skipsStart + (k.startChar - 1))
  let finish := match k.endField with
    | none => line.length
    | some field =>
        if k.endChar = 0 then
          let next := fieldStart separator (line.length + 1) field line
          if separator.isSome ∧ next ≤ line.length ∧ next > 0 ∧
            (line.drop (next - 1)).head? = separator ∧
            (Text.splitAt (some · == separator) line).length > field then next - 1 else next
        else
          let base := fieldStart separator (line.length + 1) (field - 1) line
          min line.length (blanks base k.skipsEnd + k.endChar)
  (line.take finish).drop start

/-- The order of two lines by a key. -/
def compare (separator : Option Char) (k : SortKey) (a b : Text) : Ordering :=
  let x := k.part separator a
  let y := k.part separator b
  let has (c : Char) : Bool := k.letters.contains c
  let cleaned (t : Text) : Text :=
    let t := if has 'd' then t.filter fun c => c.isAlphanum || Text.isBlank c else t
    let t := if has 'i' then t.filter Text.isPrintable else t
    if has 'f' then t.map Char.toUpper else t
  let order :=
    if has 'n' ∨ has 'g' then compareNumbers x y
    else if has 'h' then (compareOfLessAndEq (magnitude x) (magnitude y)).then (compareNumbers x y)
    else if has 'V' then compareVersions x y
    else Text.compare (cleaned x) (cleaned y)
  if has 'r' then order.swap else order

end SortKey

/-- How lines are sorted. -/
structure Sorting where
  keys : List SortKey
  separator : Option Char
  /-- Is the order of whole lines turned around? -/
  reversed : Bool
  /-- Are lines that no key tells apart compared as a whole? -/
  isFinal : Bool

namespace Sorting

/-- The order of two lines. -/
def compare (s : Sorting) (a b : Text) : Ordering :=
  let byKeys := s.keys.foldl (fun (order : Ordering) k =>
    order.then (k.compare s.separator a b)) .eq
  if s.isFinal then
    byKeys.then (if s.reversed then (Text.compare a b).swap else Text.compare a b)
  else byKeys

/-- Lines in order. -/
def apply (s : Sorting) (lines : List Text) : List Text :=
  lines.mergeSort fun a b => s.compare a b != .gt

/-- Lines without those that no key tells apart from the one before them. -/
def unique (s : Sorting) : List Text → List Text
  | a :: b :: rest =>
      if s.compare a b = .eq then unique s (a :: rest) else a :: unique s (b :: rest)
  | rest => rest
termination_by lines => lines.length

end Sorting

/-! ### Programs -/

/-- Show lines in order. -/
def sort : Tool := fun arguments j =>
  let grammar : Grammar :=
    { letters := "bcCdfghik:mMno:rRsS:t:T:uVz"
      words := [("unique", 'u'), ("reverse", 'r'), ("numeric-sort", 'n'), ("key", 'k'),
        ("field-separator", 't'), ("ignore-case", 'f'), ("stable", 's'), ("check", 'c'),
        ("output", 'o'), ("merge", 'm'), ("ignore-leading-blanks", 'b'), ("version-sort", 'V'),
        ("dictionary-order", 'd'), ("general-numeric-sort", 'g'), ("human-numeric-sort", 'h')] }
  match grammar.read arguments with
  | none => misused "sort" 2 j
  | some r =>
      let letters := (r.options.map (·.1)).filter ("bdfghinrV".toList.contains ·)
      match (r.values 'k').mapM SortKey.read? with
      | none => (2, j.complain "sort: invalid number at field start".toList)
      | some keys =>
          let separator := match r.value? 't' with
            | some ['\\', '0'] => some '\x00'
            | some (c :: _) => some c
            | _ => none
          let inherits (k : SortKey) : SortKey :=
            if k.letters.isEmpty then
              { k with
                letters
                skipsStart := letters.contains 'b'
                skipsEnd := letters.contains 'b' }
            else k
          let whole : SortKey := { letters, skipsStart := letters.contains 'b' }
          let sorting : Sorting :=
            { keys := if keys.isEmpty then
                if letters.all (· == 'r') then [] else [whole]
              else keys.map inherits
              separator
              reversed := letters.contains 'r'
              isFinal := true }
          let byKeys : Sorting := { sorting with isFinal := sorting.keys.isEmpty }
          let names := if r.operands.isEmpty then [['-']] else r.operands
          let read := names.foldl (fun (state : Except (Text × OsError × Job) (List Text × Job))
              name =>
            match state with
            | .error e => .error e
            | .ok (found, j) =>
                match j.fileText name with
                | (.ok text, j) => .ok (found ++ (Text.lines text).map Text.ended, j)
                | (.error e, j) => .error (name, e, j)) (.ok ([], j))
          match read with
          | .error (name, e, j) =>
              (2, j.complain ("sort: ".toList ++ (match e with
                | .isDirectory => "read failed: ".toList
                | _ => "cannot read: ".toList) ++ name ++ ": ".toList ++ Job.errorText e))
          | .ok (lines, j) =>
              let lines := lines.map Text.chopped
              if r.has 'c' ∨ r.has 'C' then
                let pairs := lines.zip lines.tail
                let order := if r.has 's' ∨ r.has 'u' then byKeys else sorting
                let isWrong (p : Text × Text) : Bool :=
                  match order.compare p.1 p.2 with
                  | .gt => true
                  | .eq => r.has 'u'
                  | .lt => false
                match pairs.findIdx? isWrong with
                | none => (0, j)
                | some n =>
                    if r.has 'C' then (1, j)
                    else (1, j.complain ("sort: ".toList ++ names.headD [] ++ ':' ::
                      Text.decimal (n + 2) ++ ": disorder: ".toList ++ (lines[n + 1]?).getD []))
              else
                let sorted := if r.has 'u' then byKeys.unique (byKeys.apply lines)
                  else if r.has 's' then byKeys.apply lines
                  else sorting.apply lines
                let text := Text.unlines sorted
                match r.value? 'o' with
                | none => (0, j.print text)
                | some name =>
                    match j.openToWrite false false name with
                    | .error e => (2, j.blame "sort: open failed" name e)
                    | .ok (id, opened) =>
                        let written := (opened.attach 9 id).write 9 text
                        (0, { written with descriptors := j.descriptors })

/-- The part of a line that is compared with other lines. -/
def comparedPart (r : Request) (line : Text) : Text :=
  let number (letter : Char) : Nat := ((r.value? letter).bind Text.number?).getD 0
  let dropField (t : Text) : Text :=
    (t.dropWhile Text.isBlank).dropWhile (!Text.isBlank ·)
  let line := (List.range (number 'f')).foldl (fun t _ => dropField t) (Text.chopped line)
  let line := line.drop (number 's')
  let line := match (r.value? 'w').bind Text.number? with
    | some n => line.take n
    | none => line
  if r.has 'i' then line.map Char.toLower else line

/-- Runs of lines that are alike, each with the first one and their number. -/
def lineRuns (alike : Text → Text) : List Text → List (Text × List Text)
  | [] => []
  | line :: rest =>
      match lineRuns alike rest with
      | (first, others) :: runs =>
          if alike line = alike first then (line, first :: others) :: runs
          else (line, []) :: (first, others) :: runs
      | [] => [(line, [])]

/-- Show lines without those that are like the one before them. -/
def uniq : Tool := fun arguments j =>
  let grammar : Grammar :=
    { letters := "cdDf:is:uw:z"
      words := [("count", 'c'), ("repeated", 'd'), ("all-repeated", 'D'), ("skip-fields", 'f'),
        ("ignore-case", 'i'), ("skip-chars", 's'), ("unique", 'u'), ("check-chars", 'w')] }
  match grammar.read arguments with
  | none => misused "uniq" 1 j
  | some r =>
      let input := r.operands.headD ['-']
      match j.fileText input with
      | (.error e, j) => (1, j.blame "uniq" input e)
      | (.ok text, j) =>
          let runs := lineRuns (comparedPart r) (Text.lines text)
          let shown := runs.flatMap fun (first, others) =>
            let repeated := !others.isEmpty
            if (r.has 'd' && !repeated) || (r.has 'u' && repeated) then []
            else if r.has 'D' then if repeated then (first :: others).flatMap Text.ended else []
            else
              (if r.has 'c' then
                Text.pad false ' ' 7 (Text.decimal (others.length + 1)) ++ [' '] else []) ++
                Text.ended first
          match r.operands with
          | _ :: output :: _ =>
              match j.openToWrite false false output with
              | .error e => (1, j.blame "uniq" output e)
              | .ok (id, opened) =>
                  let written := (opened.attach 9 id).write 9 shown
                  (0, { written with descriptors := j.descriptors })
          | _ => (0, j.print shown)

/-- The lines of two sorted texts, each with the column that it belongs to. -/
def merged : (fuel : Nat) → List Text → List Text → List (Nat × Text)
  | 0, _, _ => []
  | _ + 1, [], [] => []
  | fuel + 1, a :: s, [] => (1, a) :: merged fuel s []
  | fuel + 1, [], b :: t => (2, b) :: merged fuel [] t
  | fuel + 1, a :: s, b :: t =>
      if a = b then (3, a) :: merged fuel s t
      else if Text.precedes a b then (1, a) :: merged fuel s (b :: t)
      else (2, b) :: merged fuel (a :: s) t

/-- Show which lines two sorted files have in common. -/
def comm : Tool := fun arguments j =>
  let grammar : Grammar := { letters := "123z" }
  match grammar.read arguments with
  | some r =>
      match r.operands with
      | [a, b] =>
          match j.fileText a with
          | (.error e, j) => (1, j.blame "comm" a e)
          | (.ok s, j) =>
              match j.fileText b with
              | (.error e, j) => (1, j.blame "comm" b e)
              | (.ok t, j) =>
                  let s := (Text.lines s).map Text.chopped
                  let t := (Text.lines t).map Text.chopped
                  let hides (column : Nat) : Bool := r.has (Char.ofNat (48 + column))
                  let tabs (column : Nat) : Text :=
                    ((List.range column).filter fun n => n != 0 && !hides n).map fun _ => '\t'
                  (0, j.print ((merged (s.length + t.length + 1) s t).flatMap fun (column, line) =>
                    if hides column then [] else tabs column ++ line ++ ['\n']))
      | _ => misused "comm" 1 j
  | none => misused "comm" 1 j

end LtoBridge.Programs
