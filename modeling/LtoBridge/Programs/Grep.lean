/-
**Lines that fit an expression.**

Main definitions:

* `LtoBridge.Programs.LineTest`: what a line is looked at for;
* `LtoBridge.Programs.grep`: show the lines of files that fit an expression.
-/

import LtoBridge.Programs.Extract
import LtoBridge.Programs.RegexSyntax

set_option autoImplicit false

namespace LtoBridge.Programs

open LtoBridge.Text (Regex)

/-- What a line is looked at for: one of some expressions, perhaps as a whole word or as the whole
line. -/
structure LineTest where
  regexes : List Regex
  words : Bool := false
  wholeLine : Bool := false

namespace LineTest

/-- Do no parts of words stand around a part of a line? -/
def isWord (start end_ : Regex.Spot) : Bool :=
  !(start.before.head?.any Regex.isWordChar) && !(end_.after.head?.any Regex.isWordChar)

/-- The longest part of a line from a spot on that fits. -/
def fitAt? (t : LineTest) (start : Regex.Spot) : Option Regex.Spot :=
  let ends := (t.regexes.flatMap fun r => r.ends start).filter fun e =>
    (!t.wholeLine || (start.before.isEmpty && e.after.isEmpty)) && (!t.words || isWord start e)
  Regex.farthest? ends

/-- The first part of a line that fits, from a spot on: the characters before it, the last one
first, itself and the characters after it. -/
def find? (t : LineTest) : (before after : Text) → Option (Text × Text × Text)
  | before, [] => (t.fitAt? { before, after := [] }).map fun _ => (before, [], [])
  | before, c :: after =>
      match t.fitAt? { before, after := c :: after } with
      | some e => some (before, (c :: after).take e.position, (c :: after).drop e.position)
      | none => find? t (c :: before) after

/-- All parts of a line that fit and are not empty.  Each takes a character, so the length of the
line is enough fuel. -/
def parts (t : LineTest) : (fuel : Nat) → (before after : Text) → List Text
  | 0, _, _ => []
  | fuel + 1, before, after =>
      match t.find? before after with
      | none => []
      | some (skipped, part, rest) =>
          if part.isEmpty then
            match rest with
            | [] => []
            | c :: rest => parts t fuel (c :: skipped) rest
          else part :: parts t fuel (part.reverse ++ skipped) rest

end LineTest

/-- The lines of a text that are shown: their number, whether they fit, and whether some were left
out before them.  Around those that fit, some more are shown. -/
def withContext (before after : Nat) (lines : List (Nat × Text × Bool)) :
    List (Nat × Text × Bool) :=
  if before = 0 ∧ after = 0 then lines.filter (·.2.2)
  else
    let hits := (lines.filter (·.2.2)).map (·.1)
    lines.filter fun (n, _, _) => hits.any fun h => h ≤ n + before && n ≤ h + after

/-- Show the lines of files that fit an expression. -/
def grepWith (program : String) (usual : Char) : Tool := fun arguments j =>
  let grammar : Grammar :=
    { letters := "A:abB:C:cD:d:Ee:Ff:GHhiIJLlm:noPqRrsTUuvVwxyzZ1K:"
      words := [("quiet", 'q'), ("silent", 'q'), ("invert-match", 'v'), ("ignore-case", 'i'),
        ("count", 'c'), ("line-number", 'n'), ("files-with-matches", 'l'),
        ("files-without-match", 'L'), ("only-matching", 'o'), ("no-filename", 'h'),
        ("with-filename", 'H'), ("extended-regexp", 'E'), ("fixed-strings", 'F'),
        ("basic-regexp", 'G'), ("perl-regexp", 'P'), ("word-regexp", 'w'), ("line-regexp", 'x'),
        ("regexp", 'e'), ("file", 'f'), ("no-messages", 's'), ("recursive", 'r'),
        ("max-count", 'm'), ("after-context", 'A'), ("before-context", 'B'), ("context", 'C'),
        ("text", 'a'), ("include", 'K')] }
  let arguments := arguments.filter fun a => !("--color".toList.isPrefixOf a)
  match grammar.read arguments with
  | none => misused program 2 j
  | some r =>
      let fromFiles := (r.values 'f').map fun name => (j.fileText name).1
      let given := r.values 'e' ++ (fromFiles.filterMap (·.toOption)).flatMap fun text =>
        (Text.lines text).map Text.chopped
      let (patterns, names) := match given, r.has 'e' || r.has 'f', r.operands with
        | given, true, names => (some given, names)
        | _, false, pattern :: names => (some [pattern], names)
        | _, false, [] => (none, [])
      match patterns with
      | none => misused program 2 j
      | some patterns =>
          let patterns := patterns.flatMap (Text.splitAt (· == '\n'))
          let kind := (r.lastOf? "EFGP").getD usual
          let read (p : Text) : Option Regex :=
            if kind = 'F' then some (.sequence (p.map .char))
            else RegexSyntax.parse? { extended := kind != 'G', controls := kind == 'P' } p
          match patterns.mapM read with
          | none => (2, j.complain (program.toList ++ ": Invalid regular expression".toList))
          | some regexes =>
              let caseless := r.has 'i' || r.has 'y'
              let test : LineTest :=
                { regexes := if caseless then regexes.map Regex.anyCase else regexes
                  words := r.has 'w'
                  wholeLine := r.has 'x' }
              let deep := r.has 'r' || r.has 'R'
              let names := if names.isEmpty then if deep then [['.']] else [['-']] else names
              /- The files in a directory, whose depth is bounded by their number. -/
              let rec within (fuel : Nat) (isTop : Bool) (name : Text) : List Text :=
                match fuel with
                | 0 => [name]
                | fuel + 1 =>
                    match j.disk.findEntry (Text.bytes name) with
                    | .ok (l, .directory) =>
                        let children := Text.sorted ((j.disk.tree.names l).map Text.ofBytes)
                        children.flatMap fun c => within fuel false
                          (if name = ['.'] ∧ r.operands.length < 2 then c
                            else if name.getLast? = some '/' then name ++ c
                            else name ++ '/' :: c)
                    | .ok (_, .file _ _) => [name]
                    | _ => if isTop then [name] else []
              let files := if deep then
                  names.flatMap fun n =>
                    if n = ['-'] then [n] else within (j.disk.tree.nodes.length + 1) true n
                else names
              let headed := !r.has 'h' && (r.has 'H' || files.length > 1 || deep)
              let number (letter : Char) : Nat :=
                ((r.value? letter).bind Text.number?).getD
                  (((r.value? 'C').bind Text.number?).getD 0)
              let before := number 'B'
              let after := number 'A'
              let most := (r.value? 'm').bind Text.number?
              let fold := files.foldl (fun (state : Bool × Bool × Job) name =>
                let (found, failed, j) := state
                match j.fileText name with
                | (.error e, j) => (found, true, if r.has 's' then j else j.blame program name e)
                | (.ok text, j) =>
                    let shownName := if name = ['-'] then "(standard input)".toList else name
                    let lines := ((Text.lines text).map Text.chopped).zipIdx 1
                    let tested := lines.map fun (line, n) =>
                      (n, line, (test.find? [] line).isSome != r.has 'v')
                    let hits := tested.filter (·.2.2)
                    let hits := match most with
                      | some n => hits.take n
                      | none => hits
                    let last := match most with
                      | some n => if hits.length = n then (hits.getLast?.map (·.1)).getD 0 + after
                          else lines.length
                      | none => lines.length
                    let tested := (tested.filter (·.1 ≤ last)).map fun (n, line, hit) =>
                      (n, line, hit && hits.any (·.1 == n))
                    let head (mark : Char) (n : Nat) : Text :=
                      (if headed then shownName ++ [mark] else []) ++
                        (if r.has 'n' then Text.decimal n ++ [mark] else [])
                    let isBinary := !r.has 'a' && text.contains '\x00'
                    let output : Text :=
                      if r.has 'q' then []
                      else if r.has 'l' then if hits.isEmpty then [] else shownName ++ ['\n']
                      else if r.has 'L' then if hits.isEmpty then shownName ++ ['\n'] else []
                      else if r.has 'c' then
                        (if headed then shownName ++ [':'] else []) ++ Text.decimal hits.length ++
                          ['\n']
                      else if isBinary then
                        if hits.isEmpty then []
                        else program.toList ++ ": ".toList ++ shownName ++
                          ": binary file matches\n".toList
                      else if r.has 'o' then
                        if r.has 'v' then []
                        else hits.flatMap fun (n, line, _) =>
                          (test.parts (line.length + 1) [] line).flatMap fun part =>
                            head ':' n ++ part ++ ['\n']
                      else
                        let shown := withContext before after tested
                        let gaps := (shown.zip (none :: shown.map some)).map fun (a, b) =>
                          (a, match b with
                            | some b => decide (b.1 + 1 < a.1)
                            | none => false)
                        gaps.flatMap fun ((n, line, hit), gap) =>
                          (if gap ∧ (before > 0 ∨ after > 0) then "--\n".toList else []) ++
                            head (if hit then ':' else '-') n ++ line ++ ['\n']
                    let counts := if r.has 'L' then hits.isEmpty else !hits.isEmpty
                    (found || counts, failed, j.print output)) (false, false, j)
              let (found, failed, j) := fold
              let failed := failed || fromFiles.any fun f => f.toOption.isNone
              (if found ∧ (¬ failed ∨ r.has 'q') then 0 else if failed then 2 else 1, j)

/-- Show the lines of files that fit a basic expression. -/
def grep : Tool := grepWith "grep" 'G'

/-- Show the lines of files that fit an extended expression. -/
def egrep : Tool := grepWith "grep" 'E'

/-- Show the lines of files that have a text. -/
def fgrep : Tool := grepWith "grep" 'F'

end LtoBridge.Programs
