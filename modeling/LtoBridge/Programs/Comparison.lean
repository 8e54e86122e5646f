/-
**Differences between files.**

Main definitions:

* `LtoBridge.Programs.cmp`: the first difference between two files;
* `LtoBridge.Programs.Difference`: lines that stand in one of two files only;
* `LtoBridge.Programs.diff`: show the differences between two files.
-/

import LtoBridge.Programs.Names

set_option autoImplicit false

namespace LtoBridge.Programs

/-- The position of the first difference between two texts, from 0 on. -/
def firstDifference? : Text → Text → Option Nat
  | [], [] => none
  | a :: s, b :: t => if a = b then (firstDifference? s t).map (· + 1) else some 0
  | _, _ => some 0

/-- Show the first difference between two files, or all of them. -/
def cmp : Tool := fun arguments j =>
  let grammar : Grammar :=
    { letters := "bi:ln:s"
      words := [("print-bytes", 'b'), ("ignore-initial", 'i'), ("verbose", 'l'), ("bytes", 'n'),
        ("quiet", 's'), ("silent", 's')] }
  match grammar.read arguments with
  | none => misused "cmp" 2 j
  | some r =>
      match r.operands with
      | [] => misused "cmp" 2 j
      | first :: others =>
          let second := others.headD ['-']
          match j.fileText first with
          | (.error e, j) => (2, if r.has 's' then j else j.blame "cmp" first e)
          | (.ok a, j) =>
              match j.fileText second with
              | (.error e, j) => (2, if r.has 's' then j else j.blame "cmp" second e)
              | (.ok b, j) =>
                  let skipped := ((r.value? 'i').bind quantity?).getD 0
                  let limited (t : Text) : Text :=
                    match (r.value? 'n').bind quantity? with
                    | some n => (t.drop skipped).take n
                    | none => t.drop skipped
                  let a := limited a
                  let b := limited b
                  match firstDifference? a b with
                  | none => (0, j)
                  | some n =>
                      let shorter := min a.length b.length
                      let ended := j.complain ("cmp: EOF on ".toList ++
                        (if a.length < b.length then first else second) ++
                        (if shorter = 0 then " which is empty".toList
                          else " after byte ".toList ++ Text.decimal shorter))
                      if r.has 's' then (1, j)
                      else if r.has 'l' then
                        let width := (Text.decimal (max a.length b.length)).length
                        let rows := (a.zip b).mapIdx fun i (x, y) =>
                          if x = y then [] else
                            let octal (c : Char) : Text :=
                              Text.pad false ' ' 3 (Nat.toDigits 8 c.toNat)
                            Text.pad false ' ' width (Text.decimal (i + 1)) ++ ' ' :: octal x ++
                              ' ' :: octal y ++ ['\n']
                        let j := if a.length = b.length then j else ended
                        (1, j.print rows.flatten)
                      else if n = shorter then (1, ended)
                      else
                        let line := ((a.take n).filter (· == '\n')).length + 1
                        (1, j.print (first ++ ' ' :: second ++ " differ: char ".toList ++
                          Text.decimal (n + 1) ++ ", line ".toList ++ Text.decimal line ++ ['\n']))

/-! ### Lines that differ -/

/-- A place where two lists of lines differ: how many lines are alike before it in both, counted
from their beginnings, and the lines that only one of them has. -/
structure Difference where
  firstStart : Nat
  secondStart : Nat
  removed : List Text
  added : List Text

/-- For each rest of the second list the length of the longest list of lines that it has in common
with a rest of the first one, which has `line` before a rest whose lengths are given. -/
def commonLengths (line : Text) : List Text → (below : List Nat) → List Nat
  | b :: rest, corner :: side :: below =>
      let right := commonLengths line rest (side :: below)
      let here := if line = b then side + 1 else max corner (right.headD 0)
      here :: right
  | _, _ => [0]

/-- The lengths of the longest lists of lines in common for all rests of two lists. -/
def commonTable (second : List Text) : List Text → List (List Nat)
  | [] => [List.replicate (second.length + 1) 0]
  | a :: rest =>
      match commonTable second rest with
      | below :: others => commonLengths a second below :: below :: others
      | [] => []

/-- The differences between two lists of lines, from the beginnings of their rests on.  The table
has the lengths of what those have in common. -/
def differencesFrom (place : Nat × Nat) (open_ : Option Difference) :
    (fuel : Nat) → List Text → List Text → List (List Nat) → List Difference
  | 0, _, _, _ => open_.toList
  | fuel + 1, first, second, table =>
      let current := open_.getD
        { firstStart := place.1, secondStart := place.2, removed := [], added := [] }
      let remove (a : Text) (rest : List Text) : List Difference :=
        differencesFrom (place.1 + 1, place.2)
          (some { current with removed := current.removed ++ [a] }) fuel rest second table.tail
      let add (b : Text) (rest : List Text) : List Difference :=
        differencesFrom (place.1, place.2 + 1)
          (some { current with added := current.added ++ [b] }) fuel first rest
          (table.map List.tail)
      match first, second with
      | [], [] => open_.toList
      | a :: rest, [] => remove a rest
      | [], b :: rest => add b rest
      | a :: restA, b :: restB =>
          if a = b then
            open_.toList ++ differencesFrom (place.1 + 1, place.2 + 1) none fuel restA restB
              (table.tail.map List.tail)
          else
            let below := ((table.tail.headD []).headD 0)
            let beside := ((table.headD []).tail.headD 0)
            if below ≥ beside then remove a restA else add b restB

/-- The differences between two lists of lines. -/
def differences (first second : List Text) : List Difference :=
  differencesFrom (0, 0) none (first.length + second.length + 1) first second
    (commonTable second first)

/-- Lines with something before each of them. -/
def markedLines (mark : String) (lines : List Text) : Text :=
  lines.flatMap fun line =>
    mark.toList ++ line ++
      (if line.getLast? = some '\n' then []
        else "\n\\ No newline at end of file\n".toList)

/-- The numbers of the first and the last of some lines. -/
def lineSpan (start count : Nat) : Text :=
  if count ≤ 1 then Text.decimal (start + count)
  else Text.decimal (start + 1) ++ ',' :: Text.decimal (start + count)

/-- A difference as instructions for a person. -/
def Difference.plain (d : Difference) : Text :=
  let letter := if d.removed.isEmpty then 'a' else if d.added.isEmpty then 'd' else 'c'
  lineSpan d.firstStart d.removed.length ++ letter :: lineSpan d.secondStart d.added.length ++
    '\n' :: markedLines "< " d.removed ++
    (if letter = 'c' then "---\n".toList else []) ++ markedLines "> " d.added

/-- Differences that share the lines around them. -/
def hunks (around : Nat) : List Difference → List (List Difference)
  | [] => []
  | d :: rest =>
      match hunks around rest with
      | (e :: group) :: others =>
          if e.firstStart ≤ d.firstStart + d.removed.length + 2 * around then
            (d :: e :: group) :: others
          else [d] :: (e :: group) :: others
      | others => [d] :: others

/-- The lines of differences that share the lines around them. -/
def hunkLines (first : List Text) (around : Nat) : (from_ : Nat) → List Difference → Text
  | from_, [] => markedLines " " ((first.drop from_).take around)
  | from_, d :: rest =>
      markedLines " " ((first.drop from_).take (d.firstStart - from_)) ++
        markedLines "-" d.removed ++ markedLines "+" d.added ++
        hunkLines first around (d.firstStart + d.removed.length) rest

/-- Differences that share the lines around them, with where they are. -/
def hunkText (first second : List Text) (around : Nat) (group : List Difference) : Text :=
  match group.head?, group.getLast? with
  | some d, some e =>
      let range (start stop : Nat) : Text :=
        let count := stop - start
        if count = 1 then Text.decimal (start + 1)
        else Text.decimal (if count = 0 then start else start + 1) ++ ',' :: Text.decimal count
      let firstStart := d.firstStart - around
      let secondStart := d.secondStart - around
      let firstStop := min first.length (e.firstStart + e.removed.length + around)
      let secondStop := min second.length (e.secondStart + e.added.length + around)
      "@@ -".toList ++ range firstStart firstStop ++ " +".toList ++
        range secondStart secondStop ++ " @@\n".toList ++ hunkLines first around firstStart group
  | _, _ => []

/-- Show the differences between two files. -/
def diff : Tool := fun arguments j =>
  let grammar : Grammar :=
    { letters := "abBiqsuU:wNr"
      words := [("brief", 'q'), ("report-identical-files", 's'), ("unified", 'u'),
        ("ignore-case", 'i'), ("ignore-all-space", 'w'), ("ignore-space-change", 'b'),
        ("text", 'a'), ("new-file", 'N'), ("recursive", 'r')] }
  match grammar.read arguments with
  | some { operands := [first, second], options } =>
      let r : Request := { options, operands := [first, second] }
      let isDirectory (name : Text) : Bool :=
        match j.disk.find (Text.bytes name) with
        | .ok (_, .directory) => true
        | _ => false
      let within (directory name : Text) : Text := directory ++ '/' :: lastPart_ name
      let (first, second) :=
        if isDirectory first ∧ ¬ isDirectory second then (within first second, second)
        else if isDirectory second ∧ ¬ isDirectory first then (first, within second first)
        else (first, second)
      match j.fileText first with
      | (.error e, j) => (2, j.blame "diff" first e)
      | (.ok a, j) =>
          match j.fileText second with
          | (.error e, j) => (2, j.blame "diff" second e)
          | (.ok b, j) =>
              let key (line : Text) : Text :=
                let line := if r.has 'i' then line.map Char.toLower else line
                if r.has 'w' then line.filter (!Text.isSpace ·)
                else if r.has 'b' then Text.spaced (Text.wordsOf line)
                else line
              if a = b ∨ (Text.lines a).map key = (Text.lines b).map key then
                if r.has 's' then
                  (0, j.print ("Files ".toList ++ first ++ " and ".toList ++ second ++
                    " are identical\n".toList))
                else (0, j)
              else if r.has 'q' then
                (1, j.print ("Files ".toList ++ first ++ " and ".toList ++ second ++
                  " differ\n".toList))
              else
                let firstLines := Text.lines a
                let secondLines := Text.lines b
                let found := differences firstLines secondLines
                if r.has 'u' ∨ r.has 'U' then
                  let around := ((r.value? 'U').bind Text.number?).getD 3
                  let body := (hunks around found).flatMap (hunkText firstLines secondLines around)
                  (1, j.print ("--- ".toList ++ first ++ "\n+++ ".toList ++ second ++ '\n' :: body))
                else (1, j.print (found.flatMap Difference.plain))
  | _ => misused "diff" 2 j

end LtoBridge.Programs
