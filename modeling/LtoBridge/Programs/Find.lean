/-
**Files that meet conditions.**

Main definitions:

* `LtoBridge.Programs.FindTest`: conditions on files, some of which do something;
* `LtoBridge.Programs.find`: look at all files in directories.
-/

import LtoBridge.Programs.Listing
import LtoBridge.Programs.RegexSyntax
import LtoBridge.Programs.Search
import LtoBridge.Shell.Pattern

set_option autoImplicit false

namespace LtoBridge.Programs

open LtoBridge.Text (Regex)

/-- A condition on a file.  Some hold after they have done something. -/
inductive FindTest
  | always (value : Bool)
  | name (caseless : Bool) (pattern : Text)
  | path (caseless : Bool) (pattern : Text)
  | regex (r : Regex)
  | kind (letters : Text)
  | size (sign : Char) (n unit : Nat)
  | empty
  | runnable
  | newer (other : Text)
  | rights (mode : Text)
  | print (mark : Text)
  | format (text : Text)
  | delete
  | prune
  | quit
  | exec (command : List Text) (together inPlace : Bool)
  | not (a : FindTest)
  | and (a b : FindTest)
  | or (a b : FindTest)

namespace FindTest

/-! ### Reading -/

/-- Conditions without a word after them. -/
def plain? : String → Option FindTest
  | "-true" => some (.always true)
  | "-false" => some (.always false)
  | "-empty" => some .empty
  | "-executable" => some .runnable
  | "-readable" | "-writable" | "-depth" | "-xdev" | "-mount" | "-noleaf" | "-daystart" =>
      some (.always true)
  | "-print" => some (.print ['\n'])
  | "-print0" => some (.print ['\x00'])
  | "-delete" => some .delete
  | "-prune" => some .prune
  | "-quit" => some .quit
  | "-ls" => some (.print ['\n'])
  | _ => none

/-- A size with a sign and a unit. -/
def sized? (text : Text) : Option FindTest := do
  let (sign, rest) := match text with
    | '+' :: rest => ('+', rest)
    | '-' :: rest => ('-', rest)
    | rest => ('=', rest)
  let digits := rest.takeWhile Char.isDigit
  let n ← Text.number? digits
  let unit ← match rest.drop digits.length with
    | [] | ['b'] => some 512
    | ['c'] => some 1
    | ['w'] => some 2
    | ['k'] => some 1024
    | ['M'] => some 1048576
    | ['G'] => some 1073741824
    | _ => none
  some (.size sign n unit)

/-- Conditions with a word after them. -/
def valued? (sign : String) (value : Text) : Option FindTest :=
  match sign with
  | "-name" => some (.name false value)
  | "-iname" => some (.name true value)
  | "-path" | "-wholename" => some (.path false value)
  | "-ipath" | "-iwholename" => some (.path true value)
  | "-regex" => (RegexSyntax.parse? { extended := false } value).map .regex
  | "-type" | "-xtype" => some (.kind value)
  | "-size" => sized? value
  | "-newer" => some (.newer value)
  | "-perm" => some (.rights value)
  | "-printf" => some (.format value)
  | "-user" | "-group" => some (.always (value == "root".toList || value == ['0']))
  | "-mtime" | "-mmin" | "-ctime" | "-atime" | "-cmin" | "-amin" =>
      some (.always (value.head? == some '-' || value == ['0']))
  | "-maxdepth" | "-mindepth" | "-regextype" => some (.always true)
  | _ => none

mutual

/-- Read conditions of which one has to hold. -/
def alternatives? : (fuel : Nat) → List Text → Option (FindTest × List Text)
  | 0, _ => none
  | fuel + 1, words => do
      let (a, rest) ← sequence? fuel words
      match rest with
      | word :: rest =>
          if word = "-o".toList ∨ word = "-or".toList then do
            let (b, rest) ← alternatives? fuel rest
            some (.or a b, rest)
          else some (a, word :: rest)
      | [] => some (a, [])

/-- Read conditions all of which have to hold. -/
def sequence? : (fuel : Nat) → List Text → Option (FindTest × List Text)
  | 0, _ => none
  | fuel + 1, words => do
      let (a, rest) ← single? fuel words
      match rest with
      | [] => some (a, [])
      | word :: others =>
          if word = [')'] ∨ word = "-o".toList ∨ word = "-or".toList then some (a, rest)
          else do
            let isAnd := word = "-a".toList ∨ word = "-and".toList
            let (b, rest) ← sequence? fuel (if isAnd then others else rest)
            some (.and a b, rest)

/-- Read a condition. -/
def single? : (fuel : Nat) → List Text → Option (FindTest × List Text)
  | 0, _ => none
  | _ + 1, [] => none
  | fuel + 1, word :: rest =>
      match String.ofList word with
      | "!" | "-not" => do
          let (a, rest) ← single? fuel rest
          some (.not a, rest)
      | "(" => do
          let (a, rest) ← alternatives? fuel rest
          match rest with
          | [')'] :: rest => some (a, rest)
          | _ => none
      | "-exec" | "-execdir" | "-ok" =>
          let command := rest.takeWhile fun w => w != [';'] && w != ['+']
          match rest.drop command.length with
          | ending :: after =>
              if command.isEmpty then none
              else some (.exec command (ending == ['+']) (word == "-execdir".toList), after)
          | [] => none
      | sign =>
          match plain? sign, rest with
          | some a, _ => some (a, rest)
          | none, value :: rest => (valued? sign value).map (·, rest)
          | none, [] => none

end

/-- Does the condition show or do something by itself? -/
def acts : FindTest → Bool
  | .print _ | .format _ | .delete | .quit | .exec _ _ _ => true
  | .not a => a.acts
  | .and a b | .or a b => a.acts || b.acts
  | _ => false

/-- Does the condition remove what it is about? -/
def deletes : FindTest → Bool
  | .delete => true
  | .not a => a.deletes
  | .and a b | .or a b => a.deletes || b.deletes
  | _ => false

end FindTest

/-! ### The walk -/

/-- A file that is looked at. -/
structure Found where
  path : Text
  location : Location
  node : Node
  depth : Nat

/-- What has happened so far. -/
structure Walk where
  job : Job
  status : Nat := 0
  pruned : Bool := false
  stopped : Bool := false
  /-- Files that a command is run for at the end, by the command. -/
  collected : List (List Text × List Text) := []

namespace Walk

/-- Does a text fit a pattern? -/
def fits (caseless : Bool) (pattern text : Text) : Bool :=
  let shift (t : Text) : Text := if caseless then t.map Char.toLower else t
  Shell.Pattern.fits .rich ((shift pattern).map (·, false)) (shift text)

/-- The letter of the kind of something. -/
def letter (n : Node) : Char :=
  match n with
  | .file _ _ | .program _ => 'f'
  | n => kindSign n

/-- A format with properties of a file. -/
def formatted (f : Found) : Text → Text
  | '%' :: c :: rest =>
      let part : Text := match c with
        | 'p' => f.path
        | 'f' => lastPart_ f.path
        | 'h' => withoutLastPart f.path
        | 's' => Text.decimal (sizeOf f.node)
        | 'd' => Text.decimal f.depth
        | 'm' => Text.decimal (rightsOf f.node)
        | 'y' => [letter f.node]
        | 'P' => f.path.drop (f.path.length - f.location.getLast?.elim 0 List.length)
        | 'l' => match f.node with
            | .link target => Text.ofBytes target
            | _ => []
        | '%' => ['%']
        | c => ['%', c]
      part ++ formatted f rest
  | '\\' :: 'n' :: rest => '\n' :: formatted f rest
  | '\\' :: 't' :: rest => '\t' :: formatted f rest
  | '\\' :: '0' :: rest => '\x00' :: formatted f rest
  | '\\' :: '\\' :: rest => '\\' :: formatted f rest
  | c :: rest => c :: formatted f rest
  | [] => []

/-- Put a path in place of each pair of braces. -/
def filledIn (path : Text) (word : Text) : Text :=
  match word with
  | '\x7b' :: '\x7d' :: rest => path ++ filledIn path rest
  | c :: rest => c :: filledIn path rest
  | [] => []

/-- Run a command, and say whether it ended well. -/
def command (launch : Launch) (w : Walk) (words : List Text) : Bool × Walk :=
  match launchNamed launch (words.headD []) words.tail w.job.child with
  | .error e =>
      (false, { w with
        status := 1
        job := w.job.blame "find" (quotedName (words.headD [])) e })
  | .ok (status, job) => (status.success, { w with job := w.job.rejoin job })

/-- Look whether a condition holds for a file. -/
def check (launch : Launch) (f : Found) : FindTest → Walk → Bool × Walk
  | .always value, w => (value, w)
  | .name caseless pattern, w => (fits caseless pattern (lastPart_ f.path), w)
  | .path caseless pattern, w => (fits caseless pattern f.path, w)
  | .regex r, w =>
      ((r.ends { before := [], after := f.path }).any (·.after.isEmpty), w)
  | .kind letters, w => (letters.contains (letter f.node), w)
  | .size sign n unit, w =>
      let size := (sizeOf f.node + unit - 1) / unit
      (if sign = '+' then size > n else if sign = '-' then size < n else size == n, w)
  | .empty, w =>
      (match f.node with
        | .directory => (w.job.disk.tree.names f.location).isEmpty
        | .file bytes _ => bytes.isEmpty
        | _ => false, w)
  | .runnable, w =>
      (match f.node with
        | .directory | .program _ | .file _ true => true
        | _ => false, w)
  | .newer _, w => (false, w)
  | .rights mode, w =>
      let digits := mode.dropWhile fun c => c == '-' || c == '/'
      let wanted := Text.ofDigits 8 digits
      let own := Text.ofDigits 8 (Text.decimal (rightsOf f.node))
      (match mode.head? with
        | some '-' => own &&& wanted == wanted
        | some '/' => wanted == 0 || own &&& wanted != 0
        | _ => own == wanted, w)
  | .print mark, w => (true, { w with job := w.job.print (f.path ++ mark) })
  | .format text, w => (true, { w with job := w.job.print (formatted f text) })
  | .delete, w =>
      let path := Text.bytes f.path
      if f.path = ['.'] then (true, w)
      else match w.job.onDisk fun d =>
          if f.node = .directory then d.removeDirectory path else d.remove path with
        | .ok job => (true, { w with job })
        | .error e => (false, { w with
            status := 1
            job := w.job.complain ("find: cannot delete ".toList ++ quotedName f.path ++
              ": ".toList ++ Job.errorText e) })
  | .prune, w => (true, { w with pruned := true })
  | .quit, w => (true, { w with stopped := true })
  | .exec words true _, w =>
      let before := (w.collected.lookup words).getD []
      (true, { w with collected :=
        (w.collected.filter (·.1 != words)) ++ [(words, before ++ [f.path])] })
  | .exec words false inPlace, w =>
      let path := if inPlace then "./".toList ++ lastPart_ f.path else f.path
      command launch w (words.map (filledIn path))
  | .not a, w =>
      let (holds, w) := check launch f a w
      (!holds, w)
  | .and a b, w =>
      match check launch f a w with
      | (true, w) => check launch f b w
      | r => r
  | .or a b, w =>
      match check launch f a w with
      | (false, w) => check launch f b w
      | r => r

/-- Look at a file and, if it is a directory, at those in it.  Their depth is bounded by the number
of files. -/
def visit (launch : Launch) (test : FindTest) (least : Nat) (most : Option Nat)
    (contentsFirst follows : Bool) : (fuel : Nat) → Found → Walk → Walk
  | 0, _, w => w
  | fuel + 1, f, w =>
      let own (w : Walk) : Walk :=
        if w.stopped ∨ f.depth < least then w else (check launch f test w).2
      let below (w : Walk) : Walk :=
        if f.node ≠ .directory ∨ w.stopped ∨ w.pruned ∨ most.any (· ≤ f.depth) then
          { w with pruned := false }
        else
          let names := Text.sorted ((w.job.disk.tree.names f.location).map Text.ofBytes)
          names.foldl (fun w name =>
            let path := inDirectory f.path name
            let found := if follows then w.job.disk.find (Text.bytes path)
              else (w.job.disk.tree.get? (f.location ++ [Text.bytes name])).elim
                (.error .noEntry) fun n => .ok (f.location ++ [Text.bytes name], n)
            match found with
            | .ok (location, node) =>
                visit launch test least most contentsFirst follows fuel
                  { path, location, node, depth := f.depth + 1 } w
            | .error _ => w) w
      if contentsFirst then own (below w) else below (own w)

end Walk

/-- Look at all files in directories. -/
def find : Program := fun launch arguments j =>
  let isLinks (a : Text) : Bool := ["-L", "-H", "-P"].contains (String.ofList a)
  let (leading, arguments) := arguments.span fun a => isLinks a || ['-', 'O'].isPrefixOf a
  let links := leading.filter isLinks
  let isExpression (a : Text) : Bool := a.head? == some '-' || a == ['('] || a == ['!']
  let roots := arguments.takeWhile (!isExpression ·)
  let words := arguments.drop roots.length
  let roots := if roots.isEmpty then [['.']] else roots
  let number (name : String) : Option Nat :=
    match words.dropWhile (· != name.toList) with
    | _ :: value :: _ => Text.number? value
    | _ => none
  let failed (complaint : Text) : ExitStatus × Job :=
    settle 1 (j.complain ("find: ".toList ++ complaint))
  match if words.isEmpty then some (.always true, [])
    else FindTest.alternatives? (4 * words.length + 4) words with
  | some (test, []) =>
      let test := if test.acts then test else .and test (.print ['\n'])
      let contentsFirst := test.deletes || words.contains "-depth".toList
      let follows := links.getLast? == some ['-', 'L']
      let w := roots.foldl (fun (w : Walk) root =>
        let found := if follows ∨ links.getLast? = some ['-', 'H'] then
            w.job.disk.find (Text.bytes root)
          else w.job.disk.findEntry (Text.bytes root)
        match found with
        | .error e => { w with
            status := 1
            job := w.job.blame "find" (quotedName root) e }
        | .ok (location, node) =>
            Walk.visit launch test ((number "-mindepth").getD 0) (number "-maxdepth") contentsFirst
              follows (w.job.disk.tree.nodes.length + 1)
              { path := root, location, node, depth := 0 } w) { job := j }
      let w := w.collected.foldl (fun (w : Walk) (words, paths) =>
        let words := words.filter (· != ['\x7b', '\x7d'])
        let (good, w) := Walk.command launch w (words ++ paths)
        if good then w else { w with status := 1 }) w
      settle w.status w.job
  | _ => failed "invalid expression".toList

end LtoBridge.Programs
