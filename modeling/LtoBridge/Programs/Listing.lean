/-
**What is in directories.**

Main definitions:

* `LtoBridge.Programs.ls`: show the names in directories;
* `LtoBridge.Programs.stat`: show properties of files.
-/

import LtoBridge.Programs.Entries
import LtoBridge.Programs.Sort

set_option autoImplicit false

namespace LtoBridge.Programs

/-! ### Properties -/

/-- The sign of the kind of something. -/
def kindSign : Node → Char
  | .directory => 'd'
  | .link _ => 'l'
  | .device _ => 'c'
  | .file _ _ | .program _ => '-'

/-- The rights of something, as three digits. -/
def rightsOf : Node → Nat
  | .link _ => 777
  | .directory | .program _ | .file _ true => 755
  | .device _ => 666
  | .file _ false => 644

/-- Rights as letters. -/
def rightsText (n : Node) : Text :=
  let digit (d : Nat) : Text :=
    [if d / 4 % 2 = 1 then 'r' else '-', if d / 2 % 2 = 1 then 'w' else '-',
      if d % 2 = 1 then 'x' else '-']
  let rights := rightsOf n
  kindSign n :: digit (rights / 100) ++ digit (rights / 10 % 10) ++ digit (rights % 10)

/-- The size of something. -/
def sizeOf : Node → Nat
  | .directory => 4096
  | .link target => target.length
  | .device _ => 0
  | .file bytes _ => bytes.length
  | .program _ => 100000

/-- What is shown after a name to tell its kind. -/
def kindMark (onlyDirectories : Bool) : Node → Text
  | .directory => ['/']
  | .link _ => if onlyDirectories then [] else ['@']
  | .file _ true | .program _ => if onlyDirectories then [] else ['*']
  | _ => []

/-- The name of the kind of something. -/
def kindName : Node → String
  | .directory => "directory"
  | .link _ => "symbolic link"
  | .device _ => "character special file"
  | .file [] _ => "regular empty file"
  | .file _ _ | .program _ => "regular file"

/-! ### Listings -/

/-- A name that is shown, and what it is. -/
abbrev Shown_ := Text × Node

/-- A line for a name. -/
def entryLine (r : Request) (width : Nat) (e : Shown_) : Text :=
  let (name, n) := e
  let mark := if r.has 'F' then kindMark false n else if r.has 'p' then kindMark true n else []
  if r.has 'l' then
    let links := match n with
      | .directory => ['2']
      | _ => ['1']
    let target := match n with
      | .link target => " -> ".toList ++ Text.ofBytes target
      | _ => mark
    rightsText n ++ ' ' :: links ++ " root root ".toList ++
      Text.pad false ' ' width (Text.decimal (sizeOf n)) ++ " Jan  1 00:00 ".toList ++ name ++
      target ++ ['\n']
  else name ++ mark ++ ['\n']

/-- Names in the order that is wanted. -/
def ordered (r : Request) (entries : List Shown_) : List Shown_ :=
  let sorted := if r.has 'U' then entries
    else if r.has 'S' then
      entries.mergeSort fun a b =>
        sizeOf a.2 > sizeOf b.2 || (sizeOf a.2 == sizeOf b.2 && Text.precedes a.1 b.1)
    else if r.has 'v' then entries.mergeSort fun a b => compareVersions a.1 b.1 != .gt
    else entries.mergeSort fun a b => Text.precedes a.1 b.1
  if r.has 'r' then sorted.reverse else sorted

/-- The lines for some names. -/
def entryLines (r : Request) (entries : List Shown_) : Text :=
  let width := (entries.map fun e => (Text.decimal (sizeOf e.2)).length).foldl max 0
  if r.has 'm' then
    if entries.isEmpty then []
    else ", ".toList.intercalate (entries.map (·.1)) ++ ['\n']
  else entries.flatMap (entryLine r width)

/-- The names in a directory that are shown. -/
def visibleIn (r : Request) (disk : Disk) (l : Location) : List Shown_ :=
  let own : List Shown_ := if r.has 'a' ∧ ¬ r.has 'A' then
      [(['.'], .directory), (['.', '.'], .directory)] else []
  let names := (disk.tree.names l).filterMap fun name =>
    (disk.tree.get? (l ++ [name])).map fun n => (Text.ofBytes name, n)
  let names := if r.has 'a' ∨ r.has 'A' then names
    else names.filter fun e => e.1.head? != some '.'
  ordered r (own ++ names)

/-- The listing of a directory and, if that is wanted, of those in it.  Their depth is bounded by
the number of files. -/
def listing (r : Request) (disk : Disk) : (fuel : Nat) → (heading : Bool) → Text → Location → Text
  | 0, _, _, _ => []
  | fuel + 1, heading, path, l =>
      let entries := visibleIn r disk l
      let title := if heading then path ++ ":\n".toList else []
      let total := if r.has 'l' then
          let blocks := (entries.map fun e => match e.2 with
            | .directory => 4
            | .file bytes _ => (bytes.length + 4095) / 4096 * 4
            | _ => 0).foldl (· + ·) 0
          "total ".toList ++ Text.decimal blocks ++ ['\n']
        else []
      let below := if r.has 'R' then
          entries.flatMap fun (name, n) =>
            if n = .directory ∧ name ≠ ['.'] ∧ name ≠ ['.', '.'] then
              '\n' :: listing r disk fuel true (inDirectory path name) (l ++ [Text.bytes name])
            else []
        else []
      title ++ total ++ entryLines r entries ++ below

/-- Show the names in directories. -/
def ls : Tool := fun arguments j =>
  let grammar : Grammar :=
    { letters := "1aAbBcCdfFgGhHiIklLmnNopqQrRsStTuUvwxXZ"
      words := [("all", 'a'), ("almost-all", 'A'), ("directory", 'd'), ("reverse", 'r'),
        ("recursive", 'R'), ("classify", 'F'), ("color", 'G'), ("human-readable", 'h')] }
  match grammar.read arguments with
  | none => misused "ls" 2 j
  | some r =>
      let names := if r.operands.isEmpty then [['.']] else r.operands
      let (status, found, j) := names.foldl
        (fun (state : Nat × List (Text × Location × Node) × Job) name =>
          let (status, found, j) := state
          /- A link to a directory counts as that, unless links are shown themselves. -/
          let answer :=
            if (r.has 'l' ∨ r.has 'd' ∨ r.has 'F') ∧ ¬ r.has 'L' ∧ ¬ r.has 'H' then
              j.disk.findEntry (Text.bytes name)
            else match j.disk.find (Text.bytes name) with
              | .ok found => .ok found
              | .error _ => j.disk.findEntry (Text.bytes name)
          match answer with
          | .ok (l, n) => (status, found ++ [(name, l, n)], j)
          | .error e =>
              (2, found, j.complain (cannot "ls" "access" name ++ ": ".toList ++ Job.errorText e)))
        (0, [], j)
      let isListed (e : Text × Location × Node) : Bool := e.2.2 == .directory && !r.has 'd'
      let single := ordered r ((found.filter (!isListed ·)).map fun e => (e.1, e.2.2))
      let directories := ordered r ((found.filter isListed).map fun e => (e.1, e.2.2))
      let heading := names.length > 1 || r.has 'R'
      let fuel := j.disk.tree.nodes.length + 1
      let parts := directories.map fun (name, _) =>
        listing r j.disk fuel heading name
          (((j.disk.find (Text.bytes name)).toOption.map (·.1)).getD [])
      let parts := (if single.isEmpty then [] else [entryLines r single]) ++ parts
      (status, j.print (['\n'].intercalate parts))

/-- A property of something, as a letter after a percent sign asks for it. -/
def property (name : Text) (n : Node) : Char → Text
  | 'n' => name
  | 's' => Text.decimal (sizeOf n)
  | 'a' => Text.decimal (rightsOf n)
  | 'A' => rightsText n
  | 'F' => (kindName n).toList
  | 'U' | 'G' => "root".toList
  | 'u' | 'g' => ['0']
  | 'h' => ['1']
  | 'N' => quotedName name ++ (match n with
      | .link target => " -> ".toList ++ quotedName (Text.ofBytes target)
      | _ => [])
  | '%' => ['%']
  | _ => ['?']

/-- A format in which properties are put in place of letters. -/
def withProperties (name : Text) (n : Node) : Text → Text
  | '%' :: c :: rest => property name n c ++ withProperties name n rest
  | '\\' :: 'n' :: rest => '\n' :: withProperties name n rest
  | c :: rest => c :: withProperties name n rest
  | [] => []

/-- Show properties of files. -/
def stat : Tool := fun arguments j =>
  let grammar : Grammar :=
    { letters := "c:fLtP:"
      words := [("format", 'c'), ("printf", 'P'), ("dereference", 'L'), ("terse", 't')] }
  match grammar.read arguments with
  | none => misused "stat" 1 j
  | some r =>
      if r.operands.isEmpty then misused "stat" 1 j
      else r.operands.foldl (fun (status, j) name =>
        let answer := if r.has 'L' then (j.disk.find (Text.bytes name)).map (·.2)
          else entryAt? j name
        match answer, r.value? 'c', r.value? 'P' with
        | .error e, _, _ =>
            (1, j.complain (cannot "stat" "statx" name ++ ": ".toList ++ Job.errorText e))
        | .ok n, some format, _ => (status, j.print (withProperties name n format ++ ['\n']))
        | .ok n, none, some format => (status, j.print (withProperties name n format))
        | .ok n, none, none =>
            (status, j.print (withProperties name n "  File: %n\n  Size: %s\t%F\n".toList)))
        (0, j)

end LtoBridge.Programs
