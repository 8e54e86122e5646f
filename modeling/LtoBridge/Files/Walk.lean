/-
**From names to locations.**

A name leads to a location step by step, from the root or from the current directory.  On the way
everything must be a directory, or a link to one.  A link at the end is followed or not, as the
operation wants it.  What is at the end, if anything, is for each operation to check.

Main definitions:

* `LtoBridge.Disk`: a tree of files and a current directory;
* `LtoBridge.Disk.walk`: follow names from a location;
* `LtoBridge.Disk.locate`, `LtoBridge.Disk.find`: follow a path, and a link at its end;
* `LtoBridge.Disk.locateEntry`, `LtoBridge.Disk.findEntry`: do not follow a link at the end.
-/

import LtoBridge.Files.Tree
import LtoBridge.OsError

set_option autoImplicit false

namespace LtoBridge

/-- A tree of files and the directory that relative names start from. -/
structure Disk where
  tree : FileTree
  current : Location

namespace Disk

/-! ### Names -/

/-- The longest name of a file in its directory. -/
def nameLimit : Nat := 255

/-- Names from the root have to be shorter than this. -/
def pathLimit : Nat := 4096

/-- How many links can be followed on the way along a path. -/
def linkLimit : Nat := 40

/-- The parts of a byte string between separators. -/
def split (separator : UInt8) : Bytes → List Bytes
  | [] => [[]]
  | b :: bs =>
      if b = separator then [] :: split separator bs
      else match split separator bs with
        | [] => [[b]]
        | part :: parts => (b :: part) :: parts

/-- The names that a path consists of. -/
def components (p : Path) : List Bytes := (split Path.separator p).filter (· ≠ [])

/-- Does the path insist on a directory? -/
def endsInSeparator (p : Path) : Bool := p.getLast? == some Path.separator

/-- The path from the root to a location. -/
def absolute (l : Location) : Path :=
  if l = [] then [Path.separator] else l.flatMap (Path.separator :: ·)

/-- The path of the current directory. -/
def currentPath (d : Disk) : Path := absolute d.current

/-! ### Walks -/

/-- The location that a name leads to from a directory. -/
def step (l : Location) (name : Bytes) : Location :=
  if name = [46] then l else if name = [46, 46] then l.dropLast else l ++ [name]

/-- The location that names lead to, one after the other.  A name can only be followed in a
directory.  How to follow a link is given; at the end a link is followed only if `toEnd` holds. -/
def walkNames (follow : Location → List Bytes → Except OsError Location) (t : FileTree)
    (toEnd : Bool) : Location → List Bytes → Except OsError Location
  | l, [] => .ok l
  | l, name :: rest =>
      match t.get? l with
      | none => .error .noEntry
      | some .directory =>
          if name.length > nameLimit then .error .nameTooLong
          else
            let next := step l name
            match t.get? next with
            | some (.link target) =>
                if rest = [] ∧ ¬ toEnd then .ok next
                else follow (if target.isAbsolute then [] else l) (components target ++ rest)
            | _ => walkNames follow t toEnd next rest
      | some _ => .error .notDirectory

/-- The location that names lead to, with a bound on the number of links on the way. -/
def walk (t : FileTree) (toEnd : Bool) :
    (links : Nat) → Location → List Bytes → Except OsError Location
  | 0 => walkNames (fun _ _ => .error .tooManyLinks) t toEnd
  | links + 1 => walkNames (walk t toEnd links) t toEnd

/-- Where a path starts. -/
def origin (d : Disk) (p : Path) : Location := if p.isAbsolute then [] else d.current

/-- The location that a path leads to. -/
def locateWith (d : Disk) (toEnd : Bool) (p : Path) : Except OsError Location :=
  if 0 ∈ p then .error .zeroInName
  else if p = [] then .error .noEntry
  else if p.length ≥ pathLimit then .error .nameTooLong
  else walk d.tree toEnd linkLimit (d.origin p) (components p)

/-- The location that a path leads to, following a link at its end. -/
def locate (d : Disk) (p : Path) : Except OsError Location := d.locateWith true p

/-- The location of the entry that a path names, which may be a link. -/
def locateEntry (d : Disk) (p : Path) : Except OsError Location :=
  d.locateWith (endsInSeparator p) p

/-- What is at the location that a path leads to.  A path that ends in a separator insists on a
directory. -/
def lookAt (d : Disk) (p : Path) (l : Location) : Except OsError (Location × Node) :=
  match d.tree.get? l with
  | none => .error .noEntry
  | some .directory => .ok (l, .directory)
  | some n => if endsInSeparator p then .error .notDirectory else .ok (l, n)

/-- What a path leads to, and where it is. -/
def find (d : Disk) (p : Path) : Except OsError (Location × Node) := do
  d.lookAt p (← d.locate p)

/-- The entry that a path names, and where it is. -/
def findEntry (d : Disk) (p : Path) : Except OsError (Location × Node) := do
  d.lookAt p (← d.locateEntry p)

/-- The directory that holds what a path names. -/
def holder (d : Disk) (p : Path) : Except OsError Location := do
  let l ← walk d.tree true linkLimit (d.origin p) (components p).dropLast
  match d.tree.get? l with
  | none => .error .noEntry
  | some .directory => .ok l
  | some _ => .error .notDirectory

end Disk

end LtoBridge
