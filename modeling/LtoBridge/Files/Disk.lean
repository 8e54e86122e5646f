/-
**Operations on files.**

Main definitions:

* `LtoBridge.Disk.create`, `LtoBridge.Disk.append`, `LtoBridge.Disk.read`, `LtoBridge.Disk.remove`:
  files;
* `LtoBridge.Disk.makeLink`, `LtoBridge.Disk.rename`: entries of directories;
* `LtoBridge.Disk.makeDirectory`, `LtoBridge.Disk.removeTree`, `LtoBridge.Disk.list`: directories;
* `LtoBridge.Disk.makeTemporary`: a directory with a new name.
-/

import LtoBridge.Files.Walk

set_option autoImplicit false

namespace LtoBridge.Disk

/-! ### Files -/

/-- The disk with something at a location. -/
def put (d : Disk) (l : Location) (n : Node) : Disk := { d with tree := d.tree.put l n }

/-- Make a file, or make an existing one empty.  No file can be made under a name that ends in a
separator. -/
def create (d : Disk) (p : Path) : Except OsError Disk :=
  if 0 ∉ p ∧ endsInSeparator p ∧ p.length < pathLimit then do
    let _ ← d.holder p
    .error .isDirectory
  else do
    let l ← d.locate p
    match d.tree.get? l with
    | some .directory => .error .isDirectory
    | some (.file _ executable) => .ok (d.put l (.file [] executable))
    | some _ => .ok d
    | none => .ok (d.put l (.file [] false))

/-- The bytes with `data` in place of what is at a position.  A gap before it is filled with
zeros. -/
def overwrite (bytes : Bytes) (position : Nat) (data : Bytes) : Bytes :=
  bytes.take position ++ List.replicate (position - bytes.length) 0 ++ data ++
    bytes.drop (position + data.length)

/-- Write data to a position of what is at a location, if it is there. -/
def writeAt (d : Disk) (l : Location) (position : Nat) (data : Bytes) : Except OsError Disk :=
  match d.tree.get? l with
  | some (.file contents executable) =>
      .ok (d.put l (.file (overwrite contents position data) executable))
  | some (.device .full) => if data = [] then .ok d else .error .noSpace
  | _ => .ok d

/-- Add data to the end of what is at a location, if it is there. -/
def appendAt (d : Disk) (l : Location) (data : Bytes) : Except OsError Disk :=
  match d.tree.get? l with
  | some (.file contents executable) => .ok (d.put l (.file (contents ++ data) executable))
  | some (.device .full) => if data = [] then .ok d else .error .noSpace
  | _ => .ok d

/-- Add data to the end of a file. -/
def append (d : Disk) (p : Path) (data : Bytes) : Except OsError Disk := do
  let (l, _) ← d.find p
  d.appendAt l data

/-- The bytes that every program begins with. -/
def programImage : Bytes := [0x7F, 0x45, 0x4C, 0x46, 2, 1, 1, 0]

/-- What can be read from something; what has no end shows nothing of itself here. -/
def contents : Node → Except OsError Bytes
  | .file bytes _ => .ok bytes
  | .directory => .error .isDirectory
  | .program _ => .ok programImage
  | .link _ | .device _ => .ok []

/-- At most `count` bytes of something from a position on. -/
def part (n : Node) (position count : Nat) : Except OsError Bytes :=
  match n with
  | .device .zero | .device .full => .ok (List.replicate count 0)
  | n => (contents n).map fun bytes => (bytes.drop position).take count

/-- The contents of a file. -/
def read (d : Disk) (p : Path) : Except OsError Bytes := do
  let (_, n) ← d.find p
  contents n

/-- Remove a file or a link. -/
def remove (d : Disk) (p : Path) : Except OsError Disk := do
  match ← d.findEntry p with
  | (_, .directory) => .error .isDirectory
  | (l, _) => .ok { d with tree := d.tree.erase l }

/-- Let a file be run, or not. -/
def setExecutable (d : Disk) (p : Path) (executable : Bool) : Except OsError Disk := do
  match ← d.find p with
  | (l, .file bytes _) => .ok (d.put l (.file bytes executable))
  | _ => .ok d

/-! ### Entries of directories -/

/-- Put something under a name that is not in use yet. -/
def enter (d : Disk) (p : Path) (n : Node) : Except OsError Disk := do
  let l ← d.locateEntry p
  match d.tree.get? l with
  | some _ => .error .alreadyExists
  | none => if endsInSeparator p ∧ n ≠ .directory then .error .noEntry else .ok (d.put l n)

/-- Make a link, which need not lead anywhere. -/
def makeLink (d : Disk) (target p : Path) : Except OsError Disk :=
  if target = [] then .error .noEntry else d.enter p (.link target)

/-- Give an entry another name, in place of what has that name. -/
def rename (d : Disk) (p q : Path) : Except OsError Disk := do
  let (l, n) ← d.findEntry p
  let m ← d.locateEntry q
  let moved : Disk := { d with tree := d.tree.move l m }
  if l = m then .ok d
  else if l.isPrefixOf m then .error .invalidArgument
  else match n, d.tree.get? m with
    | .directory, some .directory =>
        if d.tree.names m = [] then .ok moved else .error .notEmpty
    | .directory, some _ => .error .notDirectory
    | _, some .directory => .error .isDirectory
    | .directory, none => .ok moved
    | _, none => if endsInSeparator q then .error .notDirectory else .ok moved
    | _, some _ => .ok moved

/-! ### Directories -/

/-- Make a directory. -/
def makeDirectory (d : Disk) (p : Path) : Except OsError Disk := d.enter p .directory

/-- Make the directories on the way along some names, as far as they are missing. -/
def makeAlong (d : Disk) (l : Location) : List Bytes → Except OsError Disk
  | [] => .ok d
  | name :: rest => do
      if name.length > nameLimit then .error .nameTooLong
      else
        let next ← walk d.tree true linkLimit l [name]
        match d.tree.get? next with
        | some .directory => makeAlong d next rest
        | some _ => .error (if rest = [] then .alreadyExists else .notDirectory)
        | none => makeAlong (d.put next .directory) next rest

/-- Make a directory and those that lead to it. -/
def makeDirectories (d : Disk) (p : Path) : Except OsError Disk :=
  if 0 ∈ p then .error .zeroInName else d.makeAlong (d.origin p) (components p)

/-- Remove a directory that is empty. -/
def removeDirectory (d : Disk) (p : Path) : Except OsError Disk := do
  match ← d.findEntry p with
  | (l, .directory) =>
      if d.tree.names l ≠ [] then .error .notEmpty
      else .ok { d with tree := d.tree.erase l }
  | _ => .error .notDirectory

/-- Remove a directory and everything in it.  Of a link, only the link itself is removed. -/
def removeTree (d : Disk) (p : Path) : Except OsError Disk := do
  match ← d.findEntry p with
  | (l, .directory) => .ok { d with tree := d.tree.eraseBelow l }
  | (l, .link _) => .ok { d with tree := d.tree.erase l }
  | _ => .error .notDirectory

/-- Remove whatever has a name. -/
def removeAny (d : Disk) (p : Path) : Except OsError Disk := do
  match ← d.findEntry p with
  | (_, .directory) => d.removeTree p
  | _ => d.remove p

/-- The names in a directory, each with whether it is a directory itself. -/
def list (d : Disk) (p : Path) : Except OsError (List (Bytes × Bool)) := do
  match ← d.find p with
  | (l, .directory) =>
      .ok ((d.tree.names l).map fun name =>
        (name, d.tree.get? (l ++ [name]) == some .directory))
  | _ => .error .notDirectory

/-! ### Temporary directories -/

/-- A name of six digits after the stem. -/
def numbered (stem : Path) (n : Nat) : Path :=
  let digits := Bytes.decimal n
  stem ++ List.replicate (6 - digits.length) 48 ++ digits

/-- Make a directory with the first of the given numbers that is free. -/
def makeNumbered (d : Disk) (directory stem : Path) :
    List Nat → Except (OsError × Path) (Path × Disk)
  | [] => .error (.alreadyExists, directory.join stem)
  | n :: rest =>
      let path := directory.join (numbered stem n)
      match d.makeDirectory path with
      | .ok d => .ok (path, d)
      | .error .alreadyExists => makeNumbered d directory stem rest
      | .error e => .error (e, path)

/-- Make a directory with a new name that begins with `stem`, and give its absolute path. -/
def makeTemporary (d : Disk) (parent stem : Path) : Except (OsError × Path) (Path × Disk) :=
  d.makeNumbered (d.currentPath.join parent) stem (List.range (d.tree.nodes.length + 1))

end LtoBridge.Disk
