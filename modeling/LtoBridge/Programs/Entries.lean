/-
**Entries of directories.**

Programs that make, copy, move and remove files, directories and links.

Main definitions:

* `LtoBridge.Programs.mkdir`, `LtoBridge.Programs.rmdir`, `LtoBridge.Programs.rm`;
* `LtoBridge.Programs.cp`, `LtoBridge.Programs.mv`, `LtoBridge.Programs.ln`;
* `LtoBridge.Programs.touch`, `LtoBridge.Programs.chmod`, `LtoBridge.Programs.truncate`,
  `LtoBridge.Programs.dd`.
-/

import LtoBridge.Programs.Names

set_option autoImplicit false

namespace LtoBridge.Programs

/-! ### Changes -/

/-- Change the disk; if that fails, complain and keep the status 1. -/
def attemptOn (complaint : Text) (f : Disk → Except OsError Disk) (state : Nat × Job) : Nat × Job :=
  let (status, j) := state
  match j.onDisk f with
  | .ok j => (status, j)
  | .error e => (1, j.complain (complaint ++ ": ".toList ++ Job.errorText e))

/-- What is said when something cannot be done with a name. -/
def cannot (program what : String) (name : Text) : Text :=
  program.toList ++ ": cannot ".toList ++ what.toList ++ ' ' :: quotedName name

/-- A name in a directory. -/
def inDirectory (directory name : Text) : Text :=
  if directory.getLast? = some '/' then directory ++ name else directory ++ '/' :: name

/-- Does a path lead to a directory? -/
def isDirectory (j : Job) (path : Text) : Bool :=
  match j.disk.find (Text.bytes path) with
  | .ok (_, .directory) => true
  | _ => false

/-- The entry that a path names. -/
def entryAt? (j : Job) (path : Text) : Except OsError Node :=
  (j.disk.findEntry (Text.bytes path)).map (·.2)

/-! ### Directories and removal -/

/-- Make directories. -/
def mkdir : Tool := fun arguments j =>
  let grammar : Grammar :=
    { letters := "m:pvZ", words := [("parents", 'p'), ("verbose", 'v'), ("mode", 'm')] }
  match grammar.read arguments with
  | none => misused "mkdir" 1 j
  | some r =>
      if r.operands.isEmpty then misused "mkdir" 1 j
      else r.operands.foldl (fun (status, j) name =>
        let complaint := cannot "mkdir" "create directory" name
        let isNew := (entryAt? j name).isOk == false
        let (status, j) := attemptOn complaint (fun d =>
          if r.has 'p' then d.makeDirectories (Text.bytes name)
          else d.makeDirectory (Text.bytes name)) (status, j)
        (status, if r.has 'v' ∧ isNew ∧ isDirectory j name then
            j.print ("mkdir: created directory ".toList ++ quotedName name ++ ['\n'])
          else j)) (0, j)

/-- The paths of the directories on the way to a path, the longest one first. -/
def parents : (fuel : Nat) → Text → List Text
  | 0, _ => []
  | fuel + 1, path =>
      let path := withoutSlashes path
      if path.contains '/' then
        let before := withoutLastPart path
        if before = ['/'] then [] else before :: parents fuel before
      else []

/-- Remove directories that are empty. -/
def rmdir : Tool := fun arguments j =>
  let grammar : Grammar :=
    { letters := "pvI"
      words := [("parents", 'p'), ("verbose", 'v'), ("ignore-fail-on-non-empty", 'I')] }
  match grammar.read arguments with
  | none => misused "rmdir" 1 j
  | some r =>
      if r.operands.isEmpty then misused "rmdir" 1 j
      else
        let names := r.operands.flatMap fun name =>
          name :: if r.has 'p' then parents name.length name else []
        names.foldl (fun (status, j) name =>
          match j.onDisk (·.removeDirectory (Text.bytes name)) with
          | .ok j => (status, j)
          | .error .notEmpty =>
              if r.has 'I' then (status, j)
              else (1, j.complain ("rmdir: failed to remove ".toList ++ quotedName name ++
                ": Directory not empty".toList))
          | .error e => (1, j.complain ("rmdir: failed to remove ".toList ++ quotedName name ++
              ": ".toList ++ Job.errorText e))) (0, j)

/-- Remove files, and directories too if that is wanted. -/
def rm : Tool := fun arguments j =>
  let grammar : Grammar :=
    { letters := "dfiIrRv"
      words := [("force", 'f'), ("recursive", 'r'), ("verbose", 'v'), ("dir", 'd')] }
  match grammar.read arguments with
  | none => misused "rm" 1 j
  | some r =>
      if r.operands.isEmpty then if r.has 'f' then (0, j) else misused "rm" 1 j
      else r.operands.foldl (fun (status, j) name =>
        let complaint := cannot "rm" "remove" name
        let failed (e : OsError) : Nat × Job :=
          (1, j.complain (complaint ++ ": ".toList ++ Job.errorText e))
        let last := lastPart_ name
        let done (j : Job) : Job :=
          if r.has 'v' then j.print ("removed ".toList ++ quotedName name ++ ['\n']) else j
        match entryAt? j name with
        | .error e =>
            if r.has 'f' ∧ (e = .noEntry ∨ e = .notDirectory) then (status, j) else failed e
        | .ok .directory =>
            if last = ['.'] ∨ last = ['.', '.'] then
              (1, j.complain ("rm: refusing to remove '.' or '..' directory: skipping ".toList ++
                quotedName name))
            else if r.has 'r' ∨ r.has 'R' then
              if last = ['/'] then
                (1, j.complain "rm: it is dangerous to operate recursively on '/'".toList)
              else match j.onDisk (·.removeTree (Text.bytes name)) with
                | .ok j => (status, done j)
                | .error e => failed e
            else if r.has 'd' then
              match j.onDisk (·.removeDirectory (Text.bytes name)) with
              | .ok j => (status, done j)
              | .error e => failed e
            else failed .isDirectory
        | .ok _ =>
            match j.onDisk (·.remove (Text.bytes name)) with
            | .ok j => (status, done j)
            | .error e => failed e) (0, j)

/-! ### Targets -/

/-- Where files are put: under a name each, or in a directory. -/
structure Placement where
  sources : List Text
  /-- The name under which a source is put. -/
  target : Text → Text

/-- Where the operands say that files are put.  An answer without one is a complaint. -/
def placement (program : String) (r : Request) (j : Job) : Except Text Placement :=
  let into (directory : Text) (sources : List Text) : Placement :=
    { sources, target := fun s => inDirectory directory (lastPart_ s) }
  match r.value? 't', r.operands with
  | some directory, sources =>
      if isDirectory j directory then .ok (into directory sources)
      else .error (program.toList ++ ": target directory ".toList ++ quotedName directory ++
        ": No such file or directory".toList)
  | none, [] => .error (program.toList ++ ": missing file operand".toList)
  | none, [only] =>
      if program = "ln" then .ok (into ['.'] [only])
      else .error (program.toList ++ ": missing destination file operand after ".toList ++
        quotedName only)
  | none, operands =>
      let last := operands.getLastD []
      let sources := operands.dropLast
      let isOneName := r.has 'T' || (r.has 'n' && program == "ln" &&
        match entryAt? j last with
        | .ok (.link _) => true
        | _ => false)
      if ¬ isOneName ∧ isDirectory j last then .ok (into last sources)
      else if sources.length > 1 then
        .error (program.toList ++ ": target ".toList ++ quotedName last ++
          (match entryAt? j last with
          | .ok _ => ": Not a directory".toList
          | .error _ => ": No such file or directory".toList))
      else .ok { sources, target := fun _ => last }

/-! ### Copies -/

/-- Put a node under a name, in place of the contents of what has the name. -/
def putNode (path : Text) (n : Node) (d : Disk) : Except OsError Disk := do
  match n with
  | .file bytes executable => do
      let isNew := (d.find (Text.bytes path)).isOk == false
      let d ← d.create (Text.bytes path)
      let d ← d.append (Text.bytes path) bytes
      if isNew then d.setExecutable (Text.bytes path) executable else .ok d
  | .link target =>
      match d.findEntry (Text.bytes path) with
      | .ok (_, .directory) => .error .isDirectory
      | .ok _ => do (← d.remove (Text.bytes path)).makeLink target (Text.bytes path)
      | .error _ => d.makeLink target (Text.bytes path)
  | .program _ => do
      let d ← d.create (Text.bytes path)
      let (l, _) ← d.find (Text.bytes path)
      .ok (d.put l n)
  | _ => d.create (Text.bytes path)

/-- Copy what a path names, with all that is in it.  The depth of directories is bounded by the
number of files. -/
def copyTree (follows : Bool) : (fuel : Nat) → (source target : Text) → Disk → Except OsError Disk
  | 0, _, _, _ => .error .tooManyLinks
  | fuel + 1, source, target, d => do
      let (_, n) ← if follows then d.find (Text.bytes source) else d.findEntry (Text.bytes source)
      match n with
      | .directory => do
          let names ← d.list (Text.bytes source)
          let d ← match d.find (Text.bytes target) with
            | .ok (_, .directory) => .ok d
            | .ok _ => .error .notDirectory
            | .error _ => d.makeDirectory (Text.bytes target)
          names.foldlM (fun d (name, _) =>
            let name := Text.ofBytes name
            copyTree follows fuel (inDirectory source name) (inDirectory target name) d) d
      | n => putNode target n d

/-- Copy files, and directories too if that is wanted. -/
def cp : Tool := fun arguments j =>
  let grammar : Grammar :=
    { letters := "abdfiHlLnpPrRst:TuvxZ"
      words := [("recursive", 'r'), ("archive", 'a'), ("force", 'f'), ("no-clobber", 'n'),
        ("verbose", 'v'), ("target-directory", 't'), ("no-target-directory", 'T'),
        ("preserve", 'p'), ("dereference", 'L'), ("no-dereference", 'P'), ("update", 'u')] }
  match grammar.read arguments with
  | none => misused "cp" 1 j
  | some r =>
      match placement "cp" r j with
      | .error complaint => (1, j.complain complaint)
      | .ok p =>
          let deep := r.has 'r' || r.has 'R' || r.has 'a'
          let follows := r.has 'L' || !(deep || r.has 'P' || r.has 'd')
          p.sources.foldl (fun (status, j) source =>
            let target := p.target source
            let found := if follows then (j.disk.find (Text.bytes source)).map (·.2)
              else entryAt? j source
            let place (t : Text) : Option Location :=
              (j.disk.find (Text.bytes t)).toOption.map (·.1)
            match found with
            | .error e =>
                (1, j.complain (cannot "cp" "stat" source ++ ": ".toList ++ Job.errorText e))
            | .ok n =>
                if n = .directory ∧ ¬ deep then
                  (1, j.complain ("cp: -r not specified; omitting directory ".toList ++
                    quotedName source))
                else if (place target).isSome ∧ place source = place target then
                  (1, j.complain ("cp: ".toList ++ quotedName source ++ " and ".toList ++
                    quotedName target ++ " are the same file".toList))
                else if r.has 'n' ∧ (entryAt? j target).isOk then (status, j)
                else if n ≠ .directory ∧ isDirectory j target then
                  (1, j.complain ("cp: cannot overwrite directory ".toList ++ quotedName target ++
                    " with non-directory".toList))
                else if n = .directory ∧ (place source).any fun l =>
                    (((j.disk.locate (Text.bytes target)).toOption).any fun m =>
                      l.isPrefixOf m) then
                  (1, j.complain ("cp: cannot copy a directory, ".toList ++ quotedName source ++
                    ", into itself, ".toList ++ quotedName target))
                else
                  let (status, j) := attemptOn
                    (cannot "cp" (if n = .directory then "create directory"
                      else "create regular file") target)
                    (copyTree follows (j.disk.tree.nodes.length + 1) source target) (status, j)
                  (status, if r.has 'v' then
                    j.print (quotedName source ++ " -> ".toList ++ quotedName target ++ ['\n'])
                    else j)) (0, j)

/-- Copy files and set their rights, or make directories. -/
def install : Tool := fun arguments j =>
  let grammar : Grammar :=
    { letters := "bcCdDg:m:o:pst:Tv"
      words := [("directory", 'd'), ("mode", 'm'), ("target-directory", 't'), ("verbose", 'v'),
        ("no-target-directory", 'T')] }
  match grammar.read arguments with
  | none => misused "install" 1 j
  | some r =>
      if r.has 'd' then
        r.operands.foldl (fun (status, j) name =>
          attemptOn (cannot "install" "create directory" name)
            (·.makeDirectories (Text.bytes name)) (status, j)) (0, j)
      else
        let runnable := match r.value? 'm' with
          | none => true
          | some mode => if mode.all Char.isDigit then mode.any fun c => "1357".toList.contains c
              else mode.contains 'x'
        match placement "install" r j with
        | .error complaint => (1, j.complain complaint)
        | .ok p =>
            p.sources.foldl (fun (status, j) source =>
              let target := p.target source
              let path := Text.bytes target
              let j := if ¬ r.has 'D' then j
                else match j.onDisk (·.makeDirectories (Text.bytes (withoutLastPart target))) with
                  | .ok j => j
                  | .error _ => j
              attemptOn (cannot "install" "stat" source)
                (fun d => do
                  let d ← copyTree true (d.tree.nodes.length + 1) source target d
                  d.setExecutable path runnable) (status, j)) (0, j)

/-- Move files and directories. -/
def mv : Tool := fun arguments j =>
  let grammar : Grammar :=
    { letters := "bfint:Tuv"
      words := [("force", 'f'), ("no-clobber", 'n'), ("verbose", 'v'), ("target-directory", 't'),
        ("no-target-directory", 'T'), ("update", 'u')] }
  match grammar.read arguments with
  | none => misused "mv" 1 j
  | some r =>
      match placement "mv" r j with
      | .error complaint => (1, j.complain complaint)
      | .ok p => p.sources.foldl (fun (status, j) source =>
          let target := p.target source
          let place (t : Text) : Option Location :=
            (j.disk.findEntry (Text.bytes t)).toOption.map (·.1)
          match entryAt? j source with
          | .error e =>
              (1, j.complain (cannot "mv" "stat" source ++ ": ".toList ++ Job.errorText e))
          | .ok n =>
              if place source = place target then
                (1, j.complain ("mv: ".toList ++ quotedName source ++ " and ".toList ++
                  quotedName target ++ " are the same file".toList))
              else if r.has 'n' ∧ (entryAt? j target).isOk then (status, j)
              else
                let source' := if n = .directory then withoutSlashes source else source
                let target' := if n = .directory then withoutSlashes target else target
                let (status, j) := attemptOn
                  ("mv: cannot move ".toList ++ quotedName source ++ " to ".toList ++
                    quotedName target)
                  (fun d => d.rename (Text.bytes source') (Text.bytes target')) (status, j)
                (status, if r.has 'v' then
                  j.print ("renamed ".toList ++ quotedName source ++ " -> ".toList ++
                    quotedName target ++ ['\n'])
                  else j)) (0, j)

/-- Make links.  A second name for a file is a copy of it. -/
def ln : Tool := fun arguments j =>
  let grammar : Grammar :=
    { letters := "bfinLPrst:Tv"
      words := [("symbolic", 's'), ("force", 'f'), ("no-dereference", 'n'), ("verbose", 'v'),
        ("target-directory", 't'), ("no-target-directory", 'T')] }
  match grammar.read arguments with
  | none => misused "ln" 1 j
  | some r =>
      match placement "ln" r j with
      | .error complaint => (1, j.complain complaint)
      | .ok p => p.sources.foldl (fun (status, j) source =>
          let target := p.target source
          let symbolic := r.has 's'
          let complaint := "ln: failed to create ".toList ++
            (if symbolic then "symbolic link " else "hard link ").toList ++ quotedName target
          let found := entryAt? j source
          match symbolic, found with
          | false, .error e =>
              (1, j.complain ("ln: failed to access ".toList ++ quotedName source ++ ": ".toList ++
                Job.errorText e))
          | false, .ok .directory =>
              (1, j.complain ("ln: ".toList ++ quotedName source ++
                ": hard link not allowed for directory".toList))
          | _, found =>
              let j := if r.has 'f' then
                  match entryAt? j target with
                  | .ok .directory | .error _ => j
                  | .ok _ => ((j.onDisk (·.remove (Text.bytes target))).toOption).getD j
                else j
              attemptOn complaint (fun d =>
                if symbolic then d.makeLink (Text.bytes source) (Text.bytes target)
                else match found with
                  | .ok n => d.enter (Text.bytes target) n
                  | .error e => .error e) (status, j)) (0, j)

/-! ### Properties of files -/

/-- Make files that are not there yet. -/
def touch : Tool := fun arguments j =>
  let grammar : Grammar :=
    { letters := "acd:fhmr:t:"
      words := [("no-create", 'c'), ("date", 'd'), ("reference", 'r'), ("time", 't')] }
  match grammar.read arguments with
  | none => misused "touch" 1 j
  | some r =>
      if r.operands.isEmpty then misused "touch" 1 j
      else r.operands.foldl (fun (status, j) name =>
        match j.disk.find (Text.bytes name) with
        | .ok _ => (status, j)
        | .error _ =>
            if r.has 'c' then (status, j)
            else attemptOn (cannot "touch" "touch" name) (·.create (Text.bytes name))
              (status, j)) (0, j)

/-- Can a file be run after a change of its rights, given whether it can before that? -/
def runnableAfter? (mode : Text) (before : Bool) : Option Bool :=
  if mode.all fun c => '0' ≤ c && c ≤ '7' then
    if mode.isEmpty then none else some (mode.any fun c => c.toNat % 2 == 1)
  else (Text.splitAt (· == ',') mode).foldlM (fun before clause =>
    let who := clause.takeWhile fun c => "ugoa".toList.contains c
    match clause.drop who.length with
    | sign :: rights =>
        if ¬ rights.all ("rwxXstugo".toList.contains ·) then none
        else match sign with
          | '+' => some (before || rights.contains 'x')
          | '-' =>
              some (before && !(rights.contains 'x' &&
                (who.isEmpty || who.contains 'a' || who.length ≥ 3)))
          | '=' => some (rights.contains 'x' || (before && rights.contains 'X'))
          | _ => none
    | [] => none) before

/-- Change the rights of files. -/
def chmod : Tool := fun arguments j =>
  /- Rights that are taken away look like options. -/
  let isMode (a : Text) : Bool := a.head? == some '-' && a.length > 1 &&
    a.tail.all fun c => "rwxXst".toList.contains c
  let (taken, arguments) := arguments.partition isMode
  let grammar : Grammar :=
    { letters := "cfRv", words := [("recursive", 'R'), ("verbose", 'v'), ("quiet", 'f')] }
  match grammar.read (taken ++ arguments |>.filter (!isMode ·)) with
  | none => misused "chmod" 1 j
  | some r =>
      let (mode, names) := match taken, r.operands with
        | mode :: _, names => (mode, names)
        | [], mode :: names => (mode, names)
        | [], [] => ([], [])
      if names.isEmpty then misused "chmod" 1 j
      else if (runnableAfter? mode false).isNone then
        (1, j.complain ("chmod: invalid mode: ".toList ++ quotedName mode))
      else names.foldl (fun (status, j) name =>
        match j.disk.find (Text.bytes name) with
        | .error e => (1, j.complain (cannot "chmod" "access" name ++ ": ".toList ++
            Job.errorText e))
        | .ok (l, _) =>
            let under := if r.has 'R' then
                j.disk.tree.nodes.filter fun entry => l.isPrefixOf entry.1
              else j.disk.tree.nodes.filter fun entry => entry.1 == l
            let disk := under.foldl (fun (d : Disk) entry =>
              match entry with
              | (m, .file bytes executable) =>
                  d.put m (.file bytes ((runnableAfter? mode executable).getD executable))
              | _ => d) j.disk
            (status, { j with disk })) (0, j)

/-- Give files a size. -/
def truncate : Tool := fun arguments j =>
  let grammar : Grammar :=
    { letters := "cs:r:o"
      words := [("size", 's'), ("no-create", 'c'), ("reference", 'r')] }
  match grammar.read arguments with
  | none => misused "truncate" 1 j
  | some r =>
      let (sign, digits) := match (r.value? 's').getD [] with
        | '+' :: digits => ('+', digits)
        | '-' :: digits => ('-', digits)
        | digits => ('=', digits)
      match quantity? digits, r.operands with
      | none, _ | _, [] => misused "truncate" 1 j
      | some n, names => names.foldl (fun (status, j) name =>
          let path := Text.bytes name
          attemptOn (cannot "truncate" "open" name) (fun d => do
            let d ← match d.find path with
              | .ok _ => .ok d
              | .error e => if r.has 'c' then .error e else d.create path
            match ← d.find path with
            | (l, .file bytes executable) =>
                let size := if sign = '+' then bytes.length + n
                  else if sign = '-' then bytes.length - n
                  else n
                .ok (d.put l (.file (bytes.take size ++
                  List.replicate (size - bytes.length) 0) executable))
            | (_, .directory) => .error .isDirectory
            | _ => .ok d) (status, j)) (0, j)

/-- Copy blocks of bytes. -/
def dd : Tool := fun arguments j =>
  let value (name : String) : Option Text :=
    arguments.reverse.findSome? fun a =>
      if (name ++ "=").toList.isPrefixOf a then some (a.drop (name.length + 1)) else none
  let number (name : String) (usual : Nat) : Nat :=
    ((value name).bind quantity?).getD usual
  let size := number "bs" (number "ibs" 512)
  let skipped := number "skip" 0 * size
  let position := number "seek" 0 * number "bs" (number "obs" 512)
  let limit := ((value "count").bind quantity?).map (· * size)
  let conversions := Text.splitAt (· == ',') ((value "conv").getD [])
  let known := ["if", "of", "bs", "ibs", "obs", "cbs", "skip", "seek", "count", "conv", "status",
    "iflag", "oflag"]
  match arguments.find? fun a => !known.contains (String.ofList (a.takeWhile (· != '='))) with
  | some wrong => (1, j.complain ("dd: unrecognized operand ".toList ++ quotedName wrong))
  | none =>
      let opened : Except OsError (Job × Nat) := match value "if" with
        | none => .ok (j, 0)
        | some name => (j.openToRead name).map fun (id, j) => (j.attach 8 id, 8)
      match opened with
      | .error e => (1, j.complain ("dd: failed to open ".toList ++
          quotedName ((value "if").getD []) ++ ": ".toList ++ Job.errorText e))
      | .ok (j, source) =>
          let read := match limit with
            | some n => j.peek source (skipped + n)
            | none => j.pending source
          match read with
          | .error e => (1, j.blame "dd" "error reading".toList e)
          | .ok text =>
              let j := j.consume source text.length
              let text := text.drop skipped
              let text := if conversions.contains "ucase".toList then text.map Char.toUpper
                else if conversions.contains "lcase".toList then text.map Char.toLower
                else text
              match value "of" with
              | none => (0, j.print text)
              | some name =>
                  let keeps := conversions.contains "notrunc".toList
                  let path := Text.bytes name
                  let made := j.onDisk fun d => do
                    let d ← match d.find path, keeps with
                      | .ok _, true => .ok d
                      | _, _ => if position > 0 ∧ (d.find path).isOk then .ok d else d.create path
                    match ← d.find path with
                    | (l, .file bytes executable) =>
                        let kept := if keeps then bytes else bytes.take position
                        (d.put l (.file kept executable)).writeAt l position (Text.bytes text)
                    | (l, _) => d.writeAt l position (Text.bytes text)
                  match made with
                  | .ok j => (0, j)
                  | .error e => (1, j.complain ("dd: failed to open ".toList ++ quotedName name ++
                      ": ".toList ++ Job.errorText e))

/-- Give files to somebody.  They all belong to the same user. -/
def chown : Tool := fun arguments j =>
  let operands := arguments.filter fun a => a.head? != some '-'
  match operands with
  | _ :: name :: names =>
      (name :: names).foldl (fun (status, j) name =>
        match j.disk.find (Text.bytes name) with
        | .ok _ => (status, j)
        | .error e => (1, j.blame "chown" (quotedName name) e)) (0, j)
  | _ => misused "chown" 1 j

/-! ### Single steps -/

/-- Remove one name. -/
def unlink : Tool := fun arguments j =>
  match arguments with
  | [name] => attemptOn (cannot "unlink" "unlink" name) (·.remove (Text.bytes name)) (0, j)
  | _ => misused "unlink" 1 j

/-- Give a file one more name, under which a copy of it is. -/
def link : Tool := fun arguments j =>
  match arguments with
  | [source, target] =>
      attemptOn (cannot "link" "create link" target)
        (fun d => do
          match ← d.findEntry (Text.bytes source) with
          | (_, .directory) => .error .accessDenied
          | (_, node) => d.enter (Text.bytes target) node) (0, j)
  | _ => misused "link" 1 j

end LtoBridge.Programs
