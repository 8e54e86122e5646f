/-
**Expansion of words.**

A word is replaced by the text that its parts stand for.  What comes from an expansion without
quotes is split at separators, and a pattern is replaced by the names of the files that fit it.

Main definitions:

* `LtoBridge.Shell.Piece`, `LtoBridge.Shell.fields`: what a word is replaced by, and its fields;
* `LtoBridge.Shell.Act.expandText`: a word as one text;
* `LtoBridge.Shell.Act.expandPattern`: a word as a pattern;
* `LtoBridge.Shell.Act.expandFields`: words as arguments of a command.
-/

import LtoBridge.Shell.Arithmetic
import LtoBridge.Shell.Pattern
import LtoBridge.Shell.State

set_option autoImplicit false

namespace LtoBridge.Shell

open LtoBridge.Programs (Text)

/-! ### Fields -/

/-- What a word is replaced by, piece by piece. -/
inductive Piece
  /-- A text.  If it is quoted, there is a field even if it is empty. -/
  | text (text : Text) (quoted splits : Bool)
  /-- Another field begins. -/
  | fence
  deriving DecidableEq

/-- The characters of pieces, each with whether it is quoted. -/
def patternOf (ps : List Piece) : Pattern := ps.flatMap fun
  | .text text quoted _ => text.map (·, quoted)
  | .fence => [(' ', true)]

/-- The text of pieces. -/
def textOf (ps : List Piece) : Text := ps.flatMap fun
  | .text text _ _ => text
  | .fence => [' ']

/-- Fields that are being made, the last ones and their last characters first. -/
structure Fields where
  found : List Pattern := []
  /-- The field that has begun. -/
  begun : Option Pattern := none
  /-- Has a field just been ended by a blank? -/
  afterBlank : Bool := false

namespace Fields

/-- End the field that has begun. -/
def close (f : Fields) (afterBlank : Bool) : Fields :=
  match f.begun with
  | some field => { found := field.reverse :: f.found, begun := none, afterBlank }
  | none => { f with afterBlank := f.afterBlank && afterBlank }

/-- Add a character that may separate fields. -/
def addChar (separators : Text) (f : Fields) (c : Char) : Fields :=
  if ¬ separators.contains c then
    { f with begun := some ((c, false) :: f.begun.getD []), afterBlank := false }
  else if c = ' ' ∨ c = '\t' ∨ c = '\n' then f.close true
  else if f.begun.isNone ∧ f.afterBlank then { f with afterBlank := false }
  else ({ f with begun := some (f.begun.getD []) }).close false

/-- Add a piece. -/
def add (separators : Text) (f : Fields) : Piece → Fields
  | .fence => { f.close false with afterBlank := false }
  | .text text quoted splits =>
      if splits then text.foldl (addChar separators) f
      else if text.isEmpty ∧ ¬ quoted then f
      else { f with
        begun := some ((text.map (·, quoted)).reverse ++ f.begun.getD [])
        afterBlank := false }

end Fields

/-- The fields that pieces make up. -/
def fields (separators : Text) (ps : List Piece) : List Pattern :=
  ((ps.foldl (Fields.add separators) {}).close false).found.reverse

/-! ### Names of files -/

/-- The parts of a pattern between separators. -/
def patternParts : Pattern → List Pattern
  | [] => [[]]
  | (c, quoted) :: rest =>
      if c = '/' then [] :: patternParts rest
      else match patternParts rest with
        | [] => [[(c, quoted)]]
        | part :: parts => ((c, quoted) :: part) :: parts

/-- The names in a directory that fit a pattern, in order.  A name that begins with a dot is only
meant if the pattern says so. -/
def fitting (d : Dialect) (disk : Disk) (directory : Text) (p : Pattern) : List Text :=
  let path := if directory.isEmpty then ['.'] else directory
  match disk.list (Text.bytes path) with
  | .error _ => []
  | .ok names =>
      let own : List Text := if d = .plain then [['.'], ['.', '.']] else []
      let names := own ++ names.map fun (name, _) => Text.ofBytes name
      let globs := p.globs d
      let dots := p.head?.map (·.1) == some '.'
      Text.sorted (names.filter fun name =>
        (name.head? != some '.' || dots) && Glob.fit globs name)

/-- The paths that fit a pattern, given part by part, after the text before it. -/
def paths (d : Dialect) (disk : Disk) : (before : Text) → List Pattern → List Text
  | before, [] => if (disk.findEntry (Text.bytes before)).isOk then [before] else []
  | before, p :: rest =>
      let after : Text := if rest.isEmpty then [] else ['/']
      if p.isWild then
        (fitting d disk before p).flatMap fun name => paths d disk (before ++ name ++ after) rest
      else paths d disk (before ++ p.map (·.1) ++ after) rest

/-- The arguments that a field stands for. -/
def arguments (d : Dialect) (disk : Disk) (field : Pattern) : List Text :=
  let text := field.map (·.1)
  if field.isWild then
    match paths d disk [] (patternParts field) with
    | [] => [text]
    | found => found
  else [text]

/-! ### Braces -/

/-- A character of a word that is not quoted, or another part of it. -/
inductive Atom
  | char (c : Char)
  | part (p : Part)

/-- The atoms of a word. -/
def atoms (w : Word) : List Atom := w.flatMap fun
  | .literal text false => text.map .char
  | p => [.part p]

/-- The word with some atoms. -/
def ofAtoms : List Atom → Word
  | [] => []
  | .part p :: rest => p :: ofAtoms rest
  | .char c :: rest =>
      match ofAtoms rest with
      | .literal text false :: w => .literal (c :: text) false :: w
      | w => .literal [c] false :: w

/-- The parts between commas up to the brace that closes, and what follows it; there may be no such
brace. -/
def alternatives? : (depth : Nat) → (part : List Atom) → List Atom →
    Option (List (List Atom) × List Atom)
  | _, _, [] => none
  | depth, part, a :: rest =>
      match a, depth with
      | .char '\x7d', 0 => some ([part.reverse], rest)
      | .char '\x7d', depth + 1 => alternatives? depth (a :: part) rest
      | .char ',', 0 => (alternatives? 0 [] rest).map fun (parts, rest) =>
          (part.reverse :: parts, rest)
      | .char '\x7b', depth => alternatives? (depth + 1) (a :: part) rest
      | _, depth => alternatives? depth (a :: part) rest

/-- The numbers or letters from one to another one. -/
def sequence? (text : Text) : Option (List Text) := do
  let (first, rest) ← Text.cutAt? "..".toList text
  let (last, step) := (Text.cutAt? "..".toList rest).getD (rest, ['1'])
  let step := (Text.integer? step).getD 1
  let range (a b : Int) : List Int :=
    let size := max 1 step.natAbs
    (List.range ((b - a).natAbs / size + 1)).map fun n =>
      if a ≤ b then a + (n * size : Nat) else a - (n * size : Nat)
  match Text.integer? first, Text.integer? last, first, last with
  | some a, some b, _, _ =>
      let isPadded (t : Text) : Bool := t.head? == some '0' && t.length > 1
      let width := if isPadded first ∨ isPadded last then max first.length last.length else 0
      some ((range a b).map fun n => Text.pad false '0' width (Text.signedDecimal n))
  | _, _, [a], [b] =>
      if a.isAlpha ∧ b.isAlpha then some ((range a.toNat b.toNat).map fun n => [Char.ofNat n.toNat])
      else none
  | _, _, _, _ => none

/-- The words that braces stand for. -/
def braceWords : (fuel : Nat) → List Atom → List (List Atom)
  | 0, w => [w]
  | _ + 1, [] => [[]]
  | fuel + 1, a :: rest =>
      let plain := (braceWords fuel rest).map (a :: ·)
      match a with
      | .char '\x7b' =>
          match alternatives? 0 [] rest with
          | none => plain
          | some ([part], after) =>
              let text := part.filterMap fun
                | .char c => some c
                | .part _ => none
              match if text.length = part.length then sequence? text else none with
              | some texts =>
                  let ends := braceWords fuel after
                  texts.flatMap fun t => ends.map fun w => t.map .char ++ w
              | none => plain
          | some (parts, after) =>
              let ends := braceWords fuel after
              (parts.flatMap (braceWords fuel)).flatMap fun w => ends.map (w ++ ·)
      | _ => plain

/-- The words that a word with braces stands for. -/
def unbraced (d : Dialect) (w : Word) : List Word :=
  let hasBrace := w.any fun
    | .literal text false => text.contains '\x7b'
    | _ => false
  if d = .rich ∧ hasBrace then
    let w := atoms w
    (braceWords (w.length + 1) w).map ofAtoms
  else [w]

/-! ### Home directories -/

/-- The home directory that a text after a tilde stands for. -/
def home? (s : State) (user : Text) : Option Text :=
  if user.isEmpty then s.variableValue? "HOME".toList
  else if user = "root".toList then some "/root".toList
  else none

/-- A text whose tilde is replaced, as a part of a word. -/
def tildeParts (s : State) (text : Text) : Word :=
  match text with
  | '~' :: rest =>
      let user := rest.takeWhile (· != '/')
      match home? s user with
      | some directory =>
          [.literal directory true, .literal (rest.drop user.length) false]
      | none => [.literal text false]
  | _ => [.literal text false]

/-- The word whose tildes are replaced: at its beginning, and in the value of an assignment after
colons too. -/
def untilded (assigned : Bool) (s : State) (w : Word) : Word :=
  match w with
  | .literal text false :: rest =>
      if ¬ text.contains '~' then w
      else if assigned then
        ([.literal [':'] false]).intercalate
          ((Text.splitAt (· == ':') text).map (tildeParts s)) ++ rest
      else if rest.isEmpty ∨ text.contains '/' then tildeParts s text ++ rest
      else w
  | _ => w

/-! ### Values -/

/-- The text without newlines at its end and without zero bytes. -/
def withoutEnd (text : Text) : Text :=
  ((text.filter (· != Char.ofNat 0)).reverse.dropWhile (· == '\n')).reverse

/-- The number of characters from a position that may be counted from the end. -/
def fromPosition (size : Nat) (n : Int) : Nat :=
  if n < 0 then (max 0 ((size : Int) + n)).toNat else min size n.toNat

/-- A letter as a capital one or a small one. -/
def recased (upper : Bool) (c : Char) : Char := if upper then c.toUpper else c.toLower

/-- A text whose letters are capital or small ones, all of them or the first one. -/
def recasedText (upper every : Bool) (text : Text) : Text :=
  if every then text.map (recased upper)
  else match text with
    | c :: rest => recased upper c :: rest
    | [] => []

namespace Act

/-- The value of an expression, whose assignments become values of variables. -/
def calculate (text : Text) : Act Int := do
  let s ← get
  let text := if s.dialect = .rich then text.filter (· != '"') else text
  match Arithmetic.evaluate s.dialect s.value? text with
  | .error complaint =>
      if complaint.startsWith "Illegal" then fail complaint.toList
      else fail ("arithmetic expression: ".toList ++ complaint.toList ++ ": \"".toList ++ text ++
        ['"'])
  | .ok (n, assigned) => do
      for (name, value) in assigned.reverse do
        assign name (Text.signedDecimal value)
      return n

/-- How the output of a command is collected. -/
abbrev Capture := Command → Act Text

/-- The values of all elements of a list, if a word asks for them, and whether they are put
together to one text. -/
def listed? (s : State) (name : Text) (index : Option Text) : Option (List Text × Bool) :=
  let items : List Text := match s.lookUp? name with
    | some { items := some items, .. } => items.map (·.2)
    | some { value := some value, .. } => [value]
    | _ => []
  match name, index with
  | ['@'], none => some (s.parameters, false)
  | ['*'], none => some (s.parameters, true)
  | _, some ['@'] => some (items, false)
  | _, some ['*'] => some (items, true)
  | _, _ => none

/-- The pieces of a list of values. -/
def listPieces (s : State) (values : List Text) (joined quoted : Bool) : List Piece :=
  if quoted ∧ joined then [.text (s.glue.intercalate values) true false]
  else ([Piece.fence]).intercalate (values.map fun v => [Piece.text v quoted (!quoted)])

/-- A parameter has no value, although it should. -/
def missing {α : Type} (name : Text) : Act α := do
  if (← get).dialect = .rich then do
    blame (name ++ ": unbound variable".toList)
    done 1
    throw .exit
  else fail (name ++ ": parameter not set".toList)

/-- Assign a value to an element of a list. -/
def assignItem (name key value : Text) : Act Unit := change name fun v =>
  let items := v.items.getD (match v.value with
    | some value => [(['0'], value)]
    | none => [])
  { v with items := some (place_ key value items), value := none }

mutual

/-- The pieces of a word.  In the argument of an operator, which can be split, literals can be
split too.  The fuel bounds how deep arguments of operators are nested. -/
def pieces (capture : Capture) : (fuel : Nat) → (splits : Bool) → Word → Act (List Piece)
  | 0, _, _ => fail "word too deep".toList
  | fuel + 1, splits, w => do
      let found ← w.mapM fun part =>
        match part with
        | .literal text quoted => pure [Piece.text text quoted (splits && !quoted)]
        | .command body quoted => do
            let text ← capture body
            pure [Piece.text (withoutEnd text) quoted (!quoted)]
        | .arithmetic e quoted => do
            let text := textOf (← pieces capture fuel false e)
            let n ← calculate text
            pure [Piece.text (Text.signedDecimal n) quoted (!quoted)]
        | .feed body => do
            let before := (← get).substituted
            let text ← capture body
            let s ← get
            let (id, job) := s.job.add { channel := .pipe, writes := false, waiting := text }
            let n := job.descriptors.foldl (fun n d => max n (d.1 + 1)) 63
            modify fun s => { s with job := job.attach n id, substituted := before }
            pure [Piece.text ("/dev/fd/".toList ++ Text.decimal n) true false]
        | .parameter name index change quoted => parameter capture fuel name index change quoted
      return found.flatten

/-- The number or name of an element of a list. -/
def indexText (capture : Capture) : (fuel : Nat) → (name : Text) → Option Word →
    Act (Option Text)
  | 0, _, _ => fail "word too deep".toList
  | _ + 1, _, none => return none
  | fuel + 1, name, some w => do
      let text := textOf (← pieces capture fuel false w)
      let v := ((← get).lookUp? name).getD {}
      if text = ['@'] ∨ text = ['*'] ∨ v.named then return some text
      else do
        let n ← calculate text
        /- A negative number counts from the end. -/
        let size := (v.items.getD []).foldl (fun n entry =>
          max n ((Text.number? entry.1).getD 0 + 1)) 0
        return some (Text.signedDecimal (if n < 0 then size + n else n))

/-- The pieces of a parameter. -/
def parameter (capture : Capture) : (fuel : Nat) → (name : Text) → (index : Option Word) →
    Change Word → (quoted : Bool) → Act (List Piece)
  | 0, _, _, _, _ => fail "word too deep".toList
  | fuel + 1, name, index, change, quoted => do
      let index ← indexText capture fuel name index
      let s ← get
      let list := listed? s name index
      let value : Option Text := match index with
        | none => s.value? name
        | some i =>
            match s.lookUp? name with
            | some { items := some items, .. } => items.lookup i
            | some { value, .. } => if i = ['0'] then value else none
            | none => none
      let one (text : Text) : List Piece := [.text text quoted (!quoted)]
      let each (f : Text → Text) : List Piece :=
        match list with
        | some (values, joined) => listPieces s (values.map f) joined quoted
        | none => one (f (value.getD []))
      let known : Act Unit := do
        if value.isNone ∧ list.isNone ∧ s.has 'u' then missing name
      match change with
      | .plain => do
          known
          return each id
      | .broken =>
          if s.dialect = .rich then do
            blame ("$\x7b".toList ++ name ++ "\x7d: bad substitution".toList)
            done 1
            throw .error
          else fail "Bad substitution".toList
      | .length => do
          known
          match s.dialect, list with
          | .rich, some (values, _) => return one (Text.decimal values.length)
          | _, _ => return one (Text.decimal (value.getD []).length)
      | .test sign orEmpty word => do
          let isSet : Bool := match list with
            | some (values, _) =>
                !values.isEmpty && !(orEmpty && values.all (·.isEmpty))
            | none => value.any fun v => !(orEmpty && v.isEmpty)
          let argument : Act (List Piece) := do
            let ps ← pieces capture fuel (!quoted) word
            return if ps.isEmpty then one [] else ps
          match sign with
          | '+' => if isSet then argument else return one []
          | '-' => if isSet then return each id else argument
          | '=' =>
              if isSet then return each id
              else if ¬ isName name then fail (name ++ ": bad variable name".toList)
              else do
                let text := textOf (← pieces capture fuel false word)
                assign name text
                return one text
          | _ =>
              if isSet then return each id
              else do
                let text := textOf (← pieces capture fuel false word)
                let text := if ¬ text.isEmpty then text
                  else if orEmpty then "parameter not set or null".toList
                  else "parameter not set".toList
                if s.dialect = .rich then do
                  blame (name ++ ": ".toList ++ text)
                  done 1
                  throw .exit
                else fail (name ++ ": ".toList ++ text)
      | .trim atStart longest pattern => do
          known
          let p := patternOf (← pieces capture fuel false pattern)
          return each (Shell.trim s.dialect atStart longest p)
      | .part offset length => do
          known
          let from_ ← calculate (textOf (← pieces capture fuel false offset))
          let count ← match length with
            | some w => do
                let n ← calculate (textOf (← pieces capture fuel false w))
                pure (some n)
            | none => pure none
          let cut {α : Type} (items : List α) : List α :=
            let start := fromPosition items.length from_
            let rest := items.drop start
            match count with
            | none => rest
            | some n =>
                if n < 0 then rest.take (((rest.length : Int) + n).toNat) else rest.take n.toNat
          match list with
          | some (values, joined) =>
              let values := if name = ['@'] ∨ name = ['*'] then s.name :: values else values
              return listPieces s (cut values) joined quoted
          | none => return one (cut (value.getD []))
      | .substitute extent pattern word => do
          known
          let p := patternOf (← pieces capture fuel false pattern)
          let text := textOf (← pieces capture fuel false word)
          return each (Shell.substitute s.dialect extent p text)
      | .capitals upper every => do
          known
          return each (recasedText upper every)
      | .escaped => return each fun text =>
          if text.all fun c => c != '\'' then '\'' :: text ++ ['\'']
          else Programs.Format.shellQuoted text
      | .indirect => return one ((s.value? (value.getD [])).getD [])
      | .indices =>
          let keys : List Text := match s.lookUp? name with
            | some { items := some items, .. } => items.map (·.1)
            | some { value := some _, .. } => [['0']]
            | _ => []
          return listPieces s keys false quoted

end

/-! ### Words -/

/-- How deep arguments of operators can be nested. -/
def depth : Nat := 10000

/-- A word as one text. -/
def expandText (capture : Capture) (w : Word) : Act Text := do
  return textOf (← pieces capture depth false (untilded false (← get) w))

/-- The value of an assignment. -/
def expandAssigned (capture : Capture) (w : Word) : Act Text := do
  return textOf (← pieces capture depth false (untilded true (← get) w))

/-- A word as a pattern. -/
def expandPattern (capture : Capture) (w : Word) : Act Pattern := do
  return patternOf (← pieces capture depth false (untilded false (← get) w))

/-- A word as arguments of a command. -/
def expandWord (capture : Capture) (w : Word) : Act (List Text) := do
  let ps ← pieces capture depth false (untilded false (← get) w)
  let s ← get
  let found := fields s.separators ps
  if s.has 'f' then return found.map fun field => field.map (·.1)
  else return found.flatMap (arguments s.dialect s.job.disk)

/-- Words as arguments of a command. -/
def expandFields (capture : Capture) (ws : List Word) : Act (List Text) := do
  let ws := ws.flatMap (unbraced (← get).dialect)
  let found ← ws.mapM (expandWord capture)
  return found.flatten

/-- The words of a command that declares variables: those that assign a value are not split. -/
def expandDeclared (capture : Capture) (ws : List Word) : Act (List Text) := do
  let found ← ws.mapM fun w => do
    let text : Text := match w with
      | .literal text false :: _ => text
      | _ => []
    let name := text.takeWhile isNameChar
    if isName name ∧ (text.drop name.length).head? = some '=' then do
      let value := match w with
        | .literal text false :: rest => Part.literal (text.drop (name.length + 1)) false :: rest
        | w => w
      return [name ++ '=' :: (← expandAssigned capture value)]
    else expandWord capture w
  return found.flatten

end Act

end LtoBridge.Shell
