/-
**Characters one by one.**

Main definitions:

* `LtoBridge.Programs.tr`: put characters in place of others, or drop them;
* `LtoBridge.Programs.od`: show the numbers of characters.
-/

import LtoBridge.Programs.Extract
import LtoBridge.Text.Regex

set_option autoImplicit false

namespace LtoBridge.Programs

/-! ### Sets -/

/-- The character that a backslash before a text stands for, and what follows it. -/
def escapedChar (text : Text) : Char × Text :=
  match text with
  | [] => ('\\', [])
  | c :: rest =>
      match c with
      | 'a' => ('\x07', rest)
      | 'b' => ('\x08', rest)
      | 'f' => ('\x0c', rest)
      | 'n' => ('\n', rest)
      | 'r' => ('\r', rest)
      | 't' => ('\t', rest)
      | 'v' => ('\x0b', rest)
      | c =>
          if '0' ≤ c ∧ c ≤ '7' then
            let digits := (text.take 3).takeWhile fun d => '0' ≤ d && d ≤ '7'
            (Char.ofNat (Text.ofDigits 8 digits % 256), text.drop digits.length)
          else (c, rest)

/-- The characters from one to another one. -/
def charRange (a b : Char) : Text :=
  (List.range (b.toNat + 1 - a.toNat)).map fun n => Char.ofNat (a.toNat + n)

/-- The part of a set at the beginning of a text: its characters, whether the last one of them is
repeated as often as need be, and what follows. -/
def setPart? (text : Text) : Option (Text × Bool × Text) :=
  match text with
  | [] => none
  | '[' :: ':' :: rest =>
      match Text.cutAt? ":]".toList rest with
      | some (name, rest) => do
          let ranges ← LtoBridge.Text.CharSet.named? (String.ofList name)
          some (ranges.flatMap fun r => charRange r.1 r.2, false, rest)
      | none => some (['['], false, ':' :: rest)
  | '[' :: '=' :: c :: '=' :: ']' :: rest => some ([c], false, rest)
  | '[' :: c :: '*' :: rest =>
      let digits := rest.takeWhile Char.isDigit
      match rest.drop digits.length with
      | ']' :: rest =>
          let count := Text.ofDigits (if digits.head? = some '0' then 8 else 10) digits
          if count = 0 then some ([c], true, rest) else some (List.replicate count c, false, rest)
      | _ => some (['['], false, c :: '*' :: rest)
  | c :: rest =>
      let (low, rest) := if c = '\\' then escapedChar rest else (c, rest)
      match rest with
      | '-' :: d :: after =>
          let (high, after) := if d = '\\' then escapedChar after else (d, after)
          if low ≤ high then some (charRange low high, false, after) else none
      | _ => some ([low], false, rest)

/-- The characters of a set, each part with whether it is repeated as often as need be. -/
def setParts? : (fuel : Nat) → Text → Option (List (Text × Bool))
  | 0, _ => none
  | _ + 1, [] => some []
  | fuel + 1, text => do
      let (chars, repeats, rest) ← setPart? text
      let others ← setParts? fuel rest
      some ((chars, repeats) :: others)

/-- The characters of a set that has to have a number of them. -/
def setOf? (size : Nat) (text : Text) : Option Text := do
  let parts ← setParts? (text.length + 1) text
  let fixed := ((parts.filter (!·.2)).map (·.1.length)).foldl (· + ·) 0
  some (parts.flatMap fun (chars, repeats) =>
    if repeats then List.replicate (size - fixed) (chars.headD ' ') else chars)

/-! ### Replacement -/

/-- Characters without those of a set that are like the one before them. -/
def squeezed (set : Text) : Text → Text
  | a :: b :: rest =>
      if a = b ∧ set.contains a then squeezed set (b :: rest) else a :: squeezed set (b :: rest)
  | rest => rest

/-- Put characters in place of others, or drop them. -/
def tr : Tool := fun arguments j =>
  let grammar : Grammar :=
    { letters := "cCdst", mixed := false
      words := [("complement", 'c'), ("delete", 'd'), ("squeeze-repeats", 's'),
        ("truncate-set1", 't')] }
  match grammar.read arguments with
  | none => misused "tr" 1 j
  | some r =>
      let complements := r.has 'c' || r.has 'C'
      let all : Text := charRange '\x00' (Char.ofNat 255)
      let given := r.operands.length
      let fits := if r.has 'd' then if r.has 's' then given == 2 else given == 1
        else if r.has 's' then given == 1 || given == 2
        else given == 2
      let sets : Option (Text × Text) := do
        let a ← r.operands[0]?
        let first ← setOf? 0 a
        let first := if complements then all.filter (!first.contains ·) else first
        let second ← match r.operands[1]? with
          | some b => setOf? first.length b
          | none => some []
        some (first, second)
      match if fits then sets else none with
      | none => misused "tr" 1 j
      | some (first, second) =>
          match j.readAll 0 with
          | (.error e, j) => (1, j.blame "tr" "read error".toList e)
          | (.ok text, j) =>
              if r.has 'd' then
                let text := text.filter (!first.contains ·)
                (0, j.print (if r.has 's' then squeezed second text else text))
              else if given = 1 then (0, j.print (squeezed first text))
              else if second.isEmpty then
                (1, j.complain "tr: when not truncating set1, string2 must be non-empty".toList)
              else
                let first := if r.has 't' then first.take second.length else first
                let fill := List.replicate (first.length - second.length)
                  (second.getLast?.getD ' ')
                /- Of several places of a character, the last one counts. -/
                let pairs := (first.zip (second ++ fill)).reverse
                let table : Array Char := (all.map fun c => (pairs.lookup c).getD c).toArray
                let text := text.map fun c => (table[c.toNat]?).getD c
                (0, j.print (if r.has 's' then squeezed second text else text))

/-! ### Numbers of characters -/

/-- How numbers are shown: the sign of the kind and the number of bytes of each. -/
structure DumpKind where
  kind : Char
  size : Nat

namespace DumpKind

/-- The width of a shown number without the blank before it. -/
def width (d : DumpKind) : Nat :=
  match d.kind, d.size with
  | 'x', size => 2 * size
  | 'o', 1 => 3
  | 'o', 2 => 6
  | 'o', 4 => 11
  | 'o', _ => 22
  | 'u', 1 => 3
  | 'u', 2 => 5
  | 'u', 4 => 10
  | 'u', _ => 20
  | 'd', 1 => 4
  | 'd', 2 => 6
  | 'd', 4 => 11
  | 'd', _ => 20
  | _, _ => 3

/-- The sizes of numbers by letter. -/
def sizeOf? (text : Text) : Option (Nat × Text) :=
  match text with
  | 'C' :: rest => some (1, rest)
  | 'S' :: rest => some (2, rest)
  | 'I' :: rest => some (4, rest)
  | 'L' :: rest => some (8, rest)
  | text =>
      let digits := text.takeWhile Char.isDigit
      if digits.isEmpty then some (4, text)
      else
        let n := Text.ofDigits 10 digits
        if [1, 2, 4, 8].contains n then some (n, text.drop digits.length) else none

/-- Read kinds. -/
def read? : (fuel : Nat) → Text → Option (List DumpKind)
  | 0, _ => none
  | _ + 1, [] => some []
  | fuel + 1, c :: rest =>
      let rest' := rest.dropWhile (· == 'z')
      if c = 'c' ∨ c = 'a' then (read? fuel rest').map ({ kind := c, size := 1 } :: ·)
      else if "douxf".toList.contains c then do
        let (size, rest) ← sizeOf? rest
        let others ← read? fuel (rest.dropWhile (· == 'z'))
        some ({ kind := c, size } :: others)
      else none

/-- The names of characters that cannot be seen, in their order. -/
def controlNames : List String :=
  ["nul", "soh", "stx", "etx", "eot", "enq", "ack", "bel", "bs", "ht", "nl", "vt", "ff", "cr",
    "so", "si", "dle", "dc1", "dc2", "dc3", "dc4", "nak", "syn", "etb", "can", "em", "sub", "esc",
    "fs", "gs", "rs", "us", "sp"]

/-- A number in a form that has all of its digits. -/
def digitsOf (base size : Nat) (n : Nat) : Text := Text.pad false '0' size (Nat.toDigits base n)

/-- Some bytes, the first one of which counts least, as the kind shows them. -/
def shown (d : DumpKind) (bytes : Text) : Text :=
  let n := bytes.foldr (fun c n => 256 * n + c.toNat) 0
  let c := bytes.headD '\x00'
  match d.kind with
  | 'x' => digitsOf 16 (2 * d.size) n
  | 'o' => digitsOf 8 d.width n
  | 'u' => Text.decimal n
  | 'd' =>
      let limit := Nat.pow 256 d.size
      Text.signedDecimal (if 2 * n ≥ limit then (n : Int) - limit else n)
  | 'a' =>
      let code := c.toNat % 128
      if code = 127 then "del".toList
      else match controlNames[code]? with
        | some name => name.toList
        | none => [Char.ofNat code]
  | _ =>
      match c with
      | '\x00' => "\\0".toList
      | '\x07' => "\\a".toList
      | '\x08' => "\\b".toList
      | '\x0c' => "\\f".toList
      | '\n' => "\\n".toList
      | '\r' => "\\r".toList
      | '\t' => "\\t".toList
      | '\x0b' => "\\v".toList
      | c => if Text.isPrintable c then [c] else digitsOf 8 3 c.toNat

end DumpKind

/-- Groups of a number of characters.  Each has at least one, so the length is enough fuel. -/
def chunks (size : Nat) : (fuel : Nat) → Text → List Text
  | 0, _ => []
  | _ + 1, [] => []
  | fuel + 1, text => text.take size :: chunks size fuel (text.drop size)

/-- The lines for sixteen bytes, one for each kind. -/
def dumpBlock (kinds : List DumpKind) (address : Text) (block : Text) : Text :=
  let widest := (kinds.map fun k => (k.width + 1) * (8 / k.size)).foldl max 0
  (kinds.zipIdx 0).flatMap fun (k, n) =>
    let cell := widest / (8 / k.size)
    let start := if n = 0 then address else List.replicate address.length ' '
    let cells := (chunks k.size (block.length + 1) block).flatMap fun part =>
      let part := part ++ List.replicate (k.size - part.length) '\x00'
      Text.pad false ' ' cell (k.shown part)
    start ++ cells ++ ['\n']

/-- The lines for all bytes from an address on.  Blocks like the one before are left out if `brief`
holds. -/
def dumpBlocks (kinds : List DumpKind) (width : Nat) (address : Nat → Text) (brief : Bool) :
    (position : Nat) → (last : Option Text) → (inGap : Bool) → List Text → Text
  | position, _, _, [] => let end_ := address position; if end_.isEmpty then [] else end_ ++ ['\n']
  | position, last, inGap, block :: rest =>
      let next := position + block.length
      if brief ∧ last = some block ∧ block.length = width then
        (if inGap then [] else ['*', '\n']) ++
          dumpBlocks kinds width address brief next last true rest
      else dumpBlock kinds (address position) block ++
        dumpBlocks kinds width address brief next (some block) false rest

/-- Show the numbers of characters. -/
def od : Tool := fun arguments j =>
  let grammar : Grammar :=
    { letters := "A:abcdDeFfhHiIj:lLN:oOsS:t:vw?xX"
      words := [("address-radix", 'A'), ("format", 't'), ("skip-bytes", 'j'),
        ("read-bytes", 'N'), ("output-duplicates", 'v'), ("width", 'w')] }
  match grammar.read arguments with
  | none => misused "od" 1 j
  | some r =>
      let kinds := r.options.mapM fun (letter, value) =>
        match letter with
        | 't' => DumpKind.read? (value.length + 1) value
        | 'a' => some [{ kind := 'a', size := 1 : DumpKind }]
        | 'b' => some [{ kind := 'o', size := 1 }]
        | 'c' => some [{ kind := 'c', size := 1 }]
        | 'd' => some [{ kind := 'u', size := 2 }]
        | 'i' => some [{ kind := 'd', size := 4 }]
        | 'l' => some [{ kind := 'd', size := 8 }]
        | 'o' => some [{ kind := 'o', size := 2 }]
        | 's' => some [{ kind := 'd', size := 2 }]
        | 'x' => some [{ kind := 'x', size := 2 }]
        | _ => some []
      match kinds with
      | none => (1, j.complain "od: invalid type string".toList)
      | some kinds =>
          let kinds := kinds.flatten
          let kinds := if kinds.isEmpty then [{ kind := 'o', size := 2 }] else kinds
          let isReadable (name : Text) : Bool := (j.fileText name).1.toOption.isSome
          let isIdle := !r.operands.isEmpty && !r.operands.any isReadable
          let (text, status, j) := allInputs "od" r.operands j
          let skipped := ((r.value? 'j').bind quantity?).getD 0
          let text := text.drop skipped
          let text := match (r.value? 'N').bind quantity? with
            | some n => text.take n
            | none => text
          let address : Nat → Text := match r.value? 'A' with
            | some ['n'] => fun _ => []
            | some ['d'] => fun n => Text.pad false '0' 7 (Text.decimal n)
            | some ['x'] => fun n => DumpKind.digitsOf 16 6 n
            | _ => fun n => DumpKind.digitsOf 8 7 n
          let width := match r.value? 'w' with
            | some digits => (Text.number? digits).getD 32
            | none => 16
          let blocks := chunks width (text.length + 1) text
          /- Nothing is shown if no file could be read. -/
          if isIdle then (status, j)
          else
            let shown := dumpBlocks kinds width address (!r.has 'v') skipped none false blocks
            (status, j.print shown)

end LtoBridge.Programs
