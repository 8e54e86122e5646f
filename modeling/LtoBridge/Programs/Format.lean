/-
**Formatted output.**

A format consists of characters and conversions.  A conversion takes an argument and pads it to a
width.  The format is used again as long as there are arguments.

Main definitions:

* `LtoBridge.Programs.Escapes`: what backslashes stand for;
* `LtoBridge.Programs.Format.pieces`: the parts of a format;
* `LtoBridge.Programs.Format.print`: a format with its arguments.
-/

import LtoBridge.Programs.Decimal
import LtoBridge.Text.Utf8

set_option autoImplicit false

namespace LtoBridge.Programs

/-! ### Escapes -/

/-- Which escapes there are beyond the common ones. -/
structure Escapes where
  /-- Are there numbers to the base sixteen? -/
  hexadecimal : Bool := false
  /-- Does an octal number need a zero before it? -/
  zeroFirst : Bool := false

namespace Escapes

/-- The character that a backslash with the given one stands for. -/
def control? : Char → Option Char
  | 'a' => some '\x07'
  | 'b' => some '\x08'
  | 'e' => some '\x1b'
  | 'f' => some '\x0c'
  | 'n' => some '\n'
  | 'r' => some '\r'
  | 't' => some '\t'
  | 'v' => some '\x0b'
  | '\\' => some '\\'
  | _ => none

/-- Is the character a digit of an octal number? -/
def isOctal (c : Char) : Bool := '0' ≤ c && c ≤ '7'

/-- The character with the number that up to `most` octal digits give, and what follows them. -/
def octal (most : Nat) (text : Text) : Char × Text :=
  let digits := (text.take most).takeWhile isOctal
  (Char.ofNat (Text.ofDigits 8 digits % 256), text.drop digits.length)

/-- The text of a character given by up to `most` hexadecimal digits, and what follows them.  With
two digits the number is that of a byte, otherwise that of a character in UTF-8. -/
def hex? (most : Nat) (text : Text) : Option (Text × Text) :=
  let digits := (text.take most).takeWhile fun c => Text.digitValue c < 16
  let n := Text.ofDigits 16 digits
  if digits.isEmpty then none
  else if most ≤ 2 then some ([Char.ofNat n], text.drop digits.length)
  else some (Text.ofBytes (Bytes.ofString (Char.ofNat n).toString), text.drop digits.length)

/-- What a backslash before a text stands for, and what follows it. -/
def after? (e : Escapes) (text : Text) : Option (Text × Text) :=
  match text with
  | 'x' :: rest => if e.hexadecimal then hex? 2 rest else none
  | 'u' :: rest => if e.hexadecimal then hex? 4 rest else none
  | 'U' :: rest => if e.hexadecimal then hex? 8 rest else none
  | c :: rest =>
      if isOctal c ∧ ¬ e.zeroFirst then
        let (d, rest) := octal 3 text
        some ([d], rest)
      else (control? c).map fun d => ([d], rest)
  | [] => none

/-- The text that a text with backslashes stands for, and whether it is the end of all output.  An
octal number can have a zero before it. -/
def unescapeFrom (e : Escapes) : (fuel : Nat) → (found : Text) → Text → Text × Bool
  | 0, found, _ => (found.reverse, false)
  | fuel + 1, found, text =>
      match text with
      | [] => (found.reverse, false)
      | '\\' :: 'c' :: _ => (found.reverse, true)
      | '\\' :: '0' :: rest =>
          let (c, rest) := octal 3 rest
          e.unescapeFrom fuel (c :: found) rest
      | '\\' :: rest =>
          match e.after? rest with
          | some (text, rest) => e.unescapeFrom fuel (text.reverse ++ found) rest
          | none => e.unescapeFrom fuel ('\\' :: found) rest
      | c :: rest => e.unescapeFrom fuel (c :: found) rest

/-- The text that a text with backslashes stands for, and whether it is the end of all output. -/
def unescape (e : Escapes) (text : Text) : Text × Bool := e.unescapeFrom (text.length + 1) [] text

end Escapes

/-- Arguments on one line, with escapes or without; the line ends unless that is not wanted. -/
def lineOf (escapes : Option Escapes) (ends : Bool) (arguments : List Text) : Text :=
  let text := Text.spaced arguments
  match escapes with
  | none => if ends then text ++ ['\n'] else text
  | some e =>
      match e.unescape text with
      | (text, true) => text
      | (text, false) => if ends then text ++ ['\n'] else text

namespace Format

/-! ### Formats -/

/-- A part of a format. -/
inductive Piece
  | literal (c : Char)
  | conversion (flags : Text) (width : Option Text) (precision : Option Text) (kind : Char)
  /-- Nothing more is printed. -/
  | stop
  /-- The format ends within a conversion. -/
  | unfinished
  deriving DecidableEq

/-- How a format is read. -/
structure Dialect where
  escapes : Escapes
  /-- Can an escape end the output? -/
  stops : Bool := false
  /-- Can a conversion name the size of its argument, which does not matter? -/
  sizes : Bool := true
  /-- Are numbers with a fraction rounded before they are written? -/
  rounds : Bool := true
  /-- The status after a format that makes no sense. -/
  failure : Nat := 1

/-- A number in a format, or the sign that an argument gives it. -/
def numberAt (text : Text) : Text × Text :=
  match text with
  | '*' :: rest => (['*'], rest)
  | _ => (text.takeWhile Char.isDigit, text.dropWhile Char.isDigit)

/-- The conversion after a percent sign, and what follows it. -/
def conversionAt? (d : Dialect) (text : Text) : Option (Piece × Text) :=
  let isFlag (c : Char) : Bool := "-+ 0#".toList.contains c
  let flags := text.takeWhile isFlag
  let (width, text) := numberAt (text.dropWhile isFlag)
  let (precision, text) := match text with
    | '.' :: rest => let (digits, rest) := numberAt rest; (some digits, rest)
    | _ => (none, text)
  match text.dropWhile fun c => d.sizes && "hlLjzt".toList.contains c with
  | [] => none
  | kind :: rest =>
      some (.conversion flags (if width = [] then none else some width) precision kind, rest)

/-- The parts of a format.  Each takes at least one character, so the length of the text is enough
fuel. -/
def piecesFrom (d : Dialect) : (fuel : Nat) → Text → List Piece
  | 0, _ => []
  | fuel + 1, text =>
      match text with
      | [] => []
      | '%' :: '%' :: rest => .literal '%' :: piecesFrom d fuel rest
      | '%' :: rest =>
          match conversionAt? d rest with
          | some (piece, rest) => piece :: piecesFrom d fuel rest
          | none => [.unfinished]
      | '\\' :: rest =>
          if d.stops ∧ rest.head? = some 'c' then [.stop]
          else match d.escapes.after? rest with
            | some (text, rest) => text.map .literal ++ piecesFrom d fuel rest
            | none =>
                match d.stops, rest with
                | true, '"' :: rest => .literal '"' :: piecesFrom d fuel rest
                | _, _ => .literal '\\' :: piecesFrom d fuel rest
      | c :: rest => .literal c :: piecesFrom d fuel rest

/-- The parts of a format. -/
def pieces (d : Dialect) (text : Text) : List Piece := piecesFrom d (text.length + 1) text

/-! ### Integers -/

/-- The digits of a number at the beginning of a text, whose base can be seen from them. -/
def unsigned (text : Text) : Nat × Text :=
  let withBase (base : Nat) (text : Text) : Nat × Text :=
    let digits := text.takeWhile fun c => Text.digitValue c < base
    (Text.ofDigits base digits, text.drop digits.length)
  match text with
  | '0' :: x :: d :: rest =>
      if (x = 'x' ∨ x = 'X') ∧ Text.digitValue d < 16 then withBase 16 (d :: rest)
      else withBase 8 text
  | '0' :: _ => withBase 8 text
  | _ => withBase 10 text

/-- The least and the greatest signed number of 64 bits. -/
def signedLimits : Int × Int := (-0x8000000000000000, 0x7FFFFFFFFFFFFFFF)

/-- The greatest number of 64 bits. -/
def unsignedLimit : Int := 0xFFFFFFFFFFFFFFFF

/-- The number that an argument stands for, as far as it is one, and whether all of it is.  A quote
stands for the number of the character after it. -/
def integerOf (isSigned : Bool) (argument : Text) : Int × Bool :=
  match argument with
  | '\'' :: rest | '"' :: rest => ((rest.head?.map fun c => (c.toNat : Int)).getD 0, true)
  | [] => (0, true)
  | _ =>
      let text := argument.dropWhile Text.isSpace
      let (negative, text) := match text with
        | '-' :: rest => (true, rest)
        | '+' :: rest => (false, rest)
        | _ => (false, text)
      let (n, rest) := unsigned text
      let value : Int := if negative then -(n : Int) else n
      let isWhole := text.head?.any Char.isDigit && rest.isEmpty
      if isSigned then
        let clamped := max signedLimits.1 (min signedLimits.2 value)
        (clamped, isWhole && clamped == value)
      else if (n : Int) > unsignedLimit then (unsignedLimit, false)
      else (value, isWhole)

/-- The sign of a number and its digits. -/
def signed (flags : Text) (kind : Char) (n : Int) : Text × Text :=
  let bits := (BitVec.ofInt 64 n).toNat
  if kind = 'd' ∨ kind = 'i' then
    let sign :=
      if n < 0 then ['-'] else if flags.contains '+' then ['+']
      else if flags.contains ' ' then [' '] else []
    (sign, Text.decimal n.natAbs)
  else if kind = 'u' then ([], Text.decimal bits)
  else if kind = 'o' then
    ([], (if flags.contains '#' ∧ n ≠ 0 then ['0'] else []) ++ Nat.toDigits 8 bits)
  else
    let digits := Nat.toDigits 16 bits
    let mark := if flags.contains '#' ∧ n ≠ 0 then ['0', kind] else []
    (mark, if kind = 'X' then digits.map Char.toUpper else digits)

/-- A sign and digits, filled up to a width: with zeros between them or with blanks. -/
def filled (flags : Text) (zeros : Bool) (width : Nat) (sign digits : Text) : Text :=
  let left := flags.contains '-'
  if zeros ∧ ¬ left then sign ++ Text.pad false '0' (width - sign.length) digits
  else Text.pad left ' ' width (sign ++ digits)

/-- An integer as a conversion writes it. -/
def integer (flags : Text) (width : Nat) (precision : Option Nat) (kind : Char) (n : Int) : Text :=
  let (sign, digits) := signed flags kind n
  let digits := match precision with
    | some p => if p = 0 ∧ n = 0 then [] else Text.pad false '0' p digits
    | none => digits
  filled flags (flags.contains '0' && precision.isNone) width sign digits

/-! ### Numbers with a fraction -/

/-- A number, or what stands for one that is too large or none at all. -/
inductive Quantity
  | finite (x : Fraction)
  | infinite (negative : Bool)
  | notANumber
  deriving DecidableEq

/-- The number that an argument stands for, as far as it is one, and whether all of it is. -/
def realOf (argument : Text) : Quantity × Bool :=
  match argument with
  | [] => (.finite { top := 0 }, true)
  | '\'' :: rest | '"' :: rest => (.finite { top := (rest.head?.map Char.toNat).getD 0 }, true)
  | _ =>
      match Fraction.read? argument with
      | some (x, rest) => (.finite x, rest.isEmpty)
      | none =>
          let text := argument.dropWhile Text.isSpace
          let name :=
            String.ofList ((text.dropWhile fun c => c == '-' || c == '+').map Char.toLower)
          if name = "inf" ∨ name = "infinity" then (.infinite (text.head? == some '-'), true)
          else if name = "nan" then (.notANumber, true)
          else (.finite { top := 0 }, false)

/-- A number with a fraction as a conversion writes it. -/
def real (flags : Text) (width : Nat) (precision : Option Nat) (kind : Char) (x : Quantity) :
    Text :=
  let shift (text : Text) : Text := if kind.isUpper then text.map Char.toUpper else text
  let sign (negative : Bool) : Text :=
    if negative then ['-'] else if flags.contains '+' then ['+']
    else if flags.contains ' ' then [' '] else []
  match x with
  | .infinite negative => filled flags false width (sign negative) (shift "inf".toList)
  | .notANumber => filled flags false width (sign false) (shift "nan".toList)
  | .finite x =>
      let digits :=
        if kind = 'f' ∨ kind = 'F' then x.fixed (precision.getD 6)
        else if kind = 'e' ∨ kind = 'E' then x.scientific kind (precision.getD 6)
        else x.general (if kind = 'G' then 'E' else 'e') (precision.getD 6) (flags.contains '#')
      filled flags (flags.contains '0') width (sign x.negative) digits

/-! ### Printing -/

/-- What has been printed so far, the last piece first. -/
structure Progress where
  printed : List Text := []
  arguments : List Text
  status : Nat := 0
  /-- Does nothing follow? -/
  stopped : Bool := false

/-- The next argument. -/
def Progress.next (p : Progress) : Text × Progress :=
  match p.arguments with
  | [] => ([], p)
  | a :: rest => (a, { p with arguments := rest })

/-- The progress with more text. -/
def Progress.put (p : Progress) (text : Text) : Progress := { p with printed := text :: p.printed }

/-- The progress in which an argument was not what its conversion needs. -/
def Progress.check (p : Progress) (good : Bool) : Progress :=
  if good then p else { p with status := 1 }

/-- The number in a format, which may be an argument. -/
def Progress.size (p : Progress) : Option Text → Option Int × Progress
  | none => (none, p)
  | some ['*'] => let (a, p) := p.next; (some (integerOf true a).1, p)
  | some text => (some (Text.ofDigits 10 text), p)

/-- Characters that need no quotes in a command. -/
def isPlain (c : Char) : Bool := c.isAlphanum || "_-./:@%+=,".toList.contains c

/-- A text that a shell reads as the given one. -/
def shellQuoted (text : Text) : Text :=
  if text.isEmpty then ['\'', '\'']
  else if text.all isPlain then text
  else text.flatMap fun c => if isPlain c then [c] else ['\\', c]

/-- Print a part of a format. -/
def step (d : Dialect) (p : Progress) (piece : Piece) : Progress :=
  if p.stopped then p
  else match piece with
    | .literal c => p.put [c]
    | .stop => { p with stopped := true }
    | .unfinished => { p with status := d.failure, stopped := true }
    | .conversion flags width precision kind =>
        let (width, p) := p.size width
        let (precision, p) := p.size precision
        let flags := if width.getD 0 < 0 then '-' :: flags else flags
        let left := flags.contains '-'
        let size := (width.getD 0).natAbs
        let most := precision.bind fun n => if n < 0 then none else some n.toNat
        let cut (text : Text) : Text := match most with
          | some n => text.take n
          | none => text
        if kind = 's' then
          let (a, p) := p.next
          p.put (Text.pad left ' ' size (cut a))
        else if kind = 'b' then
          let (a, p) := p.next
          let (text, stopped) := d.escapes.unescape a
          { p.put (Text.pad left ' ' size (cut text)) with stopped }
        else if kind = 'q' ∧ d.escapes.hexadecimal then
          let (a, p) := p.next
          p.put (Text.pad left ' ' size (shellQuoted a))
        else if kind = 'c' then
          let (a, p) := p.next
          p.put (Text.pad left ' ' size (if a.isEmpty then ['\x00'] else a.take 1))
        else if "diuoxX".toList.contains kind then
          let (a, p) := p.next
          let (n, good) := integerOf (kind == 'd' || kind == 'i') a
          (p.put (integer flags size most kind n)).check good
        else if "eEfFgG".toList.contains kind then
          let (a, p) := p.next
          let (x, good) := realOf a
          let x := match x with
            | .finite x => .finite (if d.rounds then x.toBinary else x)
            | x => x
          (p.put (real flags size most kind x)).check good
        else { p with status := d.failure, stopped := true }

/-- Print a format again and again, as long as arguments are left and some are used. -/
def printFrom (d : Dialect) : (fuel : Nat) → List Piece → Progress → Progress
  | 0, _, p => p
  | fuel + 1, ps, p =>
      let q := ps.foldl (step d) p
      if q.stopped ∨ q.arguments = [] ∨ q.arguments.length = p.arguments.length then q
      else printFrom d fuel ps q

/-- The text of a format with its arguments, and the status that is due to them. -/
def print (d : Dialect) (format : Text) (arguments : List Text) : Text × Nat :=
  let p := printFrom d (arguments.length + 1) (pieces d format) { arguments }
  (p.printed.reverse.flatten, p.status)

end Format

end LtoBridge.Programs
