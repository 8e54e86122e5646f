/-
**Texts of programs.**

Programs work on bytes, most of which they take as characters.  A text has one character for each
byte.

Main definitions:

* `LtoBridge.Programs.Text`, `LtoBridge.Programs.Text.ofBytes`, `LtoBridge.Programs.Text.bytes`;
* `LtoBridge.Programs.Text.lines`, `LtoBridge.Programs.Text.splitAt`: parts of a text;
* `LtoBridge.Programs.Text.decimal`, `LtoBridge.Programs.Text.number?`,
  `LtoBridge.Programs.Text.integer?`: numerals;
* `LtoBridge.Programs.Text.precedes`: the order of texts.
-/

import LtoBridge.Bytes

set_option autoImplicit false

namespace LtoBridge.Programs

/-- A text: one character for each byte. -/
abbrev Text := List Char

namespace Text

/-- The text with the given bytes. -/
def ofBytes (bs : Bytes) : Text := bs.map fun b => Char.ofNat b.toNat

/-- The bytes of a text. -/
def bytes (t : Text) : Bytes := t.map fun c => UInt8.ofNat c.toNat

/-! ### Parts -/

/-- Is the character a blank within a line? -/
def isBlank (c : Char) : Bool := c == ' ' || c == '\t'

/-- Is the character white space? -/
def isSpace (c : Char) : Bool := c == ' ' || (9 ≤ c.toNat && c.toNat ≤ 13)

/-- Can the character be seen, or is it a blank? -/
def isPrintable (c : Char) : Bool := 32 ≤ c.toNat && c.toNat ≤ 126

/-- The text without white space around it. -/
def trimmed (t : Text) : Text := ((t.dropWhile isSpace).reverse.dropWhile isSpace).reverse

/-- The lines of a text, with `line` as the reversed beginning of the first one. -/
def linesFrom (line : Text) : Text → List Text
  | [] => if line.isEmpty then [] else [line.reverse]
  | c :: rest =>
      if c = '\n' then ('\n' :: line).reverse :: linesFrom [] rest else linesFrom (c :: line) rest

/-- The lines of a text, each with the character that ends it; the last one may lack it. -/
def lines (t : Text) : List Text := linesFrom [] t

/-- A line without the character that ends it. -/
def chopped (line : Text) : Text := if line.getLast? = some '\n' then line.dropLast else line

/-- A line with the character that ends it. -/
def ended (line : Text) : Text := if line.getLast? = some '\n' then line else line ++ ['\n']

/-- Parts, each with the character that ends a line. -/
def unlines (parts : List Text) : Text := parts.flatMap (· ++ ['\n'])

/-- The parts of a text between separators, with `part` as the reversed beginning of the first. -/
def splitFrom (separates : Char → Bool) (part : Text) : Text → List Text
  | [] => [part.reverse]
  | c :: rest =>
      if separates c then part.reverse :: splitFrom separates [] rest
      else splitFrom separates (c :: part) rest

/-- The parts of a text between separators. -/
def splitAt (separates : Char → Bool) (t : Text) : List Text := splitFrom separates [] t

/-- The parts of a text between white space. -/
def wordsOf (t : Text) : List Text := (splitAt isSpace t).filter (!·.isEmpty)

/-- Texts with blanks between them. -/
def spaced (texts : List Text) : Text := [' '].intercalate texts

/-- A text, filled up to a width. -/
def pad (left : Bool) (filler : Char) (width : Nat) (t : Text) : Text :=
  let fill := List.replicate (width - t.length) filler
  if left then t ++ fill else fill ++ t

/-- The text up to the first place where another one begins, and what follows that. -/
def cutAt? (mark : Text) : Text → Option (Text × Text)
  | [] => if mark.isEmpty then some ([], []) else none
  | c :: rest =>
      if mark.isPrefixOf (c :: rest) then some ([], (c :: rest).drop mark.length)
      else (cutAt? mark rest).map fun (found, after) => (c :: found, after)

/-! ### Numerals -/

/-- The decimal digits of a number. -/
def decimal (n : Nat) : Text := Nat.toDigits 10 n

/-- The decimal digits of an integer. -/
def signedDecimal (n : Int) : Text :=
  if n < 0 then '-' :: decimal n.natAbs else decimal n.natAbs

/-- The value of a digit. -/
def digitValue (c : Char) : Nat :=
  if c.isDigit then c.toNat - 48
  else if 'a' ≤ c ∧ c ≤ 'z' then c.toNat - 87
  else if 'A' ≤ c ∧ c ≤ 'Z' then c.toNat - 55
  else 99

/-- The number with the given digits. -/
def ofDigits (base : Nat) (digits : Text) : Nat :=
  digits.foldl (fun n c => base * n + digitValue c) 0

/-- The number that a text of digits stands for. -/
def number? (t : Text) : Option Nat :=
  if t.isEmpty ∨ ¬ t.all Char.isDigit then none else some (ofDigits 10 t)

/-- The integer that a text stands for, which may have a sign. -/
def integer? : Text → Option Int
  | '-' :: digits => (number? digits).map fun n => -(n : Int)
  | '+' :: digits => (number? digits).map fun n => (n : Int)
  | digits => (number? digits).map fun n => (n : Int)

/-! ### Order -/

/-- Is the first text before the second one, or are they equal? -/
def precedes : Text → Text → Bool
  | [], _ => true
  | _ :: _, [] => false
  | a :: s, b :: t => a.toNat < b.toNat || (a == b && precedes s t)

/-- Texts in order. -/
def sorted (texts : List Text) : List Text := texts.mergeSort precedes

/-- The texts without those that are equal to the one before them. -/
def withoutRepeats : List Text → List Text
  | a :: b :: rest => if a = b then withoutRepeats (b :: rest) else a :: withoutRepeats (b :: rest)
  | rest => rest

end Text

end LtoBridge.Programs
