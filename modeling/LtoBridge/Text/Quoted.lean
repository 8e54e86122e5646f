/-
**Byte strings in quotes.**

Diagnostics show a byte string of unknown contents in double quotes, with escapes for whatever
could be misread.  There are two dialects: file names in errors of the operating system, and
strings that the linker passed.  They differ in apostrophes, in ASCII control characters and in the
case of hexadecimal digits.

Main definitions:

* `LtoBridge.Text.quotedPath`, `LtoBridge.Text.quotedString`: the two dialects.
-/

import LtoBridge.Text.Utf8
import LtoBridge.Text.Unprintable

set_option autoImplicit false

namespace LtoBridge.Text

/-- A lower-case hexadecimal numeral without leading zeros. -/
def hex (n : Nat) : String := String.ofList (Nat.toDigits 16 n)

/-- Two hexadecimal digits. -/
def hexPair (b : UInt8) : String :=
  if b < 0x10 then "0" ++ hex b.toNat else hex b.toNat

/-- How a dialect of quotation writes an apostrophe and what has no short escape: ASCII control
characters and bytes that are not text. -/
structure Dialect where
  apostrophe : String
  control : UInt8 → String
  stray : UInt8 → String

/-- A character within quotes. -/
def Dialect.char (d : Dialect) (c : Char) : String :=
  if c = '\t' then "\\t"
  else if c = '\r' then "\\r"
  else if c = '\n' then "\\n"
  else if c = '"' then "\\\""
  else if c = '\'' then d.apostrophe
  else if c = '\\' then "\\\\"
  else if c = '\x00' then "\\0"
  else if c.toNat < 0x20 ∨ c.toNat = 0x7F then d.control c.toNat.toUInt8
  else if isUnprintable c then "\\u\x7b" ++ hex c.toNat ++ "\x7d"
  else c.toString

/-- A piece of a byte string within quotes. -/
def Dialect.piece (d : Dialect) : Utf8.Piece → String
  | .char c => d.char c
  | .broken bytes | .cut bytes => String.join (bytes.map d.stray)

/-- A byte string in quotes. -/
def Dialect.quote (d : Dialect) (bs : Bytes) : String :=
  "\"" ++ String.join ((Utf8.pieces bs).map d.piece) ++ "\""

/-- Quotes for file names: apostrophes as they are, control characters by code point, stray bytes in
upper case. -/
def pathDialect : Dialect where
  apostrophe := "'"
  control b := "\\u\x7b" ++ hex b.toNat ++ "\x7d"
  stray b := "\\x" ++ (hexPair b).toUpper

/-- Quotes for strings of the linker: control characters and stray bytes in lower-case pairs. -/
def stringDialect : Dialect where
  apostrophe := "\\'"
  control b := "\\x" ++ hexPair b
  stray b := "\\x" ++ hexPair b

/-- A file name in quotes. -/
def quotedPath (bs : Bytes) : String := pathDialect.quote bs

/-- A string of the linker in quotes. -/
def quotedString (bs : Bytes) : String := stringDialect.quote bs

end LtoBridge.Text
