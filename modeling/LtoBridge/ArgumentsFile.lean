/-
**The arguments file.**

The backend takes its arguments from a file, one on each line.  Its reader splits the file at
blanks outside quotes and takes the byte after a backslash as it is, so blanks, quotes and
backslashes get a backslash, and an argument without bytes is written as a pair of quotes.

Main definitions:

* `LtoBridge.ArgumentsFile.escape`, `LtoBridge.ArgumentsFile.render`: writing;
* `LtoBridge.ArgumentsFile.split`: reading.
-/

import LtoBridge.Bytes

set_option autoImplicit false

namespace LtoBridge.ArgumentsFile

/-- Space, tab, line feed, vertical tab, form feed and carriage return. -/
def isBlank (b : UInt8) : Bool := b == 32 || (9 ≤ b && b ≤ 13)

/-- The byte that takes the meaning from the next one. -/
def backslash : UInt8 := 92

/-- The single quote. -/
def singleQuote : UInt8 := 39

/-- The double quote. -/
def doubleQuote : UInt8 := 34

/-- Does the byte mean something to the reader? -/
def isSpecial (b : UInt8) : Bool :=
  isBlank b || b == backslash || b == singleQuote || b == doubleQuote

/-! ### Writing -/

/-- The written form of a byte. -/
def escapeByte (b : UInt8) : Bytes := if isSpecial b then [backslash, b] else [b]

/-- The written form of an argument. -/
def escape (argument : Bytes) : Bytes :=
  if argument = [] then [doubleQuote, doubleQuote] else argument.flatMap escapeByte

/-- **The contents of the file for a list of arguments.** -/
def render (arguments : List Bytes) : Bytes := arguments.flatMap fun a => escape a ++ [10]

/-! ### Reading -/

/-- Where the reader stands: the quote that is open, whether the last byte was a backslash, and
the bytes of the argument that has begun, if one has. -/
structure Reader where
  quote : Option UInt8 := none
  escaped : Bool := false
  begun : Option Bytes := none

/-- The reader with one more byte of an argument. -/
def Reader.take (r : Reader) (b : UInt8) : Reader :=
  { r with escaped := false, begun := some (r.begun.getD [] ++ [b]) }

/-- Read on; the arguments that are completed come out in order. -/
def splitFrom (r : Reader) : Bytes → List Bytes
  | [] => r.begun.toList
  | b :: bs =>
      if r.escaped then splitFrom (r.take b) bs
      else if b = backslash then
        splitFrom { r with escaped := true, begun := some (r.begun.getD []) } bs
      else match r.quote with
        | some q =>
            if b = q then splitFrom { r with quote := none } bs else splitFrom (r.take b) bs
        | none =>
            if isBlank b then r.begun.toList ++ splitFrom {} bs
            else if b = singleQuote ∨ b = doubleQuote then
              splitFrom { r with quote := some b, begun := some (r.begun.getD []) } bs
            else splitFrom (r.take b) bs

/-- **The arguments in a file.** -/
def split (contents : Bytes) : List Bytes := splitFrom {} contents

end LtoBridge.ArgumentsFile
