/-
**Patterns for values in a filter.**

A filter can ask for the value of a field by a regular expression, which has to fit all of the
value.  A counted repetition cannot be written, because braces enclose the field.

Main definitions:

* `LtoBridge.Log.ValuePattern.parse?`: read a pattern.
-/

import LtoBridge.Text.Alphanumeric
import LtoBridge.Text.Regex

set_option autoImplicit false

namespace LtoBridge.Log.ValuePattern

open LtoBridge.Text

/-! ### Characters -/

/-- How characters are read: without regard to their case, and with the end of a line as a
character like others. -/
structure Mode where
  anyCase : Bool := false
  anyChar : Bool := false

/-- The expression for a character of a set. -/
def Mode.one (mode : Mode) (set : CharSet) : Regex :=
  .one (if mode.anyCase then set.anyCase else set)

/-- The ranges of the characters in none of the given ranges, which are in ascending order. -/
def gaps (least : Nat) : List (Char × Char) → List (Char × Char)
  | [] => if least ≤ 0x10FFFF then [(Char.ofNat least, Char.ofNat 0x10FFFF)] else []
  | (low, high) :: rest =>
      if least < low.toNat then (Char.ofNat least, Char.ofNat (low.toNat - 1)) ::
        gaps (high.toNat + 1) rest
      else gaps (high.toNat + 1) rest

/-- The characters of words, of any script. -/
def wordChars : List (Char × Char) :=
  CharSet.wordChars ++ alphanumeric.map fun range => (Char.ofNat range.1, Char.ofNat range.2)

/-- The ranges that a letter after a backslash stands for; an upper-case one stands for what the
lower-case one excludes. -/
def classOf? : Char → Option (List (Char × Char))
  | 'd' => some CharSet.digits
  | 's' => some CharSet.blanks
  | 'w' => some wordChars
  | 'D' => some (gaps 0 CharSet.digits)
  | 'S' => some (gaps 0 CharSet.blanks)
  | 'W' => some (gaps 0 wordChars)
  | _ => none

/-- The value of a hexadecimal digit. -/
def hexDigit? (c : Char) : Option Nat :=
  if c.isDigit then some (c.toNat - 48)
  else if 'a' ≤ c.toLower ∧ c.toLower ≤ 'f' then some (c.toLower.toNat - 87)
  else none

/-- The character with a number of the given count of hexadecimal digits, and what follows them. -/
def hexChar? (count : Nat) (text : List Char) : Option (Char × List Char) := do
  let digits ← (text.take count).mapM hexDigit?
  if digits.length < count then none
  else
    let n := digits.foldl (fun n d => 16 * n + d) 0
    if n.isValidChar then some (Char.ofNat n, text.drop count) else none

/-- The character after a backslash, and what follows it. -/
def escaped? : List Char → Option (Char × List Char)
  | 'a' :: rest => some ('\x07', rest)
  | 'f' :: rest => some ('\x0c', rest)
  | 'n' :: rest => some ('\n', rest)
  | 'r' :: rest => some ('\r', rest)
  | 't' :: rest => some ('\t', rest)
  | 'v' :: rest => some ('\x0b', rest)
  | 'x' :: rest => hexChar? 2 rest
  | 'u' :: rest => hexChar? 4 rest
  | 'U' :: rest => hexChar? 8 rest
  | c :: rest =>
      if '!' ≤ c ∧ c ≤ '~' ∧ ¬ c.isAlphanum ∧ c ≠ '<' ∧ c ≠ '>' then some (c, rest) else none
  | [] => none

/-! ### Sets -/

/-- A member of a set in brackets: a class, or a single character. -/
def member? (text : List Char) : Option (List (Char × Char) × Bool × List Char) :=
  match text with
  | '[' :: ':' :: rest =>
      let (complement, rest) := match rest with
        | '^' :: rest => (true, rest)
        | _ => (false, rest)
      match rest.dropWhile Char.isAlpha with
      | ':' :: ']' :: after => do
          let ranges ← CharSet.named? (String.ofList (rest.takeWhile Char.isAlpha))
          some (if complement then gaps 0 ranges else ranges, false, after)
      | _ => none
  | '[' :: _ | '&' :: '&' :: _ | '-' :: '-' :: _ | '~' :: '~' :: _ => none
  | '\\' :: c :: rest =>
      match classOf? c with
      | some ranges => some (ranges, false, rest)
      | none => (escaped? (c :: rest)).map fun (d, rest) => ([(d, d)], true, rest)
  | c :: rest => some ([(c, c)], true, rest)
  | [] => none

/-- The ranges of a set up to its bracket, and what follows that.  A member takes at least one
character, so the length of the text is enough fuel. -/
def members? : (fuel : Nat) → (isFirst : Bool) → List Char → Option (List (Char × Char) × List Char)
  | 0, _, _ => none
  | fuel + 1, isFirst, text =>
      match text, isFirst with
      | ']' :: rest, false => some ([], rest)
      | _, _ => do
          let (ranges, isSingle, rest) ← member? text
          match rest with
          | '-' :: next :: _ =>
              if isSingle ∧ next ≠ ']' then do
                let (upper, isSingle, rest) ← member? (rest.drop 1)
                match ranges, upper, isSingle with
                | [(low, _)], [(_, high)], true =>
                    if low ≤ high then do
                      let (others, rest) ← members? fuel false rest
                      some ((low, high) :: others, rest)
                    else none
                | _, _, _ => none
              else do
                let (others, rest) ← members? fuel false rest
                some (ranges ++ others, rest)
          | _ => do
              let (others, rest) ← members? fuel false rest
              some (ranges ++ others, rest)

/-- The set after an opening bracket, and what follows it. -/
def set? (text : List Char) : Option (CharSet × List Char) := do
  let (complement, text) := match text with
    | '^' :: rest => (true, rest)
    | _ => (false, text)
  let (ranges, rest) ← members? (text.length + 1) true text
  some ({ ranges, complement }, rest)

/-! ### Expressions -/

/-- The mode after some letters, those after a hyphen being switched off, up to the sign that ends
them, and what follows that sign. -/
def switches? (ending : Char) : Mode → (on : Bool) → List Char → Option (Mode × List Char)
  | mode, on, c :: rest =>
      if c = ending then some (mode, rest)
      else if c = '-' ∧ on then switches? ending mode false rest
      else if c = 'i' then switches? ending { mode with anyCase := on } on rest
      else if c = 's' then switches? ending { mode with anyChar := on } on rest
      else if c = 'u' ∨ c = 'm' then switches? ending mode on rest
      else none
  | _, _, [] => none

/-- The rounds that signs after an expression ask for, and what follows them. -/
def repeated (r : Regex) : List Char → Regex × List Char
  | '*' :: '?' :: rest => repeated (.star false r) rest
  | '+' :: '?' :: rest => repeated (.plus false r) rest
  | '?' :: '?' :: rest => repeated (.optional false r) rest
  | '*' :: rest => repeated (.star true r) rest
  | '+' :: rest => repeated (.plus true r) rest
  | '?' :: rest => repeated (.optional true r) rest
  | rest => (r, rest)

/-- The contents of parentheses without what says how to read them. -/
def inner? (mode : Mode) : List Char → Option (Mode × List Char)
  | '?' :: 'P' :: '<' :: rest | '?' :: '<' :: rest =>
      match rest.dropWhile fun c => c.isAlphanum || c == '_' with
      | '>' :: after => if rest.head?.any Char.isDigit then none else some (mode, after)
      | _ => none
  | '?' :: rest => switches? ':' mode true rest
  | rest => some (mode, rest)

mutual

/-- Alternatives.  Each part takes at least one character, so the length of the text is enough
fuel. -/
def alternatives? : (fuel : Nat) → Mode → List Char → Option (Regex × List Char)
  | 0, _, _ => none
  | fuel + 1, mode, text => do
      let (first, mode, rest) ← sequence? fuel mode text
      match rest with
      | '|' :: rest => do
          let (others, rest) ← alternatives? fuel mode rest
          some (.either first others, rest)
      | _ => some (first, rest)

/-- Expressions one after the other. -/
def sequence? : (fuel : Nat) → Mode → List Char → Option (Regex × Mode × List Char)
  | 0, _, _ => none
  | fuel + 1, mode, text =>
      match text with
      | [] | '|' :: _ | ')' :: _ => some (.empty, mode, text)
      | _ =>
          let changed := match text with
            | '(' :: '?' :: rest => switches? ')' mode true rest
            | _ => none
          match changed with
          | some (mode, rest) => sequence? fuel mode rest
          | none => do
              let (r, rest) ← single? fuel mode text
              let (r, rest) := repeated r rest
              let (others, mode, rest) ← sequence? fuel mode rest
              some (.both r others, mode, rest)

/-- A single expression. -/
def single? : (fuel : Nat) → Mode → List Char → Option (Regex × List Char)
  | 0, _, _ => none
  | fuel + 1, mode, text =>
      match text with
      | '(' :: rest => do
          let (mode, rest) ← inner? mode rest
          let (r, rest) ← alternatives? fuel mode rest
          match rest with
          | ')' :: rest => some (r, rest)
          | _ => none
      | '[' :: rest => (set? rest).map fun (set, rest) => (mode.one set, rest)
      | '.' :: rest => some (.one (if mode.anyChar then .all else .inLine), rest)
      | '^' :: rest | '\\' :: 'A' :: rest => some (.edge .textStart, rest)
      | '$' :: rest | '\\' :: 'z' :: rest => some (.edge .textEnd, rest)
      | '\\' :: c :: rest =>
          match classOf? c with
          | some ranges => some (.one { ranges }, rest)
          | none => (escaped? (c :: rest)).map fun (d, rest) => (mode.one (.single d), rest)
      | c :: rest =>
          if "*+?\x7b\\".toList.contains c then none else some (mode.one (.single c), rest)
      | [] => none

end

/-- Read a pattern. -/
def parse? (text : String) : Option Regex :=
  match alternatives? (3 * text.length + 3) {} text.toList with
  | some (r, []) => some r
  | _ => none

end LtoBridge.Log.ValuePattern
