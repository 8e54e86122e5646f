/-
**Values of a program for records.**

A value is a number, a text, or a text from outside, which counts as a number where it looks like
one.  Numbers are rounded to what fits in 64 bits after each step.

Main definitions:

* `LtoBridge.Awk.Value`, `LtoBridge.Awk.Value.toNumber`, `LtoBridge.Awk.Value.toText`;
* `LtoBridge.Awk.Operator.onNumbers`: arithmetic;
* `LtoBridge.Awk.compares`: comparison of values;
* `LtoBridge.Awk.split`: parts of a text between separators;
* `LtoBridge.Awk.formatted?`: values as a format says.
-/

import LtoBridge.Awk.Syntax
import LtoBridge.Programs.Format
import LtoBridge.Programs.RegexSyntax

set_option autoImplicit false

namespace LtoBridge.Awk

open LtoBridge.Programs (Text Fraction RegexSyntax)
open LtoBridge.Programs.Format (Quantity Piece)
open LtoBridge.Text (Regex)

/-- A value. -/
inductive Value
  /-- That of a variable that has not been set. -/
  | nothing
  | number (x : Quantity)
  | text (t : Text)
  /-- A text from outside. -/
  | input (t : Text)

/-! ### Numbers -/

/-- A whole number. -/
def whole (n : Int) : Quantity := .finite (Fraction.ofInt n)

/-- A whole number as a value. -/
def Value.ofInt (n : Int) : Value := .number (whole n)

/-- What is true or false, as a value. -/
def Value.ofBool (b : Bool) : Value := .ofInt (if b then 1 else 0)

/-- A number as far as it fits in 64 bits. -/
def rounded (x : Fraction) : Quantity :=
  if x.bottom = 1 ∧ x.top < 0x20000000000000 then .finite x
  else
    let y := x.toBinary
    if y.top / y.bottom ≥ 1 <<< 1024 then .infinite x.negative else .finite y

/-- The number at the beginning of a text. -/
def numberIn (text : Text) : Quantity :=
  match Fraction.read? text with
  | some (x, _) => rounded x
  | none => whole 0

/-- Is a text a number, with white space around it? -/
def looksNumeric (text : Text) : Bool :=
  match Fraction.read? (Text.trimmed text) with
  | some (_, rest) => rest.isEmpty
  | none => false

/-- A value as a number. -/
def Value.toNumber : Value → Quantity
  | .nothing => whole 0
  | .number x => x
  | .text t | .input t => numberIn t

/-- A number without its part after the point. -/
def integerPart : Quantity → Int
  | .finite x => x.truncated
  | .infinite negative => if negative then -0x80000000 else 0x7FFFFFFF
  | .notANumber => 0

/-- A value as a number without its part after the point. -/
def Value.toInt (v : Value) : Int := integerPart v.toNumber

/-- From where on numbers are not written with all of their digits. -/
def wholeLimit : Nat := 0x10000000000000000

/-- How formats are read. -/
def formatDialect : Programs.Format.Dialect := { escapes := {} }

/-- A number as a text; one with a part after the point is written as a format says. -/
def numberText (format : Text) (x : Quantity) : Text :=
  let inFormat : Text :=
    match Programs.Format.pieces formatDialect format with
    | [.conversion flags width precision kind] =>
        Programs.Format.real flags ((width.map (Text.ofDigits 10)).getD 0)
          (precision.map (Text.ofDigits 10)) kind x
    | _ => Programs.Format.real [] 0 (some 6) 'g' x
  match x with
  | .finite y =>
      if y.isWhole ∧ y.top / y.bottom < wholeLimit then Text.signedDecimal y.truncated
      else inFormat
  | _ => inFormat

/-- A value as a text. -/
def Value.toText (format : Text) : Value → Text
  | .nothing => []
  | .number x => numberText format x
  | .text t | .input t => t

/-- Is a number not zero? -/
def isTrue : Quantity → Bool
  | .finite x => x.top != 0
  | _ => true

/-- Does a value count as true? -/
def Value.holds : Value → Bool
  | .nothing => false
  | .number x => isTrue x
  | .text t => !t.isEmpty
  | .input t => if looksNumeric t then isTrue (numberIn t) else !t.isEmpty

/-- A number as the machine has it. -/
def toFloat : Quantity → Float
  | .finite x =>
      let size := Float.scaleB (Float.ofNat x.top) (-(Nat.log2 x.bottom : Int))
      if x.negative then -size else size
  | .infinite negative => if negative then -1 / 0 else 1 / 0
  | .notANumber => 0 / 0

/-- A number that the machine has. -/
def ofFloat (f : Float) : Quantity :=
  let bits := f.toBits.toNat
  let negative := bits ≥ 0x8000000000000000
  let exponent := bits / 0x10000000000000 % 0x800
  let digits := bits % 0x10000000000000
  if exponent = 0x7FF then if digits = 0 then .infinite negative else .notANumber
  else
    let (digits, exponent) := if exponent = 0 then (digits, 1)
      else (digits + 0x10000000000000, exponent)
    if exponent ≥ 1075 then .finite { negative, top := digits <<< (exponent - 1075) }
    else .finite (Fraction.reduced { negative, top := digits, bottom := 1 <<< (1075 - exponent) })

/-- A number to the power of a whole number. -/
def powerOf (x : Fraction) : Nat → Fraction
  | 0 => { top := 1 }
  | n + 1 => (x.times (powerOf x n)).toBinary

/-- Arithmetic on numbers. -/
def Operator.onNumbers (op : Operator) (a b : Quantity) : Quantity :=
  match a, b with
  | .finite x, .finite y =>
      match op with
      | .plus => rounded (x.plus y)
      | .minus => rounded (x.plus y.opposite)
      | .times => rounded (x.times y)
      | .dividedBy =>
          if y.top ≠ 0 then rounded (x.dividedBy y)
          else if x.top = 0 then .notANumber else .infinite x.negative
      | .modulo =>
          if y.top = 0 then .notANumber
          else
            let n := (x.dividedBy y).truncated
            rounded (x.plus ((Fraction.ofInt n).times y).opposite)
      | .power =>
          if y.isWhole then
            let n := min y.truncated.natAbs 2000
            let p := powerOf x n
            if ¬ y.negative then rounded p
            else if p.top = 0 then .infinite false
            else rounded (Fraction.dividedBy { top := 1 } p)
          else ofFloat (Float.pow (toFloat a) (toFloat b))
      | _ => whole 0
  | .infinite s, .finite _ => .infinite s
  | .finite _, .infinite s => if op = .dividedBy then whole 0 else .infinite s
  | _, _ => .notANumber

/-! ### Comparison -/

/-- The order of two numbers, unless there is none. -/
def order? (a b : Quantity) : Option Ordering :=
  match a, b with
  | .finite x, .finite y => some (if x.less y then .lt else if x.same y then .eq else .gt)
  | .infinite s, .infinite t => some (if s = t then .eq else if s then .lt else .gt)
  | .infinite s, .finite _ => some (if s then .lt else .gt)
  | .finite _, .infinite s => some (if s then .gt else .lt)
  | _, _ => none

/-- The number that a value counts as in comparisons. -/
def Value.asNumber? : Value → Option Quantity
  | .nothing => some (whole 0)
  | .number x => some x
  | .text _ => none
  | .input t => if looksNumeric t then some (numberIn t) else none

/-- Comparison of two values. -/
def compares (format : Text) (op : Operator) (a b : Value) : Bool :=
  let ordering : Option Ordering := match a.asNumber?, b.asNumber? with
    | some x, some y => order? x y
    | _, _ =>
        let s := a.toText format
        let t := b.toText format
        some (if s = t then .eq else if Text.precedes s t then .lt else .gt)
  match op, ordering with
  | .different, none => true
  | _, none => false
  | .less, some o => o == .lt
  | .atMost, some o => o != .gt
  | .equal, some o => o == .eq
  | .different, some o => o != .eq
  | .more, some o => o == .gt
  | .atLeast, some o => o != .lt
  | _, _ => false

/-! ### Patterns -/

/-- How patterns are written. -/
def patternSyntax : RegexSyntax := { extended := true, controls := true, escapedSets := true }

/-- The pattern that a text stands for; one that makes no sense fits nothing. -/
def pattern (text : Text) : Regex :=
  (patternSyntax.parse? text).getD (.one { ranges := [] })

/-- The parts of a text between places that fit a pattern and are not empty.  Each takes a
character, so the length of the text is enough fuel. -/
def splitBy (r : Regex) : (fuel : Nat) → (before part after : Text) → List Text
  | 0, _, part, after => [part.reverse ++ after]
  | fuel + 1, before, part, after =>
      match after with
      | [] => [part.reverse]
      | c :: rest =>
          match Regex.farthest? (r.ends { before, after }) with
          | some spot =>
              if spot.position = 0 then splitBy r fuel (c :: before) (c :: part) rest
              else part.reverse :: splitBy r fuel spot.before [] spot.after
          | none => splitBy r fuel (c :: before) (c :: part) rest

/-- The parts of a text between separators: white space if that is a blank, a single character, or
places that fit a pattern. -/
def split (separator text : Text) : List Text :=
  if text.isEmpty then []
  else match separator with
    | [' '] => Text.wordsOf text
    | [] => text.map ([·])
    | [c] => if c = '\\' then [text] else Text.splitAt (· == c) text
    | _ => splitBy (pattern separator) (text.length + 1) [] [] text

/-- What replaces a place that fits, in which an ampersand stands for that. -/
def replacement (found : Text) : Text → Text
  | '\\' :: '&' :: rest => '&' :: replacement found rest
  | '\\' :: '\\' :: rest => '\\' :: replacement found rest
  | '&' :: rest => found ++ replacement found rest
  | c :: rest => c :: replacement found rest
  | [] => []

/-- A text with something else in place of the first `most` places that fit, and their number.  No
place can be right after another one and empty. -/
def replaceIn (r : Regex) (other : Text) :
    (fuel most : Nat) → (justReplaced : Bool) → (before after : Text) → Nat × List Text
  | 0, _, _, _, after => (0, [after])
  | _, 0, _, _, after => (0, [after])
  | fuel + 1, most + 1, justReplaced, before, after =>
      let step (more : Nat) : Nat × List Text :=
        match after with
        | [] => (0, [])
        | c :: rest =>
            let (n, pieces) := replaceIn r other fuel more false (c :: before) rest
            (n, [c] :: pieces)
      match Regex.farthest? (r.ends { before, after }) with
      | some spot =>
          let found := after.take spot.position
          if found.isEmpty then
            if justReplaced then step (most + 1)
            else
              let (n, pieces) := step most
              (n + 1, replacement [] other :: pieces)
          else
            let (n, pieces) := replaceIn r other fuel most true spot.before spot.after
            (n + 1, replacement found other :: pieces)
      | none => step (most + 1)

/-! ### Formats -/

/-- Values as a format says, unless it asks for more of them. -/
def formattedFrom (format : Text) : List Piece → List Value → Option (List Text)
  | [], _ => some []
  | .literal c :: rest, values => (formattedFrom format rest values).map ([c] :: ·)
  | .conversion flags width precision kind :: rest, values =>
      let size (given : Option Text) (values : List Value) : Option Int × List Value :=
        match given with
        | none => (none, values)
        | some ['*'] => (some (values.headD .nothing).toInt, values.tail)
        | some digits => (some (Text.ofDigits 10 digits), values)
      let (width, values) := size width values
      let (precision, values) := size precision values
      let flags := if width.getD 0 < 0 then '-' :: flags else flags
      let least := (width.getD 0).natAbs
      let most := precision.bind fun n => if n < 0 then none else some n.toNat
      let value := values.headD .nothing
      let pad (t : Text) : Text := Text.pad (flags.contains '-') ' ' least t
      let part : Text :=
        if kind = 'd' ∨ kind = 'i' then Programs.Format.integer flags least most 'd' value.toInt
        else if "ouxX".toList.contains kind then
          Programs.Format.integer flags least most kind (value.toInt % 0x10000000000000000)
        else if kind = 'c' then
          match value with
          | .number x => pad [Char.ofNat ((integerPart x).toNat % 256)]
          | v => pad ((v.toText format).take 1)
        else if kind = 's' then
          let text := value.toText format
          pad (match most with
            | some n => text.take n
            | none => text)
        else Programs.Format.real flags least most kind value.toNumber
      if values.isEmpty then none
      else (formattedFrom format rest values.tail).map (part :: ·)
  | _ :: rest, values => formattedFrom format rest values

/-- Values as a format says, unless it asks for more of them. -/
def formatted? (format : Text) (pieces : List Piece) (values : List Value) : Option Text :=
  (formattedFrom format pieces values).map List.flatten

end LtoBridge.Awk
