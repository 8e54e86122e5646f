/-
**Numbers with a fraction.**

A number is kept as an exact fraction.  It can be rounded to the precision of a binary number of 64
bits, and it can be written with a given number of digits.  Of two candidates that are equally near,
the even one is taken.

Main definitions:

* `LtoBridge.Programs.Fraction`, `LtoBridge.Programs.Fraction.toBinary`;
* `LtoBridge.Programs.Fraction.read`: the number at the beginning of a text;
* `LtoBridge.Programs.Fraction.fixed`, `LtoBridge.Programs.Fraction.scientific`,
  `LtoBridge.Programs.Fraction.general`: the ways to write a number.

Main results:

* `LtoBridge.Programs.roundedQuotient_spec`: rounding changes a quotient by half a unit at most.
-/

import LtoBridge.Programs.Text

set_option autoImplicit false

namespace LtoBridge.Programs

/-- The integer nearest to a quotient; of two such integers, the even one. -/
def roundedQuotient (a b : Nat) : Nat :=
  let q := a / b
  let r := a % b
  if 2 * r < b then q else if b < 2 * r then q + 1 else if q % 2 = 0 then q else q + 1

/-- Rounding changes a quotient by half a unit at most. -/
theorem roundedQuotient_spec (a b : Nat) (hb : 0 < b) :
    2 * (b * roundedQuotient a b) ≤ 2 * a + b ∧ 2 * a ≤ 2 * (b * roundedQuotient a b) + b := by
  have h := Nat.div_add_mod a b
  have hr : a % b < b := Nat.mod_lt a hb
  unfold roundedQuotient
  simp only
  split
  · omega
  · have h₁ : b * (a / b + 1) = b * (a / b) + b := Nat.mul_succ _ _
    split
    · rw [h₁]; omega
    · split
      · omega
      · rw [h₁]; omega

/-- A number as a fraction, the bottom of which is not zero. -/
structure Fraction where
  negative : Bool := false
  top : Nat
  bottom : Nat := 1
  deriving DecidableEq

namespace Fraction

/-- An integer as a fraction. -/
def ofInt (n : Int) : Fraction := { negative := n < 0, top := n.natAbs }

/-- The number without its part after the point. -/
def truncated (x : Fraction) : Int :=
  let n : Int := (x.top / x.bottom : Nat)
  if x.negative then -n else n

/-- Does the number have no part after the point? -/
def isWhole (x : Fraction) : Bool := x.top % x.bottom == 0

/-- The number in lowest terms. -/
def reduced (x : Fraction) : Fraction :=
  let d := Nat.gcd x.top x.bottom
  if d ≤ 1 then x else { x with top := x.top / d, bottom := x.bottom / d }

/-! ### Precision -/

/-- The number of binary digits of a binary number of 64 bits. -/
def precision : Nat := 53

/-- The least exponent of the last digit of a binary number of 64 bits. -/
def leastExponent : Int := -1074

/-- The binary exponent of a number: it lies between this power of two and the next one. -/
def exponent (top bottom : Nat) : Int :=
  let e : Int := (Nat.log2 top : Int) - (Nat.log2 bottom : Int)
  let below :=
    if e ≥ 0 then decide (top < bottom <<< e.toNat) else decide (top <<< (-e).toNat < bottom)
  if below then e - 1 else e

/-- The nearest number with the precision of a binary number of 64 bits. -/
def toBinary (x : Fraction) : Fraction :=
  if x.top = 0 then { x with top := 0, bottom := 1 }
  else
    let e := max (exponent x.top x.bottom - (precision - 1 : Nat)) leastExponent
    if e ≥ 0 then
      { x with top := (roundedQuotient x.top (x.bottom <<< e.toNat)) <<< e.toNat, bottom := 1 }
    else
      reduced { x with
        top := roundedQuotient (x.top <<< (-e).toNat) x.bottom, bottom := 1 <<< (-e).toNat }

/-! ### Arithmetic -/

/-- The number with the other sign. -/
def opposite (x : Fraction) : Fraction := { x with negative := !x.negative }

/-- The signed top of a fraction. -/
def signedTop (x : Fraction) : Int := if x.negative then -(x.top : Int) else x.top

/-- The sum of two numbers. -/
def plus (x y : Fraction) : Fraction :=
  let n := x.signedTop * y.bottom + y.signedTop * x.bottom
  reduced { negative := n < 0, top := n.natAbs, bottom := x.bottom * y.bottom }

/-- The product of two numbers. -/
def times (x y : Fraction) : Fraction :=
  reduced
    { negative := x.negative != y.negative, top := x.top * y.top, bottom := x.bottom * y.bottom }

/-- The quotient of two numbers, the second of which is not zero. -/
def dividedBy (x y : Fraction) : Fraction :=
  reduced
    { negative := x.negative != y.negative, top := x.top * y.bottom, bottom := x.bottom * y.top }

/-- Is the first number less than the second one? -/
def less (x y : Fraction) : Bool := x.signedTop * y.bottom < y.signedTop * x.bottom

/-- Are two numbers equal? -/
def same (x y : Fraction) : Bool := x.signedTop * y.bottom == y.signedTop * x.bottom

/-! ### Reading -/

/-- The greatest exponent that is read; the digits of larger ones are not worth their while. -/
def exponentLimit : Nat := 5000

/-- A number with the given digits and exponent. -/
def scaled (negative : Bool) (digits : Nat) (exponent : Int) : Fraction :=
  let power := Nat.pow 10 (min exponent.natAbs exponentLimit)
  if exponent < 0 then { negative, top := digits, bottom := power }
  else { negative, top := digits * power }

/-- The exponent after a letter, and what follows it; without digits there is none. -/
def exponentAfter (letters : String) (text : Text) : Int × Text :=
  match text with
  | c :: rest =>
      if ¬ letters.toList.contains c then (0, text)
      else
        let (negative, digits) := match rest with
          | '-' :: rest => (true, rest)
          | '+' :: rest => (false, rest)
          | _ => (false, rest)
        let found := digits.takeWhile Char.isDigit
        if found.isEmpty then (0, text)
        else
          let n : Int := Text.ofDigits 10 found
          (if negative then -n else n, digits.drop found.length)
  | [] => (0, [])

/-- The number at the beginning of a text without a sign, and what follows it. -/
def unsigned? (negative : Bool) (text : Text) : Option (Fraction × Text) :=
  match text with
  | '0' :: x :: rest =>
      let isHex (c : Char) : Bool := Text.digitValue c < 16
      let whole := rest.takeWhile isHex
      if (x = 'x' ∨ x = 'X') ∧ whole ≠ [] then
        let (power, rest) := exponentAfter "pP" (rest.drop whole.length)
        let n := Text.ofDigits 16 whole
        if power < 0 then
          some ({ negative, top := n, bottom := 1 <<< min power.natAbs exponentLimit }, rest)
        else some ({ negative, top := n <<< min power.natAbs exponentLimit }, rest)
      else decimal? negative text
  | _ => decimal? negative text
where
  /-- The decimal number at the beginning of a text. -/
  decimal? (negative : Bool) (text : Text) : Option (Fraction × Text) :=
    let whole := text.takeWhile Char.isDigit
    let rest := text.drop whole.length
    let (part, rest) := match rest with
      | '.' :: after => (after.takeWhile Char.isDigit, after.dropWhile Char.isDigit)
      | _ => ([], rest)
    if whole.isEmpty ∧ part.isEmpty then none
    else
      let (power, rest) := exponentAfter "eE" rest
      some (scaled negative (Text.ofDigits 10 (whole ++ part)) (power - (part.length : Nat)), rest)

/-- The number at the beginning of a text after white space, and what follows it. -/
def read? (text : Text) : Option (Fraction × Text) :=
  match text.dropWhile Text.isSpace with
  | '-' :: rest => unsigned? true rest
  | '+' :: rest => unsigned? false rest
  | rest => unsigned? false rest

/-- The microseconds in a time such as `1.5m`; a time without end is a very long one. -/
def duration? (text : Text) : Option Nat :=
  if text = "infinity".toList ∨ text = "inf".toList then some 1000000000000000000
  else do
    let (x, unit) ← read? text
    let seconds ← [("", 1), ("s", 1), ("m", 60), ("h", 3600), ("d", 86400)].lookup
      (String.ofList unit)
    if x.negative then none else some (x.top * seconds * 1000000 / x.bottom)

/-! ### Writing -/

/-- The sign of a number. -/
def sign (x : Fraction) : Text := if x.negative then ['-'] else []

/-- Digits with a point before the last `places` of them. -/
def pointed (digits : Text) (places : Nat) : Text :=
  let digits := Text.pad false '0' (places + 1) digits
  if places = 0 then digits
  else digits.take (digits.length - places) ++ '.' :: digits.drop (digits.length - places)

/-- A number without its sign, with `places` digits after the point. -/
def fixed (places : Nat) (x : Fraction) : Text :=
  pointed (Text.decimal (roundedQuotient (x.top * Nat.pow 10 places) x.bottom)) places

/-- The decimal exponent of a number that is not zero, found by going up from `e` or down. -/
def decimalExponent (x : Fraction) : Int :=
  let guess : Int := (exponent x.top x.bottom) * 30103 / 100000
  let atLeast (e : Int) : Bool :=
    if e ≥ 0 then decide (x.bottom * Nat.pow 10 e.toNat ≤ x.top)
    else decide (x.bottom ≤ x.top * Nat.pow 10 (-e).toNat)
  if atLeast (guess + 1) then guess + 1
  else if atLeast guess then guess
  else guess - 1

/-- The first `count` digits of a number that is not zero, and its decimal exponent. -/
def leading (count : Nat) (x : Fraction) : Text × Int :=
  let e := decimalExponent x
  let shift : Int := (count : Int) - 1 - e
  let n := if shift ≥ 0 then roundedQuotient (x.top * Nat.pow 10 shift.toNat) x.bottom
    else roundedQuotient x.top (x.bottom * Nat.pow 10 (-shift).toNat)
  let digits := Text.decimal n
  if digits.length > count then (digits.take count, e + 1) else (digits, e)

/-- An exponent with its sign and at least two digits. -/
def exponentText (letter : Char) (e : Int) : Text :=
  letter :: (if e < 0 then '-' else '+') :: Text.pad false '0' 2 (Text.decimal e.natAbs)

/-- A number without its sign, with one digit before the point and `places` after it. -/
def scientific (letter : Char) (places : Nat) (x : Fraction) : Text :=
  let (digits, e) := if x.top = 0 then (List.replicate (places + 1) '0', 0)
    else leading (places + 1) x
  digits.take 1 ++ (if places = 0 then [] else '.' :: digits.drop 1) ++ exponentText letter e

/-- Digits without the zeros at the end of the part after the point, and without a point at the
end. -/
def shortened (text : Text) : Text :=
  if text.contains '.' then
    match text.reverse.dropWhile (· == '0') with
    | '.' :: rest => rest.reverse
    | rest => rest.reverse
  else text

/-- A number without its sign, with `digits` digits, in the shorter one of the two ways.  Zeros at
the end are left out unless `keeps` holds. -/
def general (letter : Char) (digits : Nat) (keeps : Bool) (x : Fraction) : Text :=
  let digits := max digits 1
  let e := if x.top = 0 then 0 else (leading digits x).2
  if e < -4 ∨ e ≥ digits then
    let text := scientific letter (digits - 1) x
    if keeps then text
    else shortened (text.takeWhile (· != letter)) ++ text.dropWhile (· != letter)
  else
    let text := fixed ((digits : Int) - 1 - e).toNat x
    if keeps then text else shortened text

end Fraction

end LtoBridge.Programs
