/-
**Arithmetic of a shell.**

Numbers are those of 64 bits.  Names stand for the values of variables, and expressions can assign
values to them.

Main definitions:

* `LtoBridge.Shell.Arithmetic.Expression`;
* `LtoBridge.Shell.Arithmetic.read`: the expression that a text stands for;
* `LtoBridge.Shell.Arithmetic.evaluate`: its value, and the values that it assigns to names.
-/

import LtoBridge.Programs.Format
import LtoBridge.Shell.Syntax

set_option autoImplicit false

namespace LtoBridge.Shell.Arithmetic

open LtoBridge.Programs (Text)

/-- An expression. -/
inductive Expression
  | number (n : Int)
  | name (text : Text)
  | unary (sign : Char) (a : Expression)
  | binary (sign : String) (a b : Expression)
  | choice (a yes no : Expression)
  /-- Assign a value, or what a sign makes of the value before and the given one. -/
  | assign (name : Text) (sign : String) (a : Expression)
  /-- Add a number to a variable; the value is the one after that, or the one before. -/
  | increase (name : Text) (by_ : Int) (after : Bool)

/-! ### Numbers -/

/-- A number as a machine word holds it. -/
def wrap (n : Int) : Int := Int.bmod n 0x10000000000000000

/-- The nearest number that a machine word can hold. -/
def clamp (n : Int) : Int := max (-0x8000000000000000) (min 0x7FFFFFFFFFFFFFFF n)

/-- A number as its bits. -/
def bits (n : Int) : BitVec 64 := BitVec.ofInt 64 n

/-- One for true, zero for false. -/
def truth (b : Bool) : Int := if b then 1 else 0

/-- The number of places to shift by. -/
def places (n : Int) : Nat := (Int.emod n 64).toNat

/-- A number to some power. -/
def power (a : Int) : Nat → Int
  | 0 => 1
  | n + 1 => wrap (a * power a n)

/-- The value of two operands; division by zero has none. -/
def apply (sign : String) (a b : Int) : Except String Int :=
  match sign with
  | "|" => .ok (bits a ||| bits b).toInt
  | "^" => .ok (bits a ^^^ bits b).toInt
  | "&" => .ok (bits a &&& bits b).toInt
  | "==" => .ok (truth (a == b))
  | "!=" => .ok (truth (a != b))
  | "<" => .ok (truth (a < b))
  | ">" => .ok (truth (b < a))
  | "<=" => .ok (truth (a ≤ b))
  | ">=" => .ok (truth (b ≤ a))
  | "<<" => .ok (bits a <<< places b).toInt
  | ">>" => .ok ((bits a).sshiftRight (places b)).toInt
  | "+" => .ok (wrap (a + b))
  | "-" => .ok (wrap (a - b))
  | "*" => .ok (wrap (a * b))
  | "**" => if b < 0 then .error "exponent less than 0" else .ok (power a b.toNat)
  | "/" => if b = 0 then .error "division by zero" else .ok (wrap (Int.tdiv a b))
  | "%" => if b = 0 then .error "division by zero" else .ok (Int.tmod a b)
  | _ => .ok b

/-! ### Reading -/

/-- Skip blanks. -/
def trimmed (text : Text) : Text := text.dropWhile Text.isSpace

/-- The signs between two operands, and how strongly they bind. -/
def binarySigns (d : Dialect) : List (String × Nat) :=
  (if d = .rich then [("**", 11)] else []) ++
  [("||", 1), ("&&", 2), ("==", 6), ("!=", 6), ("<=", 7), (">=", 7), ("<<", 8), (">>", 8),
    ("|", 3), ("^", 4), ("&", 5), ("<", 7), (">", 7), ("+", 9), ("-", 9), ("*", 10), ("/", 10),
    ("%", 10)]

/-- The signs that assign a value. -/
def assigningSigns : List String :=
  ["<<=", ">>=", "+=", "-=", "*=", "/=", "%=", "|=", "&=", "^="]

/-- The sign between two operands at the beginning of a text. -/
def binarySign? (d : Dialect) (text : Text) : Option (String × Nat) :=
  if assigningSigns.any (·.toList.isPrefixOf text) then none
  else (binarySigns d).find? fun s => s.1.toList.isPrefixOf text

/-- The sign that assigns a value at the beginning of a text: the operation that it applies, and
how long it is. -/
def assigningSign? (text : Text) : Option (String × Nat) :=
  match text with
  | '=' :: '=' :: _ => none
  | '=' :: _ => some ("=", 1)
  | _ => (assigningSigns.find? fun s => s.toList.isPrefixOf text).map fun s =>
      (String.ofList s.toList.dropLast, s.length)

/-- The numeral at the beginning of a text, and what follows it. -/
def numeral (d : Dialect) (text : Text) : Int × Text :=
  let (n, rest) := LtoBridge.Programs.Format.unsigned text
  match d, rest with
  | .rich, '#' :: digits =>
      let taken := digits.takeWhile fun c => Text.digitValue c < n
      (wrap (Text.ofDigits n taken), digits.drop taken.length)
  | _, _ => (clamp n, rest)

mutual

/-- Read an expression, which may assign a value or choose between two. -/
def whole (d : Dialect) : (fuel : Nat) → Text → Except String (Expression × Text)
  | 0, _ => .error "expression too long"
  | fuel + 1, text => do
      let text := trimmed text
      let name := if text.head?.any isNameStart then text.takeWhile isNameChar else []
      let after := trimmed (text.drop name.length)
      match if name.isEmpty then none else assigningSign? after with
      | some (sign, size) => do
          let (a, rest) ← whole d fuel (after.drop size)
          return (.assign name sign a, rest)
      | none => do
          let (a, rest) ← operand d fuel text
          let (a, rest) ← following d fuel 1 a rest
          match trimmed rest with
          | '?' :: rest => do
              let (yes, rest) ← whole d fuel rest
              match trimmed rest with
              | ':' :: rest => do
                  let (no, rest) ← whole d fuel rest
                  return (.choice a yes no, rest)
              | _ => .error "expecting ':'"
          | rest => return (a, rest)

/-- Read what follows an operand, as far as it binds at least as strongly as `least`. -/
def following (d : Dialect) : (fuel least : Nat) → Expression → Text →
    Except String (Expression × Text)
  | 0, _, _, _ => .error "expression too long"
  | fuel + 1, least, a, text =>
      let text := trimmed text
      match binarySign? d text with
      | none => .ok (a, text)
      | some (sign, strength) =>
          if strength < least then .ok (a, text)
          else do
            let (b, rest) ← operand d fuel (text.drop sign.length)
            let (b, rest) ← following d fuel (if sign = "**" then strength else strength + 1) b rest
            following d fuel least (.binary sign a b) rest

/-- Read an operand. -/
def operand (d : Dialect) : (fuel : Nat) → Text → Except String (Expression × Text)
  | 0, _ => .error "expression too long"
  | fuel + 1, text =>
      let text := trimmed text
      let step (by_ : Int) (rest : Text) : Option (Expression × Text) :=
        let rest := trimmed rest
        let name := rest.takeWhile isNameChar
        if d = .rich ∧ isName name then some (.increase name by_ true, rest.drop name.length)
        else none
      let unary (sign : Char) (rest : Text) : Except String (Expression × Text) := do
        let (a, rest) ← operand d fuel rest
        return (.unary sign a, rest)
      match text with
      | '(' :: rest => do
          let (a, rest) ← whole d fuel rest
          match trimmed rest with
          | ')' :: rest => return (a, rest)
          | _ => .error "expecting ')'"
      | '+' :: '+' :: rest => match step 1 rest with
          | some r => .ok r
          | none => unary '+' ('+' :: rest)
      | '-' :: '-' :: rest => match step (-1) rest with
          | some r => .ok r
          | none => unary '-' ('-' :: rest)
      | c :: rest =>
          if c = '+' ∨ c = '-' ∨ c = '!' ∨ c = '~' then unary c rest
          else if c.isDigit then
            let (n, rest) := numeral d text
            .ok (.number n, rest)
          else if isNameStart c then
            let name := text.takeWhile isNameChar
            let rest := text.drop name.length
            match d, rest with
            | .rich, '+' :: '+' :: rest => .ok (.increase name 1 false, rest)
            | .rich, '-' :: '-' :: rest => .ok (.increase name (-1) false, rest)
            | _, _ => .ok (.name name, rest)
          else .error "expecting primary"
      | [] => .error "expecting primary"

end

/-- Read expressions with commas between them, after the one that is given. -/
def others (d : Dialect) : (fuel : Nat) → Expression → Text → Except String Expression
  | 0, _, _ => .error "expression too long"
  | fuel + 1, a, text =>
      match d, trimmed text with
      | _, [] => .ok a
      | .rich, ',' :: rest => do
          let (b, rest) ← whole d (8 * rest.length + 8) rest
          others d fuel (.binary "," a b) rest
      | _, _ => .error "expecting EOF"

/-- The expression that a text stands for. -/
def read (d : Dialect) (text : Text) : Except String Expression :=
  if d = .rich ∧ trimmed text = [] then .ok (.number 0)
  else do
    let (a, rest) ← whole d (8 * text.length + 8) text
    others d (text.length + 1) a rest

/-! ### Evaluation -/

/-- A step that may assign values to names, the last one first. -/
abbrev Step := StateT (List (Text × Int)) (Except String)

/-- The number that the text of a value stands for. -/
def number? (text : Text) : Option Int :=
  let digits := Text.trimmed text
  if digits.isEmpty then some 0
  else match Programs.Format.integerOf true digits with
    | (n, true) => if digits.head?.any fun c => c == '\'' || c == '"' then none else some n
    | _ => none

mutual

/-- The value of a name, whose text can be an expression itself. -/
def valueOf (d : Dialect) (values : Text → Option Text) : (fuel : Nat) → (name : Text) → Step Int
  | 0, _ => throw "expression recursion level exceeded"
  | fuel + 1, name => do
      match (← get).lookup name with
      | some n => return n
      | none =>
          let text := (values name).getD []
          match number? text with
          | some n => return n
          | none =>
              if d = .plain then throw ("Illegal number: " ++ String.ofList text)
              else do
                let e ← read d text
                evaluateFrom d values fuel e

/-- The value of an expression.  The fuel bounds how deep expressions and values of names are
nested. -/
def evaluateFrom (d : Dialect) (values : Text → Option Text) : (fuel : Nat) → Expression → Step Int
  | 0, _ => throw "expression recursion level exceeded"
  | fuel + 1, e => do
      let put (name : Text) (n : Int) : Step Int := do
        modify ((name, n) :: ·)
        return n
      match e with
      | .number n => return n
      | .name name => valueOf d values fuel name
      | .unary sign a => do
          let n ← evaluateFrom d values fuel a
          match sign with
          | '-' => return wrap (-n)
          | '!' => return truth (n == 0)
          | '~' => return -n - 1
          | _ => return n
      | .binary "||" a b => do
          if (← evaluateFrom d values fuel a) ≠ 0 then return 1
          else return truth ((← evaluateFrom d values fuel b) != 0)
      | .binary "&&" a b => do
          if (← evaluateFrom d values fuel a) = 0 then return 0
          else return truth ((← evaluateFrom d values fuel b) != 0)
      | .binary sign a b => do
          let m ← evaluateFrom d values fuel a
          let n ← evaluateFrom d values fuel b
          apply sign m n
      | .choice a yes no => do
          if (← evaluateFrom d values fuel a) ≠ 0 then evaluateFrom d values fuel yes
          else evaluateFrom d values fuel no
      | .assign name "=" a => do put name (← evaluateFrom d values fuel a)
      | .assign name sign a => do
          let m ← valueOf d values fuel name
          let n ← evaluateFrom d values fuel a
          put name (← apply sign m n)
      | .increase name by_ after => do
          let m ← valueOf d values fuel name
          let n ← put name (wrap (m + by_))
          return if after then n else m

end

/-- The value of an expression, and the values that it assigns to names, the last one first. -/
def evaluate (d : Dialect) (values : Text → Option Text) (text : Text) :
    Except String (Int × List (Text × Int)) := do
  let e ← read d text
  (evaluateFrom d values (text.length + 1024) e).run []

end LtoBridge.Shell.Arithmetic
