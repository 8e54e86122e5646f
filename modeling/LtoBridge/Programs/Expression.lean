/-
**Expressions given as arguments.**

Main definitions:

* `LtoBridge.Programs.expr`: the value of an expression whose parts are arguments.
-/

import LtoBridge.Programs.Extract
import LtoBridge.Programs.RegexSyntax

set_option autoImplicit false

namespace LtoBridge.Programs

namespace Expr

/-- A value that is no number where one is needed, or a mistake in the expression. -/
abbrev Failure := Nat × Text

/-- Is a value empty or zero? -/
def isNull (v : Text) : Bool :=
  v.isEmpty || match Text.integer? v with
    | some n => n == 0 && v.head? != some '+'
    | none => false

/-- The number that a value is. -/
def number? (v : Text) : Option Int := if v.head? = some '+' then none else Text.integer? v

/-- One for true, zero for false. -/
def truth (b : Bool) : Text := if b then ['1'] else ['0']

/-- The part of a text that an expression fits at its beginning: the one kept by its first group,
or else its length. -/
def matched (text pattern : Text) : Except Failure Text :=
  match RegexSyntax.parse? { extended := false } pattern with
  | none => .error (2, "expr: Invalid regular expression".toList)
  | some regex =>
      let pattern := String.ofList pattern
      let hasGroup := (pattern.splitOn "\\(").length > 1
      match LtoBridge.Text.Regex.farthest? (regex.ends { before := [], after := text }) with
      | none => .ok (if hasGroup then [] else ['0'])
      | some spot =>
          .ok (if hasGroup then (spot.group? 1).getD [] else Text.decimal spot.position)

/-- How strongly a sign between two values binds. -/
def strength? : String → Option Nat
  | "|" => some 1
  | "&" => some 2
  | "<" | "<=" | "=" | "==" | "!=" | ">=" | ">" => some 3
  | "+" | "-" => some 4
  | "*" | "/" | "%" => some 5
  | ":" => some 6
  | _ => none

/-- The value of two values with a sign between them. -/
def apply (sign : String) (a b : Text) : Except Failure Text :=
  let notNumber : Except Failure Text := .error (2, "expr: non-integer argument".toList)
  let order : Ordering := match number? a, number? b with
    | some m, some n => compareOfLessAndEq m n
    | _, _ => if a = b then .eq else if Text.precedes a b then .lt else .gt
  match sign with
  | "|" => .ok (if ¬ isNull a then a else if isNull b then ['0'] else b)
  | "&" => .ok (if isNull a ∨ isNull b then ['0'] else a)
  | "<" => .ok (truth (order == .lt))
  | "<=" => .ok (truth (order != .gt))
  | "=" | "==" => .ok (truth (order == .eq))
  | "!=" => .ok (truth (order != .eq))
  | ">=" => .ok (truth (order != .lt))
  | ">" => .ok (truth (order == .gt))
  | ":" => matched a b
  | sign =>
      match number? a, number? b with
      | some m, some n =>
          match sign with
          | "+" => .ok (Text.signedDecimal (m + n))
          | "-" => .ok (Text.signedDecimal (m - n))
          | "*" => .ok (Text.signedDecimal (m * n))
          | _ =>
              if n = 0 then .error (2, "expr: division by zero".toList)
              else .ok (Text.signedDecimal (if sign = "/" then m.tdiv n else m.tmod n))
      | _, _ => notNumber

mutual

/-- Read an expression whose signs bind at least as strongly as `least`. -/
def whole : (fuel least : Nat) → List Text → Except Failure (Text × List Text)
  | 0, _, _ => .error (2, "expr: syntax error".toList)
  | fuel + 1, least, words => do
      let (a, rest) ← operand fuel words
      following fuel least a rest

/-- Read what follows a value. -/
def following : (fuel least : Nat) → Text → List Text → Except Failure (Text × List Text)
  | 0, _, _, _ => .error (2, "expr: syntax error".toList)
  | fuel + 1, least, a, words =>
      match words with
      | [] => .ok (a, [])
      | sign :: rest =>
          match strength? (String.ofList sign) with
          | none => .ok (a, words)
          | some s =>
              if s < least then .ok (a, words)
              else do
                let (b, rest) ← whole fuel (s + 1) rest
                let c ← apply (String.ofList sign) a b
                following fuel least c rest

/-- Read a value. -/
def operand : (fuel : Nat) → List Text → Except Failure (Text × List Text)
  | 0, _ => .error (2, "expr: syntax error".toList)
  | fuel + 1, words =>
      match words with
      | [] => .error (2, "expr: syntax error: missing argument".toList)
      | word :: rest =>
          match String.ofList word, rest with
          | "(", _ => do
              let (a, rest) ← whole fuel 1 rest
              match rest with
              | [')'] :: rest => .ok (a, rest)
              | _ => .error (2, "expr: syntax error: expecting ')'".toList)
          | "+", next :: rest => .ok (next, rest)
          | "length", _ :: _ => do
              let (a, rest) ← operand fuel rest
              .ok (Text.decimal a.length, rest)
          | "match", _ :: _ => do
              let (a, rest) ← operand fuel rest
              let (b, rest) ← operand fuel rest
              .ok (← matched a b, rest)
          | "index", _ :: _ => do
              let (a, rest) ← operand fuel rest
              let (b, rest) ← operand fuel rest
              let n := a.findIdx b.contains
              .ok (Text.decimal (if n < a.length then n + 1 else 0), rest)
          | "substr", _ :: _ => do
              let (a, rest) ← operand fuel rest
              let (b, rest) ← operand fuel rest
              let (c, rest) ← operand fuel rest
              match number? b, number? c with
              | some m, some n =>
                  .ok (if m ≤ 0 ∨ n ≤ 0 then [] else (a.drop (m.toNat - 1)).take n.toNat, rest)
              | _, _ => .ok ([], rest)
          | _, _ => .ok (word, rest)

end

end Expr

/-- Show the value of an expression. -/
def expr : Tool := fun arguments j =>
  let words := match arguments with
    | ['-', '-'] :: rest => rest
    | arguments => arguments
  match words with
  | [] => (2, j.complain "expr: missing operand".toList)
  | _ =>
      match Expr.whole (8 * words.length + 8) 1 words with
      | .error (status, complaint) => (status, j.complain complaint)
      | .ok (value, []) => (if Expr.isNull value then 1 else 0, j.print (value ++ ['\n']))
      | .ok (_, next :: _) =>
          (2, j.complain ("expr: syntax error: unexpected argument ".toList ++ quotedName next))

end LtoBridge.Programs
