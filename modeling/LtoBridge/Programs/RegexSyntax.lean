/-
**Regular expressions of programs.**

There are basic expressions, where most operators have a backslash before them, and extended ones,
where a backslash makes them plain characters.

Main definitions:

* `LtoBridge.Programs.RegexSyntax`: the ways to write an expression;
* `LtoBridge.Programs.RegexSyntax.parse?`: read an expression.
-/

import LtoBridge.Programs.Text
import LtoBridge.Text.Regex

set_option autoImplicit false

namespace LtoBridge.Programs

open LtoBridge.Text (Regex CharSet Edge)

/-- A way to write expressions. -/
structure RegexSyntax where
  extended : Bool
  /-- Do letters after a backslash stand for control characters? -/
  controls : Bool := false
  /-- Does a backslash within brackets count like one outside? -/
  escapedSets : Bool := false

namespace RegexSyntax

/-! ### Sets -/

/-- The control character that a letter after a backslash stands for. -/
def control? : Char → Option Char
  | 'a' => some '\x07'
  | 'f' => some '\x0c'
  | 'n' => some '\n'
  | 'r' => some '\r'
  | 't' => some '\t'
  | 'v' => some '\x0b'
  | _ => none

/-- A member of a set: its ranges, whether it is a single character, and what follows it. -/
def member? (y : RegexSyntax) (text : Text) : Option (List (Char × Char) × Bool × Text) :=
  match text with
  | '[' :: ':' :: rest => do
      let (name, rest) ← Text.cutAt? ":]".toList rest
      let ranges ← CharSet.named? (String.ofList name)
      some (ranges, false, rest)
  | '[' :: '.' :: c :: '.' :: ']' :: rest | '[' :: '=' :: c :: '=' :: ']' :: rest =>
      some ([(c, c)], true, rest)
  | '\\' :: c :: rest =>
      if y.escapedSets then some ([((control? c).getD c, (control? c).getD c)], true, rest)
      else if y.controls then
        match control? c with
        | some d => some ([(d, d)], true, rest)
        | none => some ([('\\', '\\')], true, c :: rest)
      else some ([('\\', '\\')], true, c :: rest)
  | c :: rest => some ([(c, c)], true, rest)
  | [] => none

/-- The ranges of a set up to its bracket, and what follows that.  A member takes at least one
character, so the length of the text is enough fuel. -/
def members? (y : RegexSyntax) :
    (fuel : Nat) → (isFirst : Bool) → Text → Option (List (Char × Char) × Text)
  | 0, _, _ => none
  | fuel + 1, isFirst, text =>
      match text, isFirst with
      | ']' :: rest, false => some ([], rest)
      | _, _ => do
          let (ranges, isSingle, rest) ← y.member? text
          let plain : Option (List (Char × Char) × Text) := do
            let (others, rest) ← y.members? fuel false rest
            some (ranges ++ others, rest)
          match ranges, isSingle, rest with
          | [(low, _)], true, '-' :: next :: after =>
              if next = ']' then plain
              else do
                let (upper, isSingle, rest) ← y.member? (next :: after)
                match upper, isSingle with
                | [(_, high)], true =>
                    if low ≤ high then do
                      let (others, rest) ← y.members? fuel false rest
                      some ((low, high) :: others, rest)
                    else none
                | _, _ => none
          | _, _, _ => plain

/-- The set after an opening bracket, and what follows it. -/
def set? (y : RegexSyntax) (text : Text) : Option (CharSet × Text) := do
  let (complement, text) := match text with
    | '^' :: rest => (true, rest)
    | _ => (false, text)
  let (ranges, rest) ← y.members? (text.length + 1) true text
  some ({ ranges, complement }, rest)

/-! ### Operators -/

/-- The parts of an expression between sets and plain characters. -/
inductive Operator
  | opens
  | closes
  | or
  | star
  | plus
  | optional
  | count
  deriving DecidableEq

/-- The operator at the beginning of a text, and what follows it. -/
def operator? (y : RegexSyntax) (text : Text) : Option (Operator × Text) :=
  let sign (c : Char) : Option Operator := match c with
    | '(' => some .opens
    | ')' => some .closes
    | '|' => some .or
    | '+' => some .plus
    | '?' => some .optional
    | '\x7b' => some .count
    | _ => none
  match text with
  | '*' :: rest => some (.star, rest)
  | '\\' :: c :: rest => if y.extended then none else (sign c).map (·, rest)
  | c :: rest => if y.extended then (sign c).map (·, rest) else none
  | [] => none

/-- The numbers in braces, and what follows the brace. -/
def bounds? (y : RegexSyntax) (text : Text) : Option (Nat × Option Nat × Text) := do
  let least := text.takeWhile Char.isDigit
  let rest := text.drop least.length
  let (most, rest) := match rest with
    | ',' :: rest =>
        let digits := rest.takeWhile Char.isDigit
        (Text.number? digits, rest.drop digits.length)
    | _ => (some (Text.ofDigits 10 least), rest)
  let rest ← match rest with
    | '\\' :: '\x7d' :: rest => if y.extended then none else some rest
    | '\x7d' :: rest => if y.extended then some rest else none
    | _ => none
  if most.any (· < Text.ofDigits 10 least) then none
  else some (Text.ofDigits 10 least, most, rest)

/-- The rounds that operators after an expression ask for, and what follows them. -/
def repeated? (y : RegexSyntax) : (fuel : Nat) → Regex → Text → Option (Regex × Text)
  | 0, _, _ => none
  | fuel + 1, r, text =>
      match y.operator? text with
      | some (.star, rest) => y.repeated? fuel (.star true r) rest
      | some (.plus, rest) => y.repeated? fuel (.plus true r) rest
      | some (.optional, rest) => y.repeated? fuel (.optional true r) rest
      | some (.count, rest) =>
          match y.bounds? rest with
          | some (least, most, rest) => y.repeated? fuel (.counted true least most r) rest
          | none => if y.extended then some (r, text) else none
      | _ => some (r, text)

/-- What a letter after a backslash stands for, if it is none of the operators. -/
def escaped (y : RegexSyntax) (c : Char) : Regex :=
  let others (ranges : List (Char × Char)) : Regex := .one { ranges, complement := true }
  match c with
  | 'w' => .one { ranges := CharSet.wordChars }
  | 'W' => others CharSet.wordChars
  | 's' => .one { ranges := CharSet.blanks }
  | 'S' => others CharSet.blanks
  | '<' => .edge .wordStart
  | '>' => .edge .wordEnd
  | 'b' => .edge .wordEdge
  | 'B' => .edge .noWordEdge
  | '\'' => .edge .textEnd
  | c =>
      if c = Char.ofNat 96 then .edge .textStart
      else if '1' ≤ c ∧ c ≤ '9' then .again (c.toNat - 48)
      else if y.controls then .char ((control? c).getD c)
      else .char c

/-! ### Expressions -/

/-- Can an expression end here? -/
def isEnd (y : RegexSyntax) (text : Text) : Bool :=
  text.isEmpty || match y.operator? text with
    | some (.or, _) | some (.closes, _) => true
    | _ => false

mutual

/-- Alternatives, the groups in which are numbered from `group` on.  Each part takes at least one
character, so the length of the text is enough fuel. -/
def alternatives? (y : RegexSyntax) : (fuel depth group : Nat) → Text →
    Option (Regex × Nat × Text)
  | 0, _, _, _ => none
  | fuel + 1, depth, group, text => do
      let (first, group, rest) ← y.sequence? fuel depth group true text
      match y.operator? rest with
      | some (.or, rest) => do
          let (others, group, rest) ← y.alternatives? fuel depth group rest
          some (.either first others, group, rest)
      | _ => some (first, group, rest)

/-- Expressions one after the other; `isFirst` holds at the beginning of an alternative. -/
def sequence? (y : RegexSyntax) : (fuel depth group : Nat) → (isFirst : Bool) → Text →
    Option (Regex × Nat × Text)
  | 0, _, _, _, _ => none
  | fuel + 1, depth, group, isFirst, text =>
      let follow (r : Regex) (group : Nat) (isFirst : Bool) (rest : Text) :
          Option (Regex × Nat × Text) := do
        let (others, group, rest) ← y.sequence? fuel depth group isFirst rest
        some (.both r others, group, rest)
      let unit (r : Regex) (group : Nat) (rest : Text) : Option (Regex × Nat × Text) := do
        let (r, rest) ← y.repeated? (rest.length + 1) r rest
        follow r group false rest
      if text.isEmpty then some (.empty, group, [])
      else match y.operator? text with
        | some (.or, _) => some (.empty, group, text)
        | some (.closes, rest) =>
            if depth = 0 then if y.extended then unit (.char ')') group rest else none
            else some (.empty, group, text)
        | some (.opens, rest) => do
            let (r, next, rest) ← y.alternatives? fuel (depth + 1) (group + 1) rest
            match y.operator? rest with
            | some (.closes, rest) => unit (.group group r) next rest
            | _ => none
        | some (.star, rest) => if isFirst then unit (.char '*') group rest else none
        | some (.plus, rest) => if isFirst ∧ y.extended then unit (.char '+') group rest else none
        | some (.optional, rest) =>
            if isFirst ∧ y.extended then unit (.char '?') group rest else none
        | some (.count, rest) => if y.extended then unit (.char '\x7b') group rest else none
        | none =>
            match text with
            | '[' :: rest => do
                let (set, rest) ← y.set? rest
                unit (.one set) group rest
            | '.' :: rest => unit (.one .all) group rest
            | '^' :: rest =>
                if y.extended then unit (.edge .textStart) group rest
                else if isFirst then follow (.edge .textStart) group true rest
                else unit (.char '^') group rest
            | '$' :: rest =>
                if y.extended then unit (.edge .textEnd) group rest
                else if y.isEnd rest then follow (.edge .textEnd) group false rest
                else unit (.char '$') group rest
            | '\\' :: c :: rest => unit (y.escaped c) group rest
            | ['\\'] => none
            | c :: rest => unit (.char c) group rest
            | [] => some (.empty, group, [])

end

/-- Read an expression. -/
def parse? (y : RegexSyntax) (text : Text) : Option Regex :=
  match y.alternatives? (3 * text.length + 3) 0 1 text with
  | some (r, _, []) => some r
  | _ => none

end RegexSyntax

end LtoBridge.Programs
