/-
**The words of a program for records.**

A slash begins a pattern where no operand stands before it.

Main definitions:

* `LtoBridge.Awk.Token`: names, signs, numbers, texts and patterns;
* `LtoBridge.Awk.tokens?`: the tokens of a source.
-/

import LtoBridge.Programs.Decimal
import LtoBridge.Programs.Format

set_option autoImplicit false

namespace LtoBridge.Awk

open LtoBridge.Programs (Text Fraction Escapes)

/-- A token. -/
inductive Token
  | number (digits : Text)
  | text (t : Text)
  | pattern (regex : Text)
  | name (t : Text)
  /-- A name that is followed by a bracket at once. -/
  | called (t : Text)
  | keyword (word : String)
  | builtin (name : String)
  | sign (s : String)
  | newline
  deriving DecidableEq

/-- Words with a meaning of their own. -/
def keywords : List String :=
  ["BEGIN", "END", "function", "func", "if", "else", "while", "for", "do", "break", "continue",
    "next", "nextfile", "exit", "return", "delete", "in", "getline", "print", "printf"]

/-- The functions that every program has. -/
def builtins : List String :=
  ["length", "substr", "index", "split", "sub", "gsub", "match", "sprintf", "toupper", "tolower",
    "system", "close", "fflush", "int", "sqrt", "exp", "log", "sin", "cos", "atan2", "rand",
    "srand"]

/-- Signs, the longer ones first. -/
def signs : List String :=
  ["&&", "||", "==", "!=", "<=", ">=", ">>", "++", "--", "+=", "-=", "*=", "/=", "%=", "^=",
    "!~", "\x7b", "\x7d", "(", ")", "[", "]", ";", ",", "+", "-", "*", "/", "%", "^", "!", ">",
    "<", "|", "?", ":", "~", "$", "="]

/-- Can an operand end with the token? -/
def Token.endsOperand : Token → Bool
  | .number _ | .text _ | .pattern _ | .name _ | .builtin _ => true
  | .sign s => [")", "]", "$", "++", "--"].contains s
  | _ => false

/-- A text up to the quote that ends it, and what follows that. -/
def quoted? : (fuel : Nat) → (found : Text) → Text → Option (Text × Text)
  | 0, _, _ => none
  | fuel + 1, found, text =>
      match text with
      | [] | '\n' :: _ => none
      | '"' :: rest => some (found.reverse, rest)
      | '\\' :: '"' :: rest => quoted? fuel ('"' :: found) rest
      | '\\' :: '\n' :: rest => quoted? fuel found rest
      | '\\' :: rest =>
          match ({} : Escapes).after? rest with
          | some (t, rest) => quoted? fuel (t.reverse ++ found) rest
          | none => quoted? fuel ('\\' :: found) rest
      | c :: rest => quoted? fuel (c :: found) rest

/-- A pattern up to the slash that ends it, and what follows that. -/
def patternAt? : (bracket : Bool) → (found : Text) → Text → Option (Text × Text)
  | _, _, [] => none
  | _, _, '\n' :: _ => none
  | bracket, found, '\\' :: '/' :: rest => patternAt? bracket ('/' :: found) rest
  | bracket, found, '\\' :: c :: rest => patternAt? bracket (c :: '\\' :: found) rest
  | false, found, '/' :: rest => some (found.reverse, rest)
  | bracket, found, c :: rest =>
      patternAt? (if c = '[' then true else if c = ']' then false else bracket) (c :: found) rest

/-- The number at the beginning of a text, as its digits. -/
def numberAt? (text : Text) : Option (Text × Text) :=
  let whole := text.takeWhile Char.isDigit
  let (fraction, rest) := match text.drop whole.length with
    | '.' :: rest => ('.' :: rest.takeWhile Char.isDigit, rest.dropWhile Char.isDigit)
    | rest => ([], rest)
  if whole.isEmpty ∧ fraction.length < 2 then none
  else
    let (exponent, rest) := match rest with
      | e :: rest' =>
          let sign := rest'.takeWhile fun c => c == '+' || c == '-'
          let digits := (rest'.drop sign.length).takeWhile Char.isDigit
          if (e = 'e' ∨ e = 'E') ∧ sign.length < 2 ∧ ¬ digits.isEmpty then
            (e :: sign ++ digits, rest'.drop (sign.length + digits.length))
          else ([], rest)
      | [] => ([], [])
    some (whole ++ fraction ++ exponent, rest)

/-- Is the character part of a name? -/
def isNameChar (c : Char) : Bool := c.isAlphanum || c == '_'

/-- The next token, which follows the given one, and what follows it. -/
def nextToken? (before : Option Token) (text : Text) : Option (Token × Text) :=
  match text with
  | [] => none
  | '\n' :: rest => some (.newline, rest)
  | '"' :: rest => (quoted? (rest.length + 1) [] rest).map fun (t, rest) => (.text t, rest)
  | c :: rest =>
      if c = '/' ∧ ¬ before.any Token.endsOperand then
        (patternAt? false [] rest).map fun (t, rest) => (.pattern t, rest)
      else if c.isDigit ∨ (c = '.' ∧ (rest.head?.any Char.isDigit)) then
        (numberAt? text).map fun (digits, rest) => (.number digits, rest)
      else if c.isAlpha ∨ c = '_' then
        let name := text.takeWhile isNameChar
        let rest := text.drop name.length
        let word := String.ofList name
        if keywords.contains word then some (.keyword word, rest)
        else if builtins.contains word then some (.builtin word, rest)
        else if rest.head? = some '(' then some (.called name, rest)
        else some (.name name, rest)
      else (signs.find? fun s => s.toList.isPrefixOf text).map fun s =>
        (.sign s, text.drop s.length)

/-- The tokens of a source, each of which takes a character at least. -/
def tokensFrom? : (fuel : Nat) → (before : Option Token) → Text → Option (List Token)
  | 0, _, _ => none
  | fuel + 1, before, text =>
      match text with
      | [] => some []
      | '\\' :: '\n' :: rest => tokensFrom? fuel before rest
      | '#' :: rest => tokensFrom? fuel before (rest.dropWhile (· != '\n'))
      | c :: rest =>
          if c = ' ' ∨ c = '\t' ∨ c = '\r' then tokensFrom? fuel before rest
          else do
            let (t, rest) ← nextToken? before (c :: rest)
            let others ← tokensFrom? fuel (some t) rest
            some (t :: others)

/-- The tokens of a source. -/
def tokens? (text : Text) : Option (List Token) := tokensFrom? (text.length + 1) none text

end LtoBridge.Awk
