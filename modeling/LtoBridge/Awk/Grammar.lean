/-
**Reading a program for records.**

Main definitions:

* `LtoBridge.Awk.Reader`: readers of tokens, which may fail;
* `LtoBridge.Awk.Script.parse?`: read a program.
-/

import LtoBridge.Awk.Source
import LtoBridge.Awk.Syntax

set_option autoImplicit false

namespace LtoBridge.Awk

open LtoBridge.Programs (Text)

/-- A reader of tokens, which may fail. -/
abbrev Reader := StateT (List Token) Option

namespace Reader

/-- The next token, which stays. -/
def peek : Reader (Option Token) := do return (← get).head?

/-- Is the next token a given one?  If so, it is taken. -/
def takes (t : Token) : Reader Bool := do
  match ← get with
  | u :: rest => if u = t then do set rest; return true else return false
  | [] => return false

/-- Take a token that has to be there. -/
def expect (t : Token) : Reader Unit := do
  if ← takes t then return else failure

/-- Take a sign that has to be there. -/
def sign (s : String) : Reader Unit := expect (.sign s)

/-- Skip ends of lines. -/
def skipLines : Reader Unit := modify fun tokens => tokens.dropWhile (· == .newline)

/-- Skip ends of lines and of statements. -/
def skipEnds : Reader Unit :=
  modify fun tokens => tokens.dropWhile fun t => t == .newline || t == .sign ";"

/-- Take a name. -/
def name : Reader Text := do
  match ← get with
  | .name t :: rest => do set rest; return t
  | _ => failure

end Reader

open Reader

/-- Can the expression be set? -/
def Expression.isTarget : Expression → Bool
  | .variable _ | .item _ _ | .field _ => true
  | _ => false

/-- The operator that a sign of assignment has. -/
def updating? : Token → Option Operator
  | .sign "+=" => some .plus
  | .sign "-=" => some .minus
  | .sign "*=" => some .times
  | .sign "/=" => some .dividedBy
  | .sign "%=" => some .modulo
  | .sign "^=" => some .power
  | _ => none

/-- How many levels of operators with two operands there are. -/
def levels : Nat := 8

/-- The operator of a level that a token is.  Level 0 binds least. -/
def operator? (level : Nat) (greater : Bool) (t : Token) : Option Operator :=
  match level, t with
  | 0, .sign "||" => some .or
  | 1, .sign "&&" => some .and
  | 3, .sign "~" => some .fits
  | 3, .sign "!~" => some .fitsNot
  | 4, .sign "<" => some .less
  | 4, .sign "<=" => some .atMost
  | 4, .sign "==" => some .equal
  | 4, .sign "!=" => some .different
  | 4, .sign ">" => if greater then some .more else none
  | 4, .sign ">=" => some .atLeast
  | 6, .sign "+" => some .plus
  | 6, .sign "-" => some .minus
  | 7, .sign "*" => some .times
  | 7, .sign "/" => some .dividedBy
  | 7, .sign "%" => some .modulo
  | _, _ => none

/-- Can an operand begin with the token, after another operand? -/
def beginsOperand : Token → Bool
  | .number _ | .text _ | .pattern _ | .name _ | .called _ | .builtin _ => true
  | .sign s => ["$", "!", "(", "++", "--"].contains s
  | _ => false

mutual

/-- An expression.  `greater` tells whether a sign can stand for a comparison that otherwise leads
output to a file, and `within` whether a word can ask for the keys of a table. -/
def expression (greater within : Bool) : (fuel : Nat) → Reader Expression
  | 0 => failure
  | fuel + 1 => do
      let a ← binary greater within fuel 0
      if ← takes (.sign "?") then do
        skipLines
        let b ← expression greater within fuel
        skipLines
        sign ":"
        skipLines
        let c ← expression greater within fuel
        return .choose a b c
      else if a.isTarget then do
        match ← peek with
        | some t =>
            if t = .sign "=" then do
              sign "="
              skipLines
              return .assign a (← expression greater within fuel)
            else match updating? t with
              | some op => do
                  expect t
                  skipLines
                  return .update op a (← expression greater within fuel)
              | none => return a
        | none => return a
      else return a

/-- Operators with two operands, from a level on. -/
def binary (greater within : Bool) : (fuel level : Nat) → Reader Expression
  | 0, _ => failure
  | fuel + 1, level => do
      if level ≥ levels then unary greater within fuel
      else do
        let a ← binary greater within fuel (level + 1)
        moreOperands greater within fuel level a

/-- What follows an operand on a level. -/
def moreOperands (greater within : Bool) : (fuel level : Nat) → Expression → Reader Expression
  | 0, _, _ => failure
  | fuel + 1, level, a => do
      match ← peek with
      | none => return a
      | some t =>
          match operator? level greater t with
          | some op => do
              expect t
              if op = .and ∨ op = .or then skipLines
              let b ← binary greater within fuel (level + 1)
              /- What is assigned after an operator reaches as far as it can. -/
              let b ← if b.isTarget then assigned greater within fuel b else pure b
              moreOperands greater within fuel level (.binary op a b)
          | none =>
              if level = 2 ∧ within ∧ t = .keyword "in" then do
                expect t
                let table ← name
                moreOperands greater within fuel level (.contains [a] table)
              else if level = 5 ∧ beginsOperand t then do
                let b ← binary greater within fuel 6
                moreOperands greater within fuel level (.binary .join a b)
              else if level = 4 ∧ t = .sign "|" then do
                match ← get with
                | _ :: .keyword "getline" :: rest => do
                    set rest
                    let target ← target? fuel
                    moreOperands greater within fuel level (.readLine true (some a) target)
                | _ => return a
              else return a

/-- An assignment to an operand, if a sign for that follows. -/
def assigned (greater within : Bool) : (fuel : Nat) → Expression → Reader Expression
  | 0, _ => failure
  | fuel + 1, a => do
      match ← peek with
      | some t =>
          if t = .sign "=" then do
            sign "="
            return .assign a (← expression greater within fuel)
          else match updating? t with
            | some op => do
                expect t
                return .update op a (← expression greater within fuel)
            | none => return a
      | none => return a

/-- An operand that can be set, if there is one. -/
def target? : (fuel : Nat) → Reader (Option Expression)
  | 0 => failure
  | fuel + 1 => do
      match ← peek with
      | some (.name _) | some (.sign "$") => do return some (← operand true fuel)
      | _ => return none

/-- Signs before an operand. -/
def unary (greater within : Bool) : (fuel : Nat) → Reader Expression
  | 0 => failure
  | fuel + 1 => do
      match ← get with
      | .sign "!" :: rest => do
          set rest
          return .not (← unary greater within fuel)
      | .sign "-" :: rest => do
          set rest
          return .negate (← unary greater within fuel)
      | .sign "+" :: rest => do
          set rest
          return .asNumber (← unary greater within fuel)
      | _ => do
          let a ← operand within fuel
          match ← peek with
          | some (.sign "^") => do
              modify List.tail
              return .binary .power a (← unary greater within fuel)
          | _ => return a

/-- An operand, with signs that count after it. -/
def operand (within : Bool) : (fuel : Nat) → Reader Expression
  | 0 => failure
  | fuel + 1 => do
      let a ← primary within fuel
      if a.isTarget then do
        if ← takes (.sign "++") then return .count .plus false a
        else if ← takes (.sign "--") then return .count .minus false a
        else return a
      else return a

/-- The simplest expressions. -/
def primary (within : Bool) : (fuel : Nat) → Reader Expression
  | 0 => failure
  | fuel + 1 => do
      match ← get with
      | .number digits :: rest => do set rest; return .number digits
      | .text t :: rest => do set rest; return .text t
      | .pattern t :: rest => do set rest; return .pattern t
      | .sign "$" :: rest => do
          set rest
          match ← peek with
          | some (.sign "++") | some (.sign "--") => return .field (← operand within fuel)
          | some (.sign "-") => do sign "-"; return .field (.negate (← primary within fuel))
          | _ => return .field (← primary within fuel)
      | .sign "++" :: rest => do
          set rest
          return .count .plus true (← primary within fuel)
      | .sign "--" :: rest => do
          set rest
          return .count .minus true (← primary within fuel)
      | .sign "!" :: _ | .sign "-" :: _ | .sign "+" :: _ => unary true within fuel
      | .sign "(" :: rest => do
          set rest
          skipLines
          let a ← expression true true fuel
          let others ← moreItems fuel
          skipLines
          sign ")"
          if others.isEmpty then return a
          else do
            expect (.keyword "in")
            return .contains (a :: others) (← name)
      | .name t :: rest => do
          set rest
          if ← takes (.sign "[") then do
            let key ← items fuel
            sign "]"
            return .item t key
          else return .variable t
      | .called t :: .sign "(" :: rest => do
          set rest
          let arguments ← bracketed fuel
          return .call t arguments
      | .builtin t :: rest => do
          set rest
          if ← takes (.sign "(") then return .builtin t (← bracketed fuel)
          else if t = "length" then return .builtin t []
          else failure
      | .keyword "getline" :: rest => do
          set rest
          let target ← target? fuel
          if ← takes (.sign "<") then return .readLine false (some (← primary within fuel)) target
          else return .readLine false none target
      | _ => failure

/-- Expressions up to a closing bracket. -/
def bracketed : (fuel : Nat) → Reader (List Expression)
  | 0 => failure
  | fuel + 1 => do
      skipLines
      if ← takes (.sign ")") then return []
      else do
        let found ← items fuel
        skipLines
        sign ")"
        return found

/-- Expressions with commas between them. -/
def items : (fuel : Nat) → Reader (List Expression)
  | 0 => failure
  | fuel + 1 => do
      let a ← expression true true fuel
      return a :: (← moreItems fuel)

/-- Expressions with commas before them. -/
def moreItems : (fuel : Nat) → Reader (List Expression)
  | 0 => failure
  | fuel + 1 => do
      if ← takes (.sign ",") then do
        skipLines
        let a ← expression true true fuel
        return a :: (← moreItems fuel)
      else return []

end

/-- Values to print, with commas between them. -/
def printed : (fuel : Nat) → Reader (List Expression)
  | 0 => failure
  | fuel + 1 => do
      let a ← expression false true fuel
      if ← takes (.sign ",") then do
        skipLines
        return a :: (← printed fuel)
      else return [a]

/-- Does a statement end before the token, or does output go somewhere else? -/
def endsPrinting : Option Token → Bool
  | none | some .newline => true
  | some (.sign s) => [";", "\x7d", ">", ">>", "|"].contains s
  | _ => false

/-- What to print: values in brackets, or others. -/
def printList (fuel : Nat) : Reader (List Expression) := do
  if endsPrinting (← peek) then return []
  else do
    let tokens ← get
    let inBrackets : Reader (List Expression) := do
      sign "("
      let found ← bracketed fuel
      if endsPrinting (← peek) then return found else failure
    match inBrackets.run tokens with
    | some (found, rest) => do set rest; return found
    | none => printed fuel

mutual

/-- A statement that needs no end of its own. -/
def simple : (fuel : Nat) → Reader Statement
  | 0 => failure
  | fuel + 1 => do
      match ← get with
      | .keyword "print" :: rest | .keyword "printf" :: rest => do
          let formatted := (← peek) == some (.keyword "printf")
          set rest
          let values ← printList fuel
          let route : Option Route := match ← peek with
            | some (.sign ">") => some .replace
            | some (.sign ">>") => some .append
            | some (.sign "|") => some .command
            | _ => none
          match route with
          | none => return .print formatted values none
          | some route => do
              modify List.tail
              let target ← expression false true fuel
              return .print formatted values (some (route, target))
      | .keyword "delete" :: rest => do
          set rest
          let table ← name
          if ← takes (.sign "[") then do
            let key ← items fuel
            sign "]"
            return .delete table key
          else return .delete table []
      | _ => return .evaluate (← expression true true fuel)

/-- A statement with its end. -/
def statement : (fuel : Nat) → Reader Statement
  | 0 => failure
  | fuel + 1 => do
      let finish (s : Statement) : Reader Statement := do
        match ← peek with
        | none | some (.sign "\x7d") => return s
        | some .newline | some (.sign ";") => do modify List.tail; return s
        | _ => failure
      let value? : Reader (Option Expression) := do
        match ← peek with
        | none | some .newline | some (.sign ";") | some (.sign "\x7d") => return none
        | _ => return some (← expression true true fuel)
      match ← get with
      | .sign "\x7b" :: _ => block fuel
      | .sign ";" :: rest => do set rest; return .block []
      | .keyword "if" :: rest => do
          set rest
          sign "("
          let condition ← expression true true fuel
          sign ")"
          skipLines
          let whenTrue ← statement fuel
          let tokens ← get
          skipEnds
          if ← takes (.keyword "else") then do
            skipLines
            return .choose condition whenTrue (← statement fuel)
          else do
            set tokens
            return .choose condition whenTrue (.block [])
      | .keyword "while" :: rest => do
          set rest
          sign "("
          let condition ← expression true true fuel
          sign ")"
          if ← takes (.sign ";") then return .loop condition (.block []) (.block [])
          else do
            skipLines
            return .loop condition (← statement fuel) (.block [])
      | .keyword "do" :: rest => do
          set rest
          skipLines
          let body ← statement fuel
          skipEnds
          expect (.keyword "while")
          sign "("
          let condition ← expression true true fuel
          sign ")"
          finish (.doLoop body condition)
      | .keyword "for" :: .sign "(" :: .name n :: .keyword "in" :: .name table :: .sign ")" ::
          rest => do
          set rest
          skipLines
          return .each n table (← statement fuel)
      | .keyword "for" :: .sign "(" :: rest => do
          set rest
          let first ← if (← peek) = some (.sign ";") then pure (.block []) else simple fuel
          sign ";"
          skipLines
          let condition ← if (← peek) = some (.sign ";") then pure (.number ['1'])
            else expression true true fuel
          sign ";"
          skipLines
          let step ← if (← peek) = some (.sign ")") then pure (.block []) else simple fuel
          sign ")"
          if ← takes (.sign ";") then return .block [first, .loop condition (.block []) step]
          else do
            skipLines
            return .block [first, .loop condition (← statement fuel) step]
      | .keyword "next" :: rest => do set rest; finish .next
      | .keyword "nextfile" :: rest => do set rest; finish .nextFile
      | .keyword "break" :: rest => do set rest; finish .break_
      | .keyword "continue" :: rest => do set rest; finish .continue_
      | .keyword "exit" :: rest => do set rest; finish (.exit (← value?))
      | .keyword "return" :: rest => do set rest; finish (.return_ (← value?))
      | _ => do finish (← simple fuel)

/-- Statements in braces. -/
def block : (fuel : Nat) → Reader Statement
  | 0 => failure
  | fuel + 1 => do
      sign "\x7b"
      return .block (← statements fuel)

/-- Statements up to a closing brace. -/
def statements : (fuel : Nat) → Reader (List Statement)
  | 0 => failure
  | fuel + 1 => do
      skipEnds
      if ← takes (.sign "\x7d") then return []
      else do
        let s ← statement fuel
        return s :: (← statements fuel)

end

/-- The names of parameters up to a closing bracket. -/
def parameters : (fuel : Nat) → Reader (List Text)
  | 0 => failure
  | fuel + 1 => do
      if ← takes (.sign ")") then return []
      else do
        let n ← name
        skipLines
        if ← takes (.sign ",") then skipLines
        return n :: (← parameters fuel)

/-- Rules and functions. -/
def rules : (fuel : Nat) → Reader Script
  | 0 => failure
  | fuel + 1 => do
      skipEnds
      let following (condition : Condition) : Reader Script := do
        let action ← if (← peek) = some (.sign "\x7b") then block fuel
          else pure (.print false [] none)
        let others ← rules fuel
        return { others with rules := (condition, action) :: others.rules }
      match ← get with
      | [] => return {}
      | .keyword "BEGIN" :: .sign "\x7b" :: rest => do
          set (Token.sign "\x7b" :: rest)
          following .beginning
      | .keyword "END" :: .sign "\x7b" :: rest => do
          set (Token.sign "\x7b" :: rest)
          following .ending
      | .keyword "function" :: n :: .sign "(" :: rest
      | .keyword "func" :: n :: .sign "(" :: rest => do
          set rest
          let n ← match n with
            | .name t | .called t => pure t
            | _ => failure
          let parameters ← parameters fuel
          skipLines
          let body ← block fuel
          let others ← rules fuel
          return { others with functions := (n, { parameters, body }) :: others.functions }
      | .sign "\x7b" :: _ => following .always
      | _ => do
          let first ← expression true true fuel
          if ← takes (.sign ",") then do
            skipLines
            following (.fromTo first (← expression true true fuel))
          else following (.when first)

/-- Read a program. -/
def Script.parse? (text : Text) : Option Script := do
  let tokens ← tokens? text
  let (script, _) ← (Awk.rules (40 * tokens.length + 100)).run tokens
  some script

end LtoBridge.Awk
