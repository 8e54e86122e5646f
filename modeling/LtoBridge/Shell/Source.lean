/-
**The text of a script.**

A script is read from its beginning on.  What is left of it is known, and the number of the line
that it starts in.

Main definitions:

* `LtoBridge.Shell.Source`, `LtoBridge.Shell.Reader`: steps that take something from a script;
* `LtoBridge.Shell.Fault`: why a script cannot be read;
* `LtoBridge.Shell.operatorAt?`, `LtoBridge.Shell.keywordAt?`: what comes next;
* `LtoBridge.Shell.Reader.hereText`: a text that follows the current line.
-/

import LtoBridge.Shell.Syntax

set_option autoImplicit false

namespace LtoBridge.Shell

open LtoBridge.Programs (Text)

/-- What is left of a script. -/
structure Source where
  text : Text
  dialect : Dialect := .plain
  line : Nat := 1
  /-- The lines after the current one that have been taken already. -/
  hidden : Nat := 0
  aliases : List (Text × Text) := []
  /-- The aliases that are being read, each with the number of characters after it. -/
  active : List (Text × Nat) := []
  /-- After an alias that ends with a blank, the number of characters after it. -/
  chained : Option Nat := none

/-- Why a script cannot be read, and the line where that is seen. -/
structure Fault where
  line : Nat
  message : Text

/-- A step that takes something from a script. -/
abbrev Reader (α : Type) := StateT Source (Except Fault) α

/-! ### What comes next -/

/-- Does the character begin something else within a word? -/
def isMark (c : Char) : Bool :=
  c == '"' || c == '\'' || c == '\\' || c == '$' || c == Char.ofNat 96

/-- The text after blanks and a comment, and the number of lines on the way. -/
def afterBlanks (lines : Nat) : Text → Nat × Text
  | ' ' :: rest | '\t' :: rest => afterBlanks lines rest
  | '\\' :: '\n' :: rest => afterBlanks (lines + 1) rest
  | '#' :: rest => (lines, rest.dropWhile (· != '\n'))
  | text => (lines, text)

/-- The operator at the beginning of a text. -/
def operatorAt? (d : Dialect) (text : Text) : Option String :=
  let rich (long short : String) : Option String := some (if d = .rich then long else short)
  match text with
  | '&' :: '&' :: _ => some "&&"
  | '&' :: '>' :: '>' :: _ => rich "&>>" "&"
  | '&' :: '>' :: _ => rich "&>" "&"
  | '&' :: _ => some "&"
  | '|' :: '|' :: _ => some "||"
  | '|' :: '&' :: _ => rich "|&" "|"
  | '|' :: _ => some "|"
  | ';' :: ';' :: '&' :: _ => rich ";;&" ";;"
  | ';' :: ';' :: _ => some ";;"
  | ';' :: '&' :: _ => rich ";&" ";"
  | ';' :: _ => some ";"
  | '<' :: '<' :: '<' :: _ => rich "<<<" "<<"
  | '<' :: '<' :: '-' :: _ => some "<<-"
  | '<' :: '<' :: _ => some "<<"
  | '<' :: '&' :: _ => some "<&"
  | '<' :: '>' :: _ => some "<>"
  | '<' :: '(' :: _ => if d = .rich then none else some "<"
  | '<' :: _ => some "<"
  | '>' :: '>' :: _ => some ">>"
  | '>' :: '&' :: _ => some ">&"
  | '>' :: '|' :: _ => some ">|"
  | '>' :: _ => some ">"
  | '(' :: _ => some "("
  | ')' :: _ => some ")"
  | '\n' :: _ => some "\n"
  | _ => none

/-- The word without quotes and expansions at the beginning of a text. -/
def plainWordAt? (text : Text) : Option Text :=
  let word := text.takeWhile fun c => !isMeta c && !isMark c
  match text.drop word.length with
  | [] => if word.isEmpty then none else some word
  | c :: _ => if word.isEmpty ∨ isMark c then none else some word

/-- The words that are part of a command. -/
def keywords : List String :=
  ["!", "\x7b", "\x7d", "case", "do", "done", "elif", "else", "esac", "fi", "for", "if", "then",
    "until", "while"]

/-- The words that are part of a command in a rich shell only. -/
def richKeywords : List String := ["[[", "function", "time"]

/-- The keyword at the beginning of a text. -/
def keywordAt? (d : Dialect) (text : Text) : Option String := do
  let word := String.ofList (← plainWordAt? text)
  if keywords.contains word ∨ (d = .rich ∧ richKeywords.contains word) then some word else none

/-- The operators that end a list of commands. -/
def closingOperators : List String := [")", ";;", ";;&", ";&"]

/-- The keywords that end a list of commands. -/
def closingKeywords : List String :=
  ["then", "else", "elif", "fi", "do", "done", "esac", "\x7d"]

/-! ### Steps -/

namespace Reader

/-- Nothing can be read. -/
def fail {α : Type} (message : String) : Reader α := fun s =>
  .error { line := s.line, message := message.toList }

/-- What is left of the script. -/
def ahead : Reader Text := return (← get).text

/-- Is the shell a rich one? -/
def isRich : Reader Bool := return (← get).dialect == .rich

/-- Go on with a text that comes after some lines. -/
def goOn (lines : Nat) (text : Text) : Reader Unit := modify fun s =>
  if lines = 0 then { s with text }
  else { s with text, line := s.line + lines + s.hidden, hidden := 0 }

/-- Skip some characters. -/
def skip (count : Nat) : Reader Unit := do
  let text ← ahead
  goOn ((text.take count).count '\n') (text.drop count)

/-- Take the characters at the beginning that have a property. -/
def takeWhile (p : Char → Bool) : Reader Text := do
  let text ← ahead
  let taken := text.takeWhile p
  goOn (taken.count '\n') (text.drop taken.length)
  return taken

/-- Skip blanks and a comment. -/
def skipBlanks : Reader Unit := do
  let (lines, text) := afterBlanks 0 (← ahead)
  goOn lines text

/-- The operator that comes next. -/
def operator? : Reader (Option String) := do
  skipBlanks
  return operatorAt? (← get).dialect (← ahead)

/-- The keyword that comes next. -/
def keyword? : Reader (Option String) := do
  skipBlanks
  return keywordAt? (← get).dialect (← ahead)

/-- Skip blanks and ends of lines, of which there are at most `fuel`. -/
def skipLines : (fuel : Nat) → Reader Unit
  | 0 => pure ()
  | fuel + 1 => do
      skipBlanks
      match ← ahead with
      | '\n' :: _ => do
          skip 1
          skipLines fuel
      | _ => pure ()

/-- How a message calls what comes next. -/
def calledAhead : Reader Text := do
  let text ← ahead
  match operatorAt? (← get).dialect text, keywordAt? (← get).dialect text with
  | some "\n", _ => return "newline".toList
  | some operator, _ =>
      if operator.startsWith "<" ∨ operator.startsWith ">" then return "redirection".toList
      else return '"' :: operator.toList ++ ['"']
  | none, some word => return '"' :: word.toList ++ ['"']
  | none, none => return if text.isEmpty then "end of file".toList else "word".toList

/-- Something else should come next. -/
def unexpected {α : Type} (wanted : String) : Reader α := do
  let called ← calledAhead
  let expecting := if wanted.isEmpty then "" else " (expecting \"" ++ wanted ++ "\")"
  fail (String.ofList called ++ " unexpected" ++ expecting)

/-- Take an operator, which has to come next. -/
def expectOperator (operator : String) : Reader Unit := do
  if (← operator?) = some operator then skip operator.length else unexpected operator

/-- Take a keyword, which has to come next. -/
def expectKeyword (word : String) : Reader Unit := do
  if (← keyword?) = some word then skip word.length else unexpected word

/-! ### Texts after the current line -/

/-- The lines of a text up to the one that ends them, the last one first, and what follows. -/
def linesUpTo (ending : Text) (tabs : Bool) : (fuel : Nat) → (found : List Text) → Text →
    List Text × Text
  | 0, found, text => (found, text)
  | fuel + 1, found, text =>
      let line := text.takeWhile (· != '\n')
      let rest := text.drop line.length
      let shown := if tabs then line.dropWhile (· == '\t') else line
      if text.isEmpty then (found, [])
      else if shown = ending then (found, rest.drop 1)
      else linesUpTo ending tabs fuel ((shown ++ rest.take 1) :: found) (rest.drop 1)

/-- A text that follows the current line, up to a line that is given.  It is taken from the script
at once. -/
def hereText (ending : Text) (tabs : Bool) : Reader Text := do
  let text ← ahead
  let line := text.takeWhile (· != '\n')
  let after := text.drop (line.length + 1)
  let (found, rest) := linesUpTo ending tabs (after.length + 1) [] after
  modify fun s => { s with
    text := line ++ '\n' :: rest
    hidden := s.hidden + found.length + 1 }
  return found.reverse.flatten

/-! ### Aliases -/

/-- The alias that the next word stands for, if it is one. -/
def alias? : Reader (Option (Text × Text)) := do
  let s ← get
  if s.aliases.isEmpty then return none
  else
    let left := s.text.length
    let active := s.active.filter fun a => a.2 < left
    match plainWordAt? s.text with
    | none => return none
    | some word =>
        if active.any (·.1 == word) then return none
        else return (s.aliases.lookup word).map (word, ·)

/-- Put the text of an alias in place of the next word. -/
def replaceAlias (word text : Text) : Reader Unit := modify fun s =>
  let rest := s.text.drop word.length
  { s with
    text := text ++ rest
    active := (word, rest.length) :: s.active
    chained := if text.getLast?.any Text.isBlank then some rest.length else none }

/-- Put the text of an alias in place of the next word, if that follows an alias with a blank at its
end. -/
def followAlias : Reader Unit := do
  match (← get).chained with
  | none => pure ()
  | some limit =>
      if (← ahead).length ≤ limit then do
        modify fun s => { s with chained := none }
        match ← alias? with
        | some (word, text) => replaceAlias word text
        | none => pure ()
      else pure ()

end Reader

end LtoBridge.Shell
