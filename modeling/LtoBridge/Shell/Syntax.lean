/-
**Commands of a shell script.**

A script consists of commands, and commands of words.  A word is what stands between blanks:
characters, some of them quoted, and expansions, which are replaced when the command is run.  Some
expansions hold commands themselves.

Main definitions:

* `LtoBridge.Shell.Part`, `LtoBridge.Shell.Word`;
* `LtoBridge.Shell.Change`: what an expansion does with the value of a parameter;
* `LtoBridge.Shell.Redirection`, `LtoBridge.Shell.Command`;
* `LtoBridge.Shell.Dialect`: the kinds of shells.
-/

import LtoBridge.Programs.Text

set_option autoImplicit false

namespace LtoBridge.Shell

open LtoBridge.Programs (Text)

/-- The kinds of shells: one that has only what all of them have, and one with more than that. -/
inductive Dialect
  | plain
  | rich
  deriving DecidableEq

/-! ### Words -/

/-- Which parts of a value a replacement is about. -/
inductive Extent
  | first
  | every
  | atStart
  | atEnd
  deriving DecidableEq

/-- What an expansion does with the value of a parameter. -/
inductive Change (W : Type)
  | plain
  /-- The number of its characters. -/
  | length
  /-- Look whether there is a value, which counts as none if it is empty and `orEmpty` holds. -/
  | test (sign : Char) (orEmpty : Bool) (word : W)
  /-- Cut off what fits a pattern. -/
  | trim (atStart longest : Bool) (pattern : W)
  /-- Some of its characters. -/
  | part (offset : W) (length : Option W)
  /-- Put a text in place of what fits a pattern. -/
  | substitute (extent : Extent) (pattern : W) (text : W)
  /-- Turn letters into capital ones or small ones. -/
  | capitals (upper every : Bool)
  /-- The value of the parameter that is named by this one. -/
  | indirect
  /-- The numbers of the values of a list. -/
  | indices
  /-- Quote it, so that a shell reads it as it is. -/
  | escaped
  /-- It makes no sense. -/
  | broken

/-- What is redirected. -/
inductive Target
  /-- Read from a file. -/
  | input
  /-- Write to a file in place of what it holds, even if files are to be kept. -/
  | output (forced : Bool)
  /-- Write to the end of a file. -/
  | append
  /-- Read from a file and write to it. -/
  | both
  /-- Read a text. -/
  | text (line : Bool)
  /-- Do as another stream does, or close the stream. -/
  | duplicate
  /-- Write both the output and the errors to a file. -/
  | outputAndErrors (append : Bool)
  deriving DecidableEq

/-- A stream that is redirected. -/
structure Redirection (W : Type) where
  stream : Nat
  target : Target
  word : W

/-- What follows an arm of a choice. -/
inductive ArmEnd
  | leaves
  /-- The commands of the next arm. -/
  | goesOn
  /-- The patterns of the next arm. -/
  | looksOn
  deriving DecidableEq

/-- An assignment: a name, the number of a value if it is a list, whether the value is added to the
one before, and what is assigned. -/
structure Assignment (W : Type) where
  name : Text
  index : Option W := none
  adds : Bool := false
  value : W
  /-- The values of a list. -/
  list : Option (List W) := none

mutual

/-- A part of a word. -/
inductive Part
  | literal (text : Text) (quoted : Bool)
  /-- The value of a parameter, or one of the values of a list. -/
  | parameter (name : Text) (index : Option (List Part)) (change : Change (List Part))
      (quoted : Bool)
  /-- The output of a command. -/
  | command (body : Command) (quoted : Bool)
  /-- The name of a file that has the output of a command. -/
  | feed (body : Command)
  /-- The value of an expression. -/
  | arithmetic (expression : List Part) (quoted : Bool)

/-- A command. -/
inductive Command
  | nothing
  | simple (line : Nat) (assignments : List (Assignment (List Part))) (words : List (List Part))
      (redirections : List (Redirection (List Part)))
  | pipeline (commands : List Command)
  | negation (command : Command)
  | both (first second : Command)
  | either (first second : Command)
  | sequence (first second : Command)
  /-- Do not wait for the command. -/
  | background (command : Command)
  | conditional (test yes no : Command)
  | loop (until_ : Bool) (test body : Command)
  /-- Once for each word; for each positional parameter if no words are given. -/
  | each (name : Text) (words : Option (List (List Part))) (body : Command)
  /-- Begin with an expression, go on as long as a second one is not zero, and evaluate a third one
  after each round. -/
  | count (begin test step : List Part) (body : Command)
  | choose (word : List Part) (arms : List (List (List Part) × Command × ArmEnd))
  | group (line : Nat) (body : Command) (redirections : List (Redirection (List Part)))
  | separate (line : Nat) (body : Command) (redirections : List (Redirection (List Part)))
  | define (name : Text) (body : Command)
  /-- Look whether an expression is not zero. -/
  | calculation (expression : List Part)
  /-- A condition, as its words and signs. -/
  | condition (items : List (Bool × List Part))

end

/-- A word, part by part. -/
abbrev Word := List Part

/-! ### Characters -/

/-- Can a name begin with the character? -/
def isNameStart (c : Char) : Bool := c.isAlpha || c == '_'

/-- Can the character stand in a name? -/
def isNameChar (c : Char) : Bool := c.isAlphanum || c == '_'

/-- Is a text a name? -/
def isName : Text → Bool
  | [] => false
  | c :: rest => isNameStart c && rest.all isNameChar

/-- The parameters whose name is a single sign. -/
def isSpecial (c : Char) : Bool := "@*#?-$!".toList.contains c

/-- The characters that end a word. -/
def isMeta (c : Char) : Bool := " \t\n;&|<>()".toList.contains c

/-! ### Words without expansions -/

/-- The text of a word without quotes and expansions. -/
def Word.plain? : Word → Option Text
  | [] => some []
  | .literal text false :: rest => (Word.plain? rest).map (text ++ ·)
  | _ => none

/-- The text of a word as it is, as far as that is known before it is run. -/
def Word.text (w : Word) : Text := w.flatMap fun
  | .literal text _ => text
  | .parameter name _ _ _ => '$' :: name
  | _ => []

/-- Is a part of a word quoted? -/
def Word.isQuoted (w : Word) : Bool := w.any fun
  | .literal _ quoted | .parameter _ _ _ quoted | .command _ quoted | .arithmetic _ quoted => quoted
  | .feed _ => false

/-- The commands whose arguments can assign values. -/
def declaring : List String :=
  ["export", "readonly", "local", "alias", "declare", "typeset"]

end LtoBridge.Shell
