/-
**Options of programs.**

An option is a letter after a hyphen or a word after two hyphens.  Letters can share a hyphen, and
some options take a value, which follows directly or as the next argument.  What is no option is an
operand; after `--` everything is.

Main definitions:

* `LtoBridge.Programs.Grammar`: the options that a program knows;
* `LtoBridge.Programs.Grammar.read`: options and operands among arguments.
-/

import LtoBridge.Programs.Text

set_option autoImplicit false

namespace LtoBridge.Programs

/-- The options that a program knows.  A letter with a colon after it takes a value, one with a
question mark takes one only if that follows directly.  Words stand for letters. -/
structure Grammar where
  letters : String
  words : List (String × Char) := []
  /-- Can options follow operands? -/
  mixed : Bool := true

/-- What the arguments of a program say. -/
structure Request where
  /-- The letters of options, each with its value. -/
  options : List (Char × Text) := []
  operands : List Text := []

namespace Request

/-- Is there an option with a letter? -/
def has (r : Request) (letter : Char) : Bool := r.options.any (·.1 == letter)

/-- The value of the last option with a letter. -/
def value? (r : Request) (letter : Char) : Option Text := r.options.reverse.lookup letter

/-- The values of all options with a letter. -/
def values (r : Request) (letter : Char) : List Text :=
  (r.options.filter (·.1 == letter)).map (·.2)

/-- The last of the options with one of some letters. -/
def lastOf? (r : Request) (letters : String) : Option Char :=
  (r.options.reverse.find? fun o => letters.toList.contains o.1).map (·.1)

end Request

namespace Grammar

/-- What kind of value a letter takes: none, one, or one that follows directly.  Letters that the
program does not know have no answer. -/
def kind? (g : Grammar) (letter : Char) : Option Char :=
  if letter = ':' ∨ letter = '?' then none
  else match g.letters.toList.dropWhile (· != letter) with
    | [] => none
    | _ :: ':' :: _ => some ':'
    | _ :: '?' :: _ => some '?'
    | _ => some ' '

/-- The letter that a word stands for, which can be cut short as long as it is clear. -/
def word? (g : Grammar) (word : Text) : Option Char :=
  match g.words.find? fun w => w.1.toList == word with
  | some (_, letter) => some letter
  | none =>
      match (g.words.filter fun w => word.isPrefixOf w.1.toList).map (·.2) with
      | [] => none
      | letter :: others => if others.all (· == letter) then some letter else none

/-- Read letters that share a hyphen; the last one may take the next argument. -/
def readLetters (g : Grammar) : Text → (rest : List Text) → Option (List (Char × Text) × List Text)
  | [], rest => some ([], rest)
  | c :: letters, rest =>
      match g.kind? c with
      | none => none
      | some ':' =>
          if letters ≠ [] then some ([(c, letters)], rest)
          else match rest with
            | value :: rest => some ([(c, value)], rest)
            | [] => none
      | some '?' => some ([(c, letters)], rest)
      | some _ => (g.readLetters letters rest).map fun (others, rest) => ((c, []) :: others, rest)

/-- Read arguments, of which there are at most `fuel`. -/
def readFrom (g : Grammar) : (fuel : Nat) → Request → List Text → Option Request
  | 0, r, _ => some r
  | _ + 1, r, [] => some r
  | fuel + 1, r, a :: rest =>
      match a with
      | ['-', '-'] => some { r with operands := r.operands ++ rest }
      | '-' :: '-' :: word =>
          match g.word? (word.takeWhile (· != '=')), word.dropWhile (· != '=') with
          | none, _ => none
          | some letter, '=' :: value =>
              if g.kind? letter = some ' ' then none
              else g.readFrom fuel { r with options := r.options ++ [(letter, value)] } rest
          | some letter, _ =>
              match g.kind? letter, rest with
              | some ':', value :: rest =>
                  g.readFrom fuel { r with options := r.options ++ [(letter, value)] } rest
              | some ':', [] => none
              | _, _ => g.readFrom fuel { r with options := r.options ++ [(letter, [])] } rest
      | '-' :: c :: letters =>
          match g.readLetters (c :: letters) rest with
          | none => none
          | some (options, rest) => g.readFrom fuel { r with options := r.options ++ options } rest
      | _ =>
          if g.mixed then g.readFrom fuel { r with operands := r.operands ++ [a] } rest
          else some { r with operands := r.operands ++ a :: rest }

/-- The options and operands among arguments, unless an option is not known or lacks its value. -/
def read (g : Grammar) (arguments : List Text) : Option Request :=
  g.readFrom (arguments.length + 1) {} arguments

end Grammar

end LtoBridge.Programs
