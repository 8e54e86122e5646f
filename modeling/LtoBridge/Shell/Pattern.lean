/-
**Patterns of a shell.**

In a pattern, `*` stands for any text, `?` for any character and a bracket for one of the
characters in it.  Quoted characters stand for themselves.

Main definitions:

* `LtoBridge.Shell.Pattern`: the characters of a pattern, each quoted or not;
* `LtoBridge.Shell.Pattern.fits`: does a text fit a pattern?
* `LtoBridge.Shell.trim`: cut off what fits a pattern;
* `LtoBridge.Shell.substitute`: put a text in place of what fits a pattern.
-/

import LtoBridge.Shell.Syntax
import LtoBridge.Text.Regex

set_option autoImplicit false

namespace LtoBridge.Shell

open LtoBridge.Programs (Text)
open LtoBridge.Text (CharSet)

/-- The characters of a pattern, each with whether it is quoted. -/
abbrev Pattern := List (Char × Bool)

/-- A part of a pattern. -/
inductive Glob
  /-- Any text. -/
  | anything
  | one (set : CharSet)
  deriving DecidableEq

namespace Glob

/-- What is left of a text from each of its places on. -/
def tails : Text → List Text
  | [] => [[]]
  | c :: text => (c :: text) :: tails text

/-- Does a text fit the parts of a pattern? -/
def fit : List Glob → Text → Bool
  | [], text => text.isEmpty
  | [.anything], _ => true
  | .anything :: rest, text => (tails text).any (fit rest)
  | .one set :: rest, c :: text => set.has c && fit rest text
  | .one _ :: _, [] => false

end Glob

namespace Pattern

/-- A named class of characters after an opening bracket, and what follows it. -/
def class? (p : Pattern) : Option (List (Char × Char) × Pattern) :=
  match p with
  | ('[', false) :: (':', false) :: rest =>
      let name := rest.takeWhile fun c => c.1.isAlpha
      match rest.drop name.length with
      | (':', _) :: (']', _) :: rest =>
          (CharSet.named? (String.ofList (name.map (·.1)))).map (·, rest)
      | _ => none
  | _ => none

/-- The ranges of a bracket up to its end, and what follows that.  Each takes a character, so the
length of the pattern is enough fuel. -/
def members? : (fuel : Nat) → (isFirst : Bool) → Pattern → Option (List (Char × Char) × Pattern)
  | 0, _, _ => none
  | fuel + 1, isFirst, p =>
      match class? p with
      | some (ranges, rest) => (members? fuel false rest).map fun (others, rest) =>
          (ranges ++ others, rest)
      | none =>
          match p with
          | [] => none
          | (']', false) :: rest =>
              if isFirst then (members? fuel false rest).map fun (others, rest) =>
                ((']', ']') :: others, rest)
              else some ([], rest)
          | (low, _) :: ('-', false) :: (high, quoted) :: rest =>
              if high = ']' ∧ ¬ quoted then some ([(low, low), ('-', '-')], rest)
              else (members? fuel false rest).map fun (others, rest) =>
                ((low, high) :: others, rest)
          | (c, _) :: rest => (members? fuel false rest).map fun (others, rest) =>
              ((c, c) :: others, rest)

/-- The set after an opening bracket, and what follows it. -/
def bracket? (d : Dialect) (p : Pattern) : Option (CharSet × Pattern) :=
  let (complement, p) := match d, p with
    | _, ('!', false) :: rest | .rich, ('^', false) :: rest => (true, rest)
    | _, _ => (false, p)
  (members? (p.length + 1) true p).map fun (ranges, rest) => ({ ranges, complement }, rest)

/-- The parts of a pattern.  Each takes a character, so its length is enough fuel. -/
def globsFrom (d : Dialect) : (fuel : Nat) → Pattern → List Glob
  | 0, _ => []
  | fuel + 1, p =>
      match p with
      | [] => []
      | ('*', false) :: ('*', false) :: rest => globsFrom d fuel (('*', false) :: rest)
      | ('*', false) :: rest => .anything :: globsFrom d fuel rest
      | ('?', false) :: rest => .one .all :: globsFrom d fuel rest
      | ('[', false) :: rest =>
          match bracket? d rest with
          | some (set, rest) => .one set :: globsFrom d fuel rest
          | none => .one (.single '[') :: globsFrom d fuel rest
      | (c, _) :: rest => .one (.single c) :: globsFrom d fuel rest

/-- A backslash that comes from a value takes away the meaning of the character after it. -/
def unescaped : Pattern → Pattern
  | ('\\', false) :: (c, _) :: rest => (c, true) :: unescaped rest
  | c :: rest => c :: unescaped rest
  | [] => []

/-- The parts of a pattern. -/
def globs (d : Dialect) (p : Pattern) : List Glob := globsFrom d (p.length + 1) (unescaped p)

/-- Does a text fit a pattern? -/
def fits (d : Dialect) (p : Pattern) (text : Text) : Bool := Glob.fit (globs d p) text

/-- Does the pattern stand for more than itself? -/
def isWild (p : Pattern) : Bool :=
  p.any fun (c, quoted) => !quoted && (c == '*' || c == '?' || c == '[')

end Pattern

/-- The text without what fits the pattern at its start or its end: the longest or the shortest
part. -/
def trim (d : Dialect) (atStart longest : Bool) (p : Pattern) (text : Text) : Text :=
  let globs := p.globs d
  let sizes := List.range (text.length + 1)
  let sizes := if longest then sizes.reverse else sizes
  let cut (n : Nat) : Text :=
    if atStart then text.take n else text.drop (text.length - n)
  match sizes.find? fun n => Glob.fit globs (cut n) with
  | some n => if atStart then text.drop n else text.take (text.length - n)
  | none => text

/-- Put a text in place of what fits a pattern, from left to right.  Each step takes a character, so
the length of the text is enough fuel. -/
def substituteFrom (globs : List Glob) (every : Bool) (by_ : Text) : (fuel : Nat) → Text → Text
  | 0, text => text
  | _ + 1, [] => []
  | fuel + 1, c :: rest =>
      let sizes := (List.range ((c :: rest).length + 1)).reverse
      match sizes.find? fun n => n != 0 && Glob.fit globs ((c :: rest).take n) with
      | some n =>
          let after := (c :: rest).drop n
          by_ ++ (if every then substituteFrom globs every by_ fuel after else after)
      | none => c :: substituteFrom globs every by_ fuel rest

/-- Put a text in place of what fits a pattern. -/
def substitute (d : Dialect) (extent : Extent) (p : Pattern) (by_ text : Text) : Text :=
  let globs := p.globs d
  let sizes := (List.range (text.length + 1)).reverse
  match extent with
  | .first => if p.isEmpty then text else substituteFrom globs false by_ (text.length + 1) text
  | .every => if p.isEmpty then text else substituteFrom globs true by_ (text.length + 1) text
  | .atStart =>
      match sizes.find? fun n => Glob.fit globs (text.take n) with
      | some n => by_ ++ text.drop n
      | none => text
  | .atEnd =>
      match sizes.find? fun n => Glob.fit globs (text.drop (text.length - n)) with
      | some n => text.take (text.length - n) ++ by_
      | none => text

end LtoBridge.Shell
