/-
**Regular expressions.**

A regular expression is matched from a spot of a text on.  It can come to several ends, and it
prefers some of them to others: of two alternatives the first one, and of numbers of rounds the
larger or the smaller one, as the repetition says.  Dialects differ in which end counts, the
preferred one or the farthest one.

Main definitions:

* `LtoBridge.Text.CharSet`, `LtoBridge.Text.Regex`;
* `LtoBridge.Text.Regex.ends`: the ends of a match, the preferred one first;
* `LtoBridge.Text.Regex.prefersAll`: is the preferred match all of a text?
* `LtoBridge.Text.Regex.find?`: the first match in a text, of those that begin there the longest.
-/

set_option autoImplicit false

namespace LtoBridge.Text

/-! ### Sets of characters -/

/-- The characters in some ranges, both ends included, or all others. -/
structure CharSet where
  ranges : List (Char × Char)
  complement : Bool := false
  deriving DecidableEq

namespace CharSet

/-- Is a character in the set? -/
def has (s : CharSet) (c : Char) : Bool :=
  s.ranges.any (fun range => range.1 ≤ c && c ≤ range.2) != s.complement

/-- A single character. -/
def single (c : Char) : CharSet := { ranges := [(c, c)] }

/-- All characters. -/
def all : CharSet := { ranges := [], complement := true }

/-- All characters but the one that ends a line. -/
def inLine : CharSet := { ranges := [('\n', '\n')], complement := true }

/-- The decimal digits. -/
def digits : List (Char × Char) := [('0', '9')]

/-- The characters of words. -/
def wordChars : List (Char × Char) := [('0', '9'), ('A', 'Z'), ('_', '_'), ('a', 'z')]

/-- The characters that separate words and lines. -/
def blanks : List (Char × Char) := [('\t', '\r'), (' ', ' ')]

/-- The ranges of a named class of ASCII characters. -/
def named? : String → Option (List (Char × Char))
  | "alnum" => some [('0', '9'), ('A', 'Z'), ('a', 'z')]
  | "alpha" => some [('A', 'Z'), ('a', 'z')]
  | "blank" => some [('\t', '\t'), (' ', ' ')]
  | "cntrl" => some [('\x00', '\x1f'), ('\x7f', '\x7f')]
  | "digit" => some digits
  | "graph" => some [('!', '~')]
  | "lower" => some [('a', 'z')]
  | "print" => some [(' ', '~')]
  | "punct" => some [('!', '/'), (':', '@'), ('[', Char.ofNat 96), ('\x7b', '~')]
  | "space" => some blanks
  | "upper" => some [('A', 'Z')]
  | "word" => some wordChars
  | "xdigit" => some [('0', '9'), ('A', 'F'), ('a', 'f')]
  | _ => none

/-- A range together with the same letters in the other case. -/
def bothCases (range : Char × Char) : List (Char × Char) :=
  let part (low high : Char) (shift : Char → Char) : List (Char × Char) :=
    let a := if range.1 ≤ low then low else range.1
    let b := if high ≤ range.2 then high else range.2
    if a ≤ b then [(shift a, shift b)] else []
  range :: part 'A' 'Z' Char.toLower ++ part 'a' 'z' Char.toUpper

/-- The set that does not tell the cases of letters apart. -/
def anyCase (s : CharSet) : CharSet := { s with ranges := s.ranges.flatMap bothCases }

end CharSet

/-! ### Expressions -/

/-- A place between characters. -/
inductive Edge
  | textStart
  | textEnd
  | wordStart
  | wordEnd
  | wordEdge
  | noWordEdge
  deriving DecidableEq

/-- A regular expression. -/
inductive Regex
  | empty
  | one (set : CharSet)
  | both (first second : Regex)
  | either (first second : Regex)
  /-- Any number of rounds; a greedy repetition prefers more of them. -/
  | star (greedy : Bool) (body : Regex)
  /-- A part whose text is kept under a number. -/
  | group (number : Nat) (body : Regex)
  /-- The text that has been kept under a number. -/
  | again (number : Nat)
  | edge (e : Edge)
  deriving DecidableEq

namespace Regex

/-- A given character. -/
def char (c : Char) : Regex := .one (.single c)

/-- One expression after the other. -/
def sequence (rs : List Regex) : Regex := rs.foldr .both .empty

/-- At most one round. -/
def optional (greedy : Bool) (r : Regex) : Regex :=
  if greedy then .either r .empty else .either .empty r

/-- At least one round. -/
def plus (greedy : Bool) (r : Regex) : Regex := .both r (.star greedy r)

/-- At most `n` rounds, each of which is tried only after the one before it. -/
def atMost (greedy : Bool) (r : Regex) : Nat → Regex
  | 0 => .empty
  | n + 1 => optional greedy (.both r (atMost greedy r n))

/-- A number of rounds from `least` on, up to `most` if that is given. -/
def counted (greedy : Bool) (least : Nat) (most : Option Nat) (r : Regex) : Regex :=
  let rest := match most with
    | none => .star greedy r
    | some m => atMost greedy r (m - least)
  (List.replicate least r).foldr .both rest

/-- Does the expression refer to texts that it has kept? -/
def refersBack : Regex → Bool
  | .empty | .one _ | .edge _ => false
  | .both a b | .either a b => a.refersBack || b.refersBack
  | .star _ a | .group _ a => a.refersBack
  | .again _ => true

/-- The expression that does not tell the cases of letters apart. -/
def anyCase : Regex → Regex
  | .one set => .one set.anyCase
  | .both a b => .both a.anyCase b.anyCase
  | .either a b => .either a.anyCase b.anyCase
  | .star greedy a => .star greedy a.anyCase
  | .group n a => .group n a.anyCase
  | r => r

/-! ### Matching -/

/-- A spot of a text: the characters before it, the last one first, those after it, and the texts
that have been kept on the way to it. -/
structure Spot where
  before : List Char
  after : List Char
  groups : List (Nat × List Char) := []
  /-- How many characters the match has taken on the way to it. -/
  position : Nat := 0
  deriving DecidableEq

/-- Is the character part of a word? -/
def isWordChar (c : Char) : Bool := c.isAlphanum || c == '_'

/-- Is the spot such a place? -/
def Spot.isAt (s : Spot) (e : Edge) : Bool :=
  let wordBefore := s.before.head?.any isWordChar
  let wordAfter := s.after.head?.any isWordChar
  match e with
  | .textStart => s.before.isEmpty
  | .textEnd => s.after.isEmpty
  | .wordStart => !wordBefore && wordAfter
  | .wordEnd => wordBefore && !wordAfter
  | .wordEdge => wordBefore != wordAfter
  | .noWordEdge => wordBefore == wordAfter

/-- The spot some characters further on. -/
def Spot.advance (s : Spot) (n : Nat) : Spot :=
  { s with
    before := (s.after.take n).reverse ++ s.before
    after := s.after.drop n
    position := s.position + n }

/-- The text that is kept under a number. -/
def Spot.group? (s : Spot) (n : Nat) : Option (List Char) := s.groups.lookup n

/-- Does the match go on alike from two spots?  That depends on the kept texts only if an expression
refers to them. -/
def alike (refers : Bool) (a b : Spot) : Bool :=
  a.position == b.position && (!refers || a.groups == b.groups)

/-- The spots without those from which the match goes on as from an earlier one. -/
def distinct (refers : Bool) (spots : List Spot) : List Spot :=
  (spots.foldl (fun found s =>
    if found.any (alike refers s) then found else s :: found) []).reverse

/-- The spots that rounds lead to, added to those that have been visited and to those that have
been found.  A round takes at least one character, so the length of the text is enough fuel. -/
def rounds (refers greedy : Bool) (step : Spot → List Spot) :
    (fuel : Nat) → (visited found : List Spot) → Spot → List Spot × List Spot
  | 0, visited, found, s => (visited, s :: found)
  | fuel + 1, visited, found, s =>
      if visited.any (alike refers s) then (visited, found)
      else
        let visited := s :: visited
        let next := (step s).filter fun t => decide (s.position < t.position)
        let visit (found : List Spot) : List Spot × List Spot :=
          next.foldl (fun (visited, found) t => rounds refers greedy step fuel visited found t)
            (visited, found)
        if greedy then let (visited, found) := visit found; (visited, s :: found)
        else visit (s :: found)

/-- The spots after some characters of a set, from a given one on, the farthest one first. -/
def runs (set : CharSet) (found : List Spot) (s : Spot) : (after : List Char) → List Spot
  | [] => s :: found
  | c :: after =>
      if set.has c then
        runs set (s :: found)
          { s with before := c :: s.before, after, position := s.position + 1 } after
      else s :: found

/-- The ends of a match from a spot on, the preferred one first. -/
def endsFrom (refers : Bool) : Regex → Spot → List Spot
  | .empty, s => [s]
  | .one set, s =>
      match s.after with
      | c :: _ => if set.has c then [s.advance 1] else []
      | [] => []
  | .both a b, s => distinct refers ((endsFrom refers a s).flatMap (endsFrom refers b))
  | .either a b, s => distinct refers (endsFrom refers a s ++ endsFrom refers b s)
  | .star greedy (.one set), s =>
      let found := runs set [] s s.after
      if greedy then found else found.reverse
  | .star greedy a, s =>
      (rounds refers greedy (endsFrom refers a) (s.after.length + 1) [] [] s).2.reverse
  | .group n a, s =>
      (endsFrom refers a s).map fun t =>
        let text := s.after.take (t.position - s.position)
        { t with groups := (n, text) :: t.groups.filter (·.1 != n) }
  | .again n, s =>
      match s.groups.lookup n with
      | some text => if text.isPrefixOf s.after then [s.advance text.length] else []
      | none => []
  | .edge e, s => if s.isAt e then [s] else []

/-- The ends of a match from a spot on, the preferred one first. -/
def ends (r : Regex) (s : Spot) : List Spot := endsFrom r.refersBack r s

/-- Is the preferred match from the beginning of a text on all of the text? -/
def prefersAll (r : Regex) (text : List Char) : Bool :=
  match r.ends { before := [], after := text } with
  | s :: _ => s.after.isEmpty
  | [] => false

/-- Of some spots the farthest one, and of several the first one. -/
def farthest? (spots : List Spot) : Option Spot :=
  spots.foldl (fun best s => match best with
    | some t => if t.position < s.position then some s else best
    | none => some s) none

/-- The first match from a spot on: where it begins and where it ends.  Of those that begin at the
same spot, the longest one counts. -/
def findFrom? (r : Regex) : (before after : List Char) → Option (Spot × Spot)
  | before, [] =>
      let start : Spot := { before, after := [] }
      (farthest? (r.ends start)).map fun t => (start, t)
  | before, c :: after =>
      let start : Spot := { before, after := c :: after }
      match farthest? (r.ends start) with
      | some t => some (start, t)
      | none => findFrom? r (c :: before) after

/-- The first match in a text. -/
def find? (r : Regex) (text : List Char) : Option (Spot × Spot) := r.findFrom? [] text

end Regex

end LtoBridge.Text
