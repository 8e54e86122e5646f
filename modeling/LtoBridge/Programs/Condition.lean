/-
**Conditions on texts and files.**

A condition consists of operators and operands.  A text alone holds unless it is empty.  There are
two ways to read a condition, which differ in what they take for an operator where that is not
clear: as the words come, or by their number.

Main definitions:

* `LtoBridge.Programs.Condition.unary?`, `LtoBridge.Programs.Condition.binary?`: the operators;
* `LtoBridge.Programs.Condition.evaluate`: read as the words come;
* `LtoBridge.Programs.Condition.evaluateCounted`: read by the number of words.
-/

import LtoBridge.Programs.Job

set_option autoImplicit false

namespace LtoBridge.Programs.Condition

/-! ### Operators -/

/-- What a condition is about: the disk, and the complaint about a text that is no number. -/
structure Context where
  disk : Disk
  /-- Does a second spelling of equality count? -/
  doubled : Bool
  complaint : Text → Text
  /-- Is a file newer than one that is not there? -/
  missingIsOld : Bool := true
  /-- Do numbers have to fit into 64 bits? -/
  bounded : Bool := false

/-- The operators with one operand. -/
def unarySigns : List String :=
  ["-b", "-c", "-d", "-e", "-f", "-g", "-h", "-k", "-n", "-p", "-r", "-s", "-t", "-u", "-w", "-x",
    "-z", "-G", "-L", "-O", "-S"]

/-- The operators with two operands. -/
def binarySigns (doubled : Bool) : List String :=
  (if doubled then ["=="] else []) ++
    ["=", "!=", "<", ">", "-eq", "-ne", "-gt", "-ge", "-lt", "-le", "-nt", "-ot", "-ef"]

/-- Can a node be run or entered? -/
def isRunnable : Node → Bool
  | .directory | .program _ | .file _ true => true
  | _ => false

/-- What an operator says of a text, which may be the name of a file. -/
def unary (disk : Disk) (sign : String) (text : Text) : Bool :=
  let path := Text.bytes text
  let node := (disk.find path).toOption.map (·.2)
  let entry := (disk.findEntry path).toOption.map (·.2)
  match sign with
  | "-n" => !text.isEmpty
  | "-z" => text.isEmpty
  | "-e" | "-r" | "-w" | "-O" | "-G" => node.isSome
  | "-d" => node == some .directory
  | "-f" => node.any fun
      | .file _ _ | .program _ => true
      | _ => false
  | "-c" => node.any fun
      | .device _ => true
      | _ => false
  | "-s" => node.any fun
      | .directory | .program _ => true
      | .file bytes _ => !bytes.isEmpty
      | _ => false
  | "-x" => node.any isRunnable
  | "-h" | "-L" => entry.any fun
      | .link _ => true
      | _ => false
  | _ => false

/-- Integers of the machine are below this bound, and not below its opposite. -/
def integerLimit : Int := 0x8000000000000000

/-- The integer that an operand stands for. -/
def integer (c : Context) (text : Text) : Except Text Int :=
  match Text.integer? (Text.trimmed text) with
  | some n =>
      if c.bounded ∧ (n < -integerLimit ∨ integerLimit ≤ n) then .error (c.complaint text)
      else .ok n
  | none => .error (c.complaint text)

/-- What an operator says of two texts. -/
def binary (c : Context) (sign : String) (a b : Text) : Except Text Bool :=
  let compare (holds : Int → Int → Bool) : Except Text Bool := do
    return holds (← integer c a) (← integer c b)
  let location (t : Text) : Option Location := (c.disk.find (Text.bytes t)).toOption.map (·.1)
  match sign with
  | "=" | "==" => .ok (a == b)
  | "!=" => .ok (a != b)
  | "<" => .ok (!Text.precedes b a)
  | ">" => .ok (!Text.precedes a b)
  | "-eq" => compare (· == ·)
  | "-ne" => compare (· != ·)
  | "-gt" => compare (· > ·)
  | "-ge" => compare (· ≥ ·)
  | "-lt" => compare (· < ·)
  | "-le" => compare (· ≤ ·)
  | "-nt" => .ok (c.missingIsOld && (location a).isSome && (location b).isNone)
  | "-ot" => .ok (c.missingIsOld && (location a).isNone && (location b).isSome)
  | "-ef" => .ok ((location a).isSome && location a == location b)
  | _ => .ok false

/-- The operator with one operand that a word is. -/
def unary? (word : Text) : Option String := unarySigns.find? (·.toList == word)

/-- The operator with two operands that a word is. -/
def binary? (doubled : Bool) (word : Text) : Option String :=
  (binarySigns doubled).find? (·.toList == word)

/-! ### Reading as the words come -/

/-- What a word is taken for. -/
inductive Item
  | nothing
  | operand
  | unary (sign : String)
  | binary (sign : String)
  | and
  | or
  | not
  | opens
  | closes
  deriving DecidableEq

/-- What the word at a position is taken for.  An operator with one operand is none if nothing or
an operator with two operands follows it. -/
def itemAt (doubled : Bool) (words : List Text) : Item :=
  match words with
  | [] => .nothing
  | word :: rest =>
      let isOperand : Bool := match rest with
        | [] => true
        | [_] => false
        | next :: _ => (binary? doubled next).isSome
      match unary? word, binary? doubled word with
      | some sign, _ => if isOperand then .operand else .unary sign
      | _, some sign => .binary sign
      | none, none =>
          match word with
          | ['-', 'a'] => .and
          | ['-', 'o'] => .or
          | ['!'] => .not
          | ['('] => if rest.isEmpty then .operand else .opens
          | [')'] => .closes
          | _ => .operand

/-- What is wrong about a word. -/
def fault (word : Text) (what : String) : Text :=
  if word.isEmpty then what.toList else word ++ ": ".toList ++ what.toList

mutual

/-- Alternatives from the first one of the words on, which is taken for the given item.  The answer
comes with the words from the last one on that has been read. -/
def alternatives (c : Context) : (fuel : Nat) → Item → List Text → Except Text (Bool × List Text)
  | 0, _, _ => .error "too many arguments".toList
  | fuel + 1, item, words => do
      let (a, words) ← all c fuel item words
      if itemAt c.doubled words.tail = .or then
        let words := words.drop 2
        let (b, words) ← alternatives c fuel (itemAt c.doubled words) words
        return (a || b, words)
      else return (a, words)

/-- Conditions all of which have to hold. -/
def all (c : Context) : (fuel : Nat) → Item → List Text → Except Text (Bool × List Text)
  | 0, _, _ => .error "too many arguments".toList
  | fuel + 1, item, words => do
      let (a, words) ← negated c fuel item words
      if itemAt c.doubled words.tail = .and then
        let words := words.drop 2
        let (b, words) ← all c fuel (itemAt c.doubled words) words
        return (a && b, words)
      else return (a, words)

/-- A condition that may be turned around. -/
def negated (c : Context) : (fuel : Nat) → Item → List Text → Except Text (Bool × List Text)
  | 0, _, _ => .error "too many arguments".toList
  | fuel + 1, item, words =>
      if item = .not then do
        let next := itemAt c.doubled words.tail
        let (a, words) ← negated c fuel next (if next = .nothing then words else words.tail)
        return (!a, words)
      else single c fuel item words

/-- A single condition. -/
def single (c : Context) : (fuel : Nat) → Item → List Text → Except Text (Bool × List Text)
  | 0, _, _ => .error "too many arguments".toList
  | fuel + 1, item, words =>
      match item with
      | .nothing => .ok (false, words)
      | .opens => do
          let next := itemAt c.doubled words.tail
          if next = .closes then return (false, words.tail)
          else do
            let (a, words) ← alternatives c fuel next words.tail
            if itemAt c.doubled words.tail = .closes then return (a, words.tail)
            else .error "closing paren expected".toList
      | .unary sign =>
          match words.tail with
          | [] => .error (fault sign.toList "argument expected")
          | operand :: rest => .ok (unary c.disk sign operand, operand :: rest)
      | _ =>
          match words, itemAt c.doubled words.tail with
          | a :: _ :: rest, .binary sign =>
              match rest with
              | [] => .error (fault sign.toList "argument expected")
              | b :: rest => do return (← binary c sign a b, b :: rest)
          | word :: _, _ => .ok (!word.isEmpty, words)
          | [], _ => .ok (false, words)

end

/-- Read words as they come. -/
def whole (c : Context) (item : Item) (words : List Text) : Except Text Bool := do
  let (a, words) ← alternatives c (8 * words.length + 8) item words
  match words with
  | word :: _ :: _ => .error (fault word "unexpected operator")
  | _ => return a

/-- **What words say**, read as they come. -/
def evaluate (c : Context) : (words : List Text) → Except Text Bool
  | [] => .ok false
  | [a, op, b] =>
      if (binary? c.doubled op).isSome then whole c .operand [a, op, b]
      else if a = ['('] ∧ b = [')'] then whole c (itemAt c.doubled [op]) [op]
      else if a = ['!'] then (evaluate c [op, b]).map (!·)
      else whole c (itemAt c.doubled [a, op, b]) [a, op, b]
  | [a, x, y, b] =>
      if a = ['('] ∧ b = [')'] then whole c (itemAt c.doubled [x, y]) [x, y]
      else if a = ['!'] then (evaluate c [x, y, b]).map (!·)
      else whole c (itemAt c.doubled [a, x, y, b]) [a, x, y, b]
  | words => whole c (itemAt c.doubled words) words

/-! ### Reading by the number of words -/

/-- **What words say**, read by their number. -/
def evaluateCounted (c : Context) : (words : List Text) → Except Text Bool
  | [] => .ok false
  | [a] => .ok (!a.isEmpty)
  | [a, b] =>
      if a = ['!'] then .ok b.isEmpty
      else match unary? a with
        | some sign => .ok (unary c.disk sign b)
        | none => .error (fault a "unary operator expected")
  | [a, op, b] =>
      match binary? c.doubled op with
      | some sign => binary c sign a b
      | none =>
          if a = ['!'] then (evaluateCounted c [op, b]).map (!·)
          else if a = ['('] ∧ b = [')'] then .ok (!op.isEmpty)
          else if op = ['-', 'a'] then .ok (!a.isEmpty && !b.isEmpty)
          else if op = ['-', 'o'] then .ok (!a.isEmpty || !b.isEmpty)
          else .error (fault op "binary operator expected")
  | [a, x, y, b] =>
      if a = ['!'] then (evaluateCounted c [x, y, b]).map (!·)
      else if a = ['('] ∧ b = [')'] then evaluateCounted c [x, y]
      else whole c (itemAt c.doubled [a, x, y, b]) [a, x, y, b]
  | words => whole c (itemAt c.doubled words) words

end LtoBridge.Programs.Condition
