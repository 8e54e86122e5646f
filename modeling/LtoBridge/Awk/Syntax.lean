/-
**Programs for records.**

A program for records has rules, each with a condition and with what to do for the records that
meet it.  A record has fields, which can be read and set by their numbers.

Main definitions:

* `LtoBridge.Awk.Expression`, `LtoBridge.Awk.Statement`;
* `LtoBridge.Awk.Condition`, `LtoBridge.Awk.Script`.
-/

import LtoBridge.Programs.Text

set_option autoImplicit false

namespace LtoBridge.Awk

open LtoBridge.Programs (Text)

/-- An operator with two operands. -/
inductive Operator
  | plus
  | minus
  | times
  | dividedBy
  | modulo
  | power
  | join
  | less
  | atMost
  | equal
  | different
  | more
  | atLeast
  | and
  | or
  | fits
  | fitsNot
  deriving DecidableEq

/-- What has a value. -/
inductive Expression
  | number (digits : Text)
  | text (t : Text)
  /-- Does the record fit a pattern? -/
  | pattern (regex : Text)
  | variable (name : Text)
  | item (table : Text) (key : List Expression)
  | field (number : Expression)
  | assign (target value : Expression)
  | update (op : Operator) (target value : Expression)
  /-- Count up or down; the value is the new one or the old one. -/
  | count (op : Operator) (isNew : Bool) (target : Expression)
  | choose (condition whenTrue whenFalse : Expression)
  | binary (op : Operator) (a b : Expression)
  | not (a : Expression)
  | negate (a : Expression)
  | asNumber (a : Expression)
  | contains (key : List Expression) (table : Text)
  | builtin (name : String) (arguments : List Expression)
  | call (name : Text) (arguments : List Expression)
  /-- Read a line: of the input, of a file, or of what a command prints. -/
  | readLine (command : Bool) (source : Option Expression) (target : Option Expression)

/-- Where output goes. -/
inductive Route
  | replace
  | append
  | command
  deriving DecidableEq

/-- What is done. -/
inductive Statement
  | evaluate (e : Expression)
  | print (formatted : Bool) (arguments : List Expression) (route : Option (Route × Expression))
  | choose (condition : Expression) (whenTrue whenFalse : Statement)
  | loop (condition : Expression) (body step : Statement)
  | doLoop (body : Statement) (condition : Expression)
  | each (name table : Text) (body : Statement)
  | block (body : List Statement)
  | delete (table : Text) (key : List Expression)
  | next
  | nextFile
  | exit (status : Option Expression)
  | break_
  | continue_
  | return_ (value : Option Expression)

/-- When a rule is followed. -/
inductive Condition
  | beginning
  | ending
  | always
  | when (e : Expression)
  | fromTo (first last : Expression)

/-- A function of a script. -/
structure Function where
  parameters : List Text
  body : Statement

/-- A program for records. -/
structure Script where
  rules : List (Condition × Statement) := []
  functions : List (Text × Function) := []

end LtoBridge.Awk
