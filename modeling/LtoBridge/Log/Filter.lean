/-
**Which events are shown.**

A filter is a list of directives with commas between them, such as `debug`, `some::target=info`
or `some::target[span\x7bfield=value\x7d]=trace`.  A directive without a span and without a value
applies to the components whose name begins with its target; of several ones that apply, the most specific
one decides.  A directive with a span or a field applies to what happens within such a span.

Main definitions:

* `LtoBridge.Log.Directive`, `LtoBridge.Log.Filter`;
* `LtoBridge.Log.Filter.parse?`: read a filter;
* `LtoBridge.Log.Filter.shows`: is an event shown?
* `LtoBridge.Log.Subscriber`: who gets the events.
-/

import LtoBridge.Log
import LtoBridge.Log.ValuePattern

set_option autoImplicit false

namespace LtoBridge.Log

/-- What a directive asks of a field: that there is one with the name, and that a pattern fits its
value if one is given. -/
structure FieldTest where
  name : String
  pattern : Option String
  deriving DecidableEq, Repr

/-- A directive: the least severe level that it lets through, if any, for the components whose
name begins with the target, everywhere or within a span. -/
structure Directive where
  target : Option String := none
  span : Option String := none
  field : Option FieldTest := none
  /-- The rank of the least severe level that is shown; 6 stands for none. -/
  least : Nat := 1
  deriving DecidableEq, Repr

/-- A list of directives. -/
abbrev Filter := List Directive

/-! ### Levels -/

/-- The number that a numeral stands for, which can have a plus sign. -/
def numeral? (text : String) : Option Nat :=
  let digits := match text.toList with
    | '+' :: rest => rest
    | rest => rest
  if digits.isEmpty ∨ ¬ digits.all Char.isDigit then none
  else some (digits.foldl (fun n d => 10 * n + (d.toNat - 48)) 0)

/-- The rank of a level name, in any case, or of its number. -/
def rank? (text : String) : Option Nat :=
  match numeral? text with
  | some n => if n ≤ 5 then some (6 - n) else none
  | none =>
      match String.ofList (text.toList.map Char.toLower) with
      | "trace" => some 1
      | "debug" => some 2
      | "info" => some 3
      | "warn" => some 4
      | "error" => some 5
      | "off" => some 6
      | _ => none

/-! ### Reading a directive -/

/-- The part of a directive that is being read, with the byte where it begins. -/
inductive Stage
  | start
  | name (start : Nat)
  | span (start : Nat)
  | field (start : Nat)
  | fields
  | bracket
  | level (start : Nat)
  deriving DecidableEq

/-- Is the character a blank around a directive? -/
def isBlank (c : Char) : Bool :=
  let n := c.toNat
  n == 0x20 || (9 ≤ n && n ≤ 13) || n == 0x85 || n == 0xA0 || n == 0x1680 ||
    (0x2000 ≤ n && n ≤ 0x200A) || n == 0x2028 || n == 0x2029 || n == 0x202F || n == 0x205F ||
    n == 0x3000

/-- The characters of a text from one byte to another. -/
def slice (start stop : Nat) : (position : Nat) → List Char → List Char
  | _, [] => []
  | position, c :: rest =>
      let others := slice start stop (position + c.utf8Size) rest
      if start ≤ position ∧ position < stop then c :: others else others

/-- What a directive asks of a field.  Only what precedes a second equals sign counts. -/
def FieldTest.parse? (text : String) : Option FieldTest :=
  match text.splitOn "=" with
  | [name] => some ⟨name, none⟩
  | name :: value :: _ =>
      if (ValuePattern.parse? value).isSome then some ⟨name, some value⟩ else none
  | [] => none

/-- Go on reading a directive at a character with the given position.  A part is taken from all of
the text when it ends, by the positions where it begins and ends. -/
def Directive.step (text : List Char) (position : Nat) (c : Char) :
    Stage × Directive → Option (Stage × Directive)
  | (stage, d) =>
      let part (start : Nat) : String := String.ofList (slice start position 0 text)
      let next := position + 1
      match stage with
      | .start =>
          if c = '[' then some (.span next, d)
          else if c = '-' ∨ c = ':' ∨ c = '_' ∨ Text.isAlphanumeric c then some (.name position, d)
          else none
      | .name start =>
          if c = '=' then some (.level next, { d with target := some (part start) })
          else if c = '[' then some (.span next, { d with target := some (part start) })
          else some (stage, d)
      | .span start =>
          if c = ']' then some (.bracket, { d with span := some (part start) })
          else if c = '\x7b' then
            some (.field next, { d with span := if part start = "" then none else part start })
          else some (stage, d)
      | .field start =>
          if c = '\x7d' then
            if part start = "" then none
            else (FieldTest.parse? (part start)).map fun test =>
              (.fields, { d with field := some test })
          else some (stage, d)
      | .fields => if c = ']' then some (.bracket, d) else none
      | .bracket => if c = '=' then some (.level next, d) else none
      | .level _ => some (stage, d)

/-- Finish reading a directive. -/
def Directive.finish? (text : List Char) : Stage × Directive → Option Directive
  | (stage, d) =>
      let part (start : Nat) : String :=
        String.ofList (slice start (text.foldl (fun n c => n + c.utf8Size) 0) 0 text)
      match stage with
      | .name start =>
          match rank? (part start) with
          | some least => some { d with least }
          | none => some { d with target := some (part start) }
      | .level start =>
          if part start = "" then some d else (rank? (part start)).map fun least => { d with least }
      | .bracket => some d
      | _ => none

/-- Read characters of a directive, the first of which has the given position. -/
def Directive.readFrom? (text : List Char) :
    (position : Nat) → Stage × Directive → List Char → Option (Stage × Directive)
  | _, state, [] => some state
  | position, state, c :: rest => do
      let state ← Directive.step text position c state
      Directive.readFrom? text (position + c.utf8Size) state rest

/-- Read a directive.  Positions are counted without the blanks around it, but they are applied to
the text with them. -/
def Directive.parse? (text : String) : Option Directive := do
  let all := text.toList
  let trimmed := ((all.dropWhile isBlank).reverse.dropWhile isBlank).reverse
  let state ← Directive.readFrom? all 0 (.start, {}) trimmed
  Directive.finish? all state

/-- Read a filter.  One without directives lets errors through. -/
def Filter.parse? (text : String) : Option Filter := do
  let directives ← ((text.splitOn ",").filter (· ≠ "")).mapM Directive.parse?
  some (if directives.isEmpty then [{ least := 5 }] else directives)

/-! ### Directives that apply everywhere -/

/-- Can a directive be checked without looking at spans and values? -/
def Directive.isStatic (d : Directive) : Bool :=
  d.span.isNone && d.field.all (·.pattern.isNone)

/-- Is a directive about what happens within spans? -/
def Directive.isDynamic (d : Directive) : Bool := d.span.isSome || d.field.isSome

/-- Does a component have a name that begins with the target of a directive? -/
def Directive.covers (d : Directive) (c : Component) : Bool :=
  d.target.all fun target => target.toList.isPrefixOf c.target.toList

/-- Is the second directive at least as specific as the first one?  The longer target counts, then
a field, then the order of the names of fields. -/
def Directive.yields (d e : Directive) : Bool :=
  let size (d : Directive) : Nat := match d.target with
    | some target => target.utf8ByteSize + 1
    | none => 0
  let field (d : Directive) : String := match d.field with
    | some test => test.name
    | none => ""
  if size d ≠ size e then size d < size e
  else if d.field.isSome ≠ e.field.isSome then e.field.isSome
  else field d ≤ field e

/-- The most specific directive, the later one of two. -/
def Filter.mostSpecific? (f : Filter) : Option Directive :=
  f.foldl (fun best d => match best with
    | some b => if b.yields d then some d else some b
    | none => some d) none

/-- Of the directives that can be checked anywhere and apply to a component, does the most specific
one let a level through?  Every event has a message, and that is its only field; for a span, the
fields are not checked. -/
def Filter.admits (f : Filter) (isEvent : Bool) (c : Component) (level : LogLevel) : Bool :=
  let applies (d : Directive) : Bool :=
    d.isStatic && d.covers c && (!isEvent || d.field.all (·.name == "message"))
  match Filter.mostSpecific? (f.filter applies) with
  | some d => d.least ≤ level.rank
  | none => false

/-! ### Directives for spans -/

/-- Is a directive about a span, whatever the values of its fields are? -/
def Directive.concerns (d : Directive) (span : Span) : Bool :=
  d.isDynamic && d.covers Span.component && d.span.all (· == span.name) &&
    d.field.all fun test => (span.field? test.name).isSome

/-- Does a text stand for a truth value or a number?  Such a value is never that of a text. -/
def isConstant (text : String) : Bool :=
  let unsigned := match text.toList with
    | '+' :: rest | '-' :: rest => rest
    | rest => rest
  let name := String.ofList (unsigned.map Char.toLower)
  let mantissa := unsigned.takeWhile fun c => c.isDigit || c == '.'
  let exponent := unsigned.drop mantissa.length
  let isExponent := match exponent with
    | e :: sign :: digits =>
        (e == 'e' || e == 'E') &&
          (if sign == '+' || sign == '-' then !digits.isEmpty else sign.isDigit) &&
          digits.all Char.isDigit
    | rest => rest.isEmpty
  text == "true" || text == "false" || name == "inf" || name == "infinity" || name == "nan" ||
    (mantissa.any Char.isDigit && mantissa.count '.' ≤ 1 && isExponent)

/-- Does a field have the value that a directive asks for? -/
def FieldTest.accepts (test : FieldTest) (span : Span) : Bool :=
  match test.pattern, span.field? test.name with
  | none, value => value.isSome
  | some pattern, some value =>
      !isConstant pattern && (ValuePattern.parse? pattern).any (·.prefersAll value.toList)
  | some _, none => false

/-- The directives of which no later one says something else about the same spans. -/
def Filter.effective : Filter → Filter
  | [] => []
  | d :: rest =>
      let replaced := rest.any fun e =>
        e.target == d.target && e.span == d.span && e.field == d.field
      if replaced then Filter.effective rest else d :: Filter.effective rest

/-- The rank of the least severe level that a filter could let through. -/
def Filter.least (f : Filter) : Nat :=
  if f.any fun d => d.field.any (·.pattern.isSome) then 1
  else f.foldl (fun n d => min n d.least) 6

/-- Is a span shown?  It is if a directive is about it, whichever level that lets through. -/
def Filter.showsSpan (f : Filter) (span : Span) : Bool :=
  f.least ≤ Span.level.rank &&
    (f.any (·.concerns span) || f.admits false Span.component Span.level)

/-- Does the filter let a level through because it occurs within a span? -/
def Filter.admitsWithin (f : Filter) (span : Span) (level : LogLevel) : Bool :=
  f.showsSpan span && f.effective.any fun d =>
    d.concerns span && d.field.all (·.accepts span) && d.least ≤ level.rank

/-! ### Events -/

/-- Is an event shown? -/
def Filter.shows (f : Filter) (e : LogEvent) : Bool :=
  f.admits true e.notice.component e.notice.level ||
    e.span.any fun span => f.admitsWithin span e.notice.level

/-- A text in which nothing can control a terminal. -/
def harmless (text : String) : String :=
  String.join (text.toList.map fun c =>
    let n := c.toNat
    if n = 7 ∨ n = 8 ∨ n = 0x0C ∨ n = 0x1B ∨ n = 0x7F then
      "\\x" ++ Text.hexPair (UInt8.ofNat n)
    else if 0x80 ≤ n ∧ n ≤ 0x9F then "\\u\x7b" ++ Text.hex n ++ "\x7d"
    else c.toString)

/-- The line of an event. -/
def Filter.line (f : Filter) (e : LogEvent) : String :=
  match e.span.filter f.showsSpan with
  | some span => s!"{e.notice.level.name} {span.text}: {harmless e.notice.text}"
  | none => s!"{e.notice.level.name} {harmless e.notice.text}"

/-- The filter for a session whose user asked for details or did not. -/
def Filter.standard (verbose : Bool) : Filter := [{ least := if verbose then 2 else 4 }]

/-- The filter that a setting asks for, or else the standard one.  A setting that is no filter
counts as none. -/
def Filter.choose (setting : Option String) (verbose : Bool) : Filter :=
  (setting.bind Filter.parse?).getD (Filter.standard verbose)

/-! ### Subscribers -/

/-- Who gets the events of a process. -/
inductive Subscriber
  /-- Nobody. -/
  | nobody
  /-- Somebody else, who was there before the bridge and gets everything. -/
  | foreign
  /-- The user, through a filter. -/
  | user (filter : Filter)
  deriving DecidableEq

/-- The events that somebody got. -/
structure Journal where
  subscriber : Subscriber
  /-- What the user wants to see, if the user said so. -/
  setting : Option String := none
  events : List LogEvent := []

/-- The journal with one more event, if somebody gets it. -/
def Journal.add (j : Journal) (e : LogEvent) : Journal :=
  match j.subscriber with
  | .nobody => j
  | .foreign => { j with events := j.events ++ [e] }
  | .user filter => if filter.shows e then { j with events := j.events ++ [e] } else j

/-- Make the user the subscriber.  There can be only one, so this may fail. -/
def Journal.install? (j : Journal) (verbose : Bool) : Option Journal :=
  match j.subscriber with
  | .nobody => some { j with subscriber := .user (Filter.choose j.setting verbose) }
  | _ => none

/-- The lines that the user sees. -/
def Journal.lines (j : Journal) : List String :=
  match j.subscriber with
  | .user filter => j.events.map filter.line
  | _ => []

end LtoBridge.Log
