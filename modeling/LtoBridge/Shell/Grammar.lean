/-
**The grammar of a shell.**

Words can hold commands and commands consist of words, so both are read together.  Every step takes
at least one character or goes one level down in the grammar, so a multiple of the length of the
script is enough fuel for all of them.

Main definitions:

* `LtoBridge.Shell.Place`: where a word stands;
* `LtoBridge.Shell.Reader.parts`, `LtoBridge.Shell.Reader.dollar`: words and expansions;
* `LtoBridge.Shell.Reader.list`, `LtoBridge.Shell.Reader.command`: commands;
* `LtoBridge.Shell.nextCommand`: read the commands of the next line.
-/

import LtoBridge.Shell.Source

set_option autoImplicit false

namespace LtoBridge.Shell

open LtoBridge.Programs (Text)

/-- Where a word is read. -/
inductive Place
  /-- Among commands, where some characters end it. -/
  | bare
  /-- Within double quotes, up to the closing one. -/
  | quotes
  /-- Up to one of some characters, which is not taken. -/
  | before (stops : List Char) (quoted : Bool)
  /-- In a text that follows a line, up to its end. -/
  | here
  /-- In an expression within double parentheses, up to those. -/
  | sum (depth : Nat)

namespace Place

/-- Is what stands there quoted? -/
def quoted : Place → Bool
  | .bare => false
  | .before _ q => q
  | .quotes | .here | .sum _ => true

/-- Does the character stand for itself there? -/
def isOrdinary (p : Place) (c : Char) : Bool :=
  match p with
  | .bare => !isMark c && !isMeta c
  | .before stops _ => !isMark c && !stops.contains c
  | .quotes | .here => c != '"' && c != '\\' && c != '$' && c != Char.ofNat 96
  | .sum _ => !isMark c && c != '(' && c != ')'

/-- Does a backslash take away the meaning of the character there? -/
def escapes (p : Place) (c : Char) : Bool :=
  match p with
  | .bare => true
  | .before stops q =>
      !q || c == '$' || c == Char.ofNat 96 || c == '\\' || c == '"' || stops.contains c
  | .quotes | .sum _ => c == '$' || c == Char.ofNat 96 || c == '\\' || c == '"'
  | .here => c == '$' || c == Char.ofNat 96 || c == '\\'

end Place

/-! ### Pieces of words -/

/-- The text up to a backquote without a backslash before it, and the number of characters up to
there. -/
def upToBackquote (quoted : Bool) : (count : Nat) → (found : Text) → Text → Option (Text × Nat)
  | _, _, [] => none
  | count, found, '\\' :: d :: rest =>
      if d = Char.ofNat 96 ∨ d = '\\' ∨ d = '$' ∨ (quoted ∧ d = '"') then
        upToBackquote quoted (count + 2) (d :: found) rest
      else upToBackquote quoted (count + 2) (d :: '\\' :: found) rest
  | count, found, c :: rest =>
      if c = Char.ofNat 96 then some (found.reverse, count)
      else upToBackquote quoted (count + 1) (c :: found) rest

/-- The text within quotes in which backslashes stand for characters, and how long it is with its
closing quote. -/
def upToQuote : (fuel count : Nat) → (found : Text) → Text → Option (Text × Nat)
  | 0, _, _, _ => none
  | _ + 1, _, _, [] => none
  | fuel + 1, count, found, '\\' :: d :: rest =>
      let number (base most taken : Nat) (rest : Text) : Option (Text × Nat) :=
        let digits := (rest.take most).takeWhile fun c => Text.digitValue c < base
        upToQuote fuel (count + taken + digits.length)
          (Char.ofNat (Text.ofDigits base digits % 256) :: found) (rest.drop digits.length)
      let one (c : Char) : Option (Text × Nat) := upToQuote fuel (count + 2) (c :: found) rest
      match d with
      | 'n' => one '\n'
      | 't' => one '\t'
      | 'r' => one '\r'
      | 'a' => one '\x07'
      | 'b' => one '\x08'
      | 'e' | 'E' => one '\x1b'
      | 'f' => one '\x0c'
      | 'v' => one '\x0b'
      | 'x' => number 16 2 2 rest
      | d =>
          if '0' ≤ d ∧ d ≤ '7' then number 8 3 1 (d :: rest)
          else if d = '\\' ∨ d = '\'' ∨ d = '"' ∨ d = '?' then one d
          else upToQuote fuel (count + 2) (d :: '\\' :: found) rest
  | fuel + 1, count, found, c :: rest =>
      if c = '\'' then some (found.reverse, count + 1)
      else upToQuote fuel (count + 1) (c :: found) rest

/-- The name of a parameter at the beginning of a text.  Outside of braces a number has one
digit. -/
def parameterAt (braces : Bool) (text : Text) : Text :=
  match text with
  | [] => []
  | c :: _ =>
      if isNameStart c then text.takeWhile isNameChar
      else if c.isDigit then if braces then text.takeWhile Char.isDigit else [c]
      else if isSpecial c then [c]
      else []

/-- The redirection that an operator stands for, with the stream that it is about if none is
given. -/
def targetOf? (operator : String) : Option (Nat × Target) :=
  match operator with
  | "<" => some (0, .input)
  | ">" => some (1, .output false)
  | ">|" => some (1, .output true)
  | ">>" => some (1, .append)
  | "<>" => some (0, .both)
  | "<&" => some (0, .duplicate)
  | ">&" => some (1, .duplicate)
  | "<<" | "<<-" => some (0, .text false)
  | "<<<" => some (0, .text true)
  | "&>" => some (1, .outputAndErrors false)
  | "&>>" => some (1, .outputAndErrors true)
  | _ => none

/-- The number of a stream at the beginning of a text, if an operator follows that redirects it. -/
def streamAt? (d : Dialect) (text : Text) : Option Text :=
  let digits := text.takeWhile Char.isDigit
  let next := (text.drop digits.length).head?
  if digits.isEmpty ∨ (d = .plain ∧ digits.length > 1) ∨ ¬ (next = some '<' ∨ next = some '>') then
    none
  else some digits

/-- The name at the beginning of a text to which a value is assigned. -/
def assignedAt? (d : Dialect) (text : Text) : Option Text :=
  let name := text.takeWhile isNameChar
  if ¬ isName name then none
  else match text.drop name.length with
    | '=' :: _ => some name
    | '+' :: '=' :: _ => if d = .rich then some name else none
    | '[' :: rest =>
        let index := rest.takeWhile fun c => c != ']' && c != ' ' && c != '\n'
        match d, rest.drop index.length with
        | .rich, ']' :: '=' :: _ | .rich, ']' :: '+' :: '=' :: _ => some name
        | _, _ => none
    | _ => none

namespace Reader

/-- Skip a character that has to come next. -/
def skipChar (c : Char) (complaint : String) : Reader Unit := do
  match ← ahead with
  | d :: _ => if c = d then skip 1 else fail complaint
  | [] => fail complaint

/-- What is said of braces that are not closed. -/
def openBrace : String := "Missing '\x7d'"

/-- What is said of quotes that are not closed. -/
def openQuote : String := "Unterminated quoted string"

/-- Read all of another text, which begins in the current line. -/
def within {α : Type} (text : Text) (r : Reader α) : Reader α := fun s =>
  match r { s with text, hidden := 0, active := [], chained := none } with
  | .ok (a, _) => .ok (a, s)
  | .error e => .error e

/-- Two commands one after the other. -/
def join : Command → Command → Reader Command
  | first, .nothing => return first
  | first, second => return .sequence first second

/-! ### Words and commands -/

mutual

/-- Read parts up to the end of the place, after those that have been found, the last one first. -/
def parts : (fuel : Nat) → Place → (found : List Part) → Reader Word
  | 0, _, _ => fail "Too long"
  | fuel + 1, place, found => do
      let plain ← takeWhile place.isOrdinary
      let quoted := place.quoted
      let found := if plain.isEmpty then found else .literal plain quoted :: found
      let other (count : Nat) (text : Text) (quoted : Bool) : Reader Word := do
        skip count
        parts fuel place (.literal text quoted :: found)
      match ← ahead with
      | [] =>
          match place with
          | .bare | .here => return found.reverse
          | .quotes => fail openQuote
          | .before _ _ => fail openBrace
          | .sum _ => fail "Missing '))'"
      | c :: rest =>
          if c = '"' then
            match place with
            | .quotes => do
                skip 1
                return found.reverse
            | .here => other 1 ['"'] true
            | .sum _ => other 1 ['"'] true
            | _ => do
                skip 1
                match ← parts fuel .quotes [] with
                | [] => parts fuel place (.literal [] true :: found)
                | inner => parts fuel place (inner.reverse ++ found)
          else if c = '\'' ∧ isMark c then
            if quoted then other 1 ['\''] true
            else do
              let inner := rest.takeWhile (· != '\'')
              if inner.length = rest.length then fail openQuote
              else other (inner.length + 2) inner true
          else if c = '\\' then
            match rest with
            | [] => other 1 ['\\'] true
            | '\n' :: _ => do
                skip 2
                parts fuel place found
            | d :: _ =>
                if place.escapes d then other 2 [d] true else other 2 ['\\', d] true
          else if c = '$' then do
            skip 1
            let part ← dollar fuel quoted
            parts fuel place (part :: found)
          else if c = Char.ofNat 96 then
            match upToBackquote (match place with | .quotes => true | _ => false) 0 [] rest with
            | none => fail "EOF in backquote substitution"
            | some (script, count) => do
                let body ← within script (do
                  let body ← list fuel
                  skipBlanks
                  if (← ahead).isEmpty then return body else unexpected "")
                skip (count + 2)
                parts fuel place (.command body quoted :: found)
          else match place, c with
            | .bare, '<' => do
                if (← isRich) ∧ rest.head? = some '(' then do
                  skip 2
                  let body ← list fuel
                  expectOperator ")"
                  parts fuel place (.feed body :: found)
                else return found.reverse
            | .sum depth, '(' => do
                skip 1
                parts fuel (.sum (depth + 1)) (.literal ['('] true :: found)
            | .sum (depth + 1), ')' => do
                skip 1
                parts fuel (.sum depth) (.literal [')'] true :: found)
            | .sum 0, ')' =>
                match rest with
                | ')' :: _ => do
                    skip 2
                    return found.reverse
                | _ => other 1 [')'] true
            | _, _ => return found.reverse

/-- Read the expansion after a dollar sign. -/
def dollar : (fuel : Nat) → (quoted : Bool) → Reader Part
  | 0, _ => fail "Too long"
  | fuel + 1, quoted => do
      let text ← ahead
      let rich ← isRich
      match text with
      | '(' :: '(' :: _ => do
          skip 2
          return .arithmetic (← parts fuel (.sum 0) []) quoted
      | '(' :: _ => do
          skip 1
          let body ← list fuel
          expectOperator ")"
          return .command body quoted
      | '\x7b' :: _ => do
          skip 1
          let part ← braced fuel quoted
          skipChar '\x7d' openBrace
          return part
      | '[' :: _ =>
          if rich then do
            skip 1
            let e ← parts fuel (.before [']'] true) []
            skipChar ']' openBrace
            return .arithmetic e quoted
          else return .literal ['$'] quoted
      | '\'' :: rest =>
          if rich ∧ ¬ quoted then
            match upToQuote (rest.length + 1) 0 [] rest with
            | some (inner, count) => do
                skip (count + 1)
                return .literal inner true
            | none => fail openQuote
          else return .literal ['$'] quoted
      | '"' :: _ => return .literal (if rich ∧ ¬ quoted then [] else ['$']) quoted
      | _ => do
          let name := parameterAt false text
          if name.isEmpty then return .literal ['$'] quoted
          else do
            skip name.length
            return .parameter name none .plain quoted

/-- Read the expansion after an opening brace, up to the closing one. -/
def braced : (fuel : Nat) → (quoted : Bool) → Reader Part
  | 0, _ => fail "Too long"
  | fuel + 1, quoted => do
      let rich ← isRich
      let text ← ahead
      let inBraces (quoted : Bool) : Reader Word := parts fuel (.before ['\x7d'] quoted) []
      let lengthOf : Text := match text with
        | '#' :: rest => parameterAt true rest
        | _ => []
      let isLength : Bool := match (text.drop 1).drop lengthOf.length with
        | '\x7d' :: _ => !lengthOf.isEmpty
        | '[' :: _ => rich && !lengthOf.isEmpty
        | _ => false
      let indirect : Bool := rich && text.head? == some '!' &&
        (text.drop 1).head?.any fun c => isNameChar c || c == '#'
      if isLength ∨ indirect then skip 1
      let name := parameterAt true (← ahead)
      skip name.length
      let index ← match rich, ← ahead with
        | true, '[' :: _ => do
            skip 1
            let w ← parts fuel (.before [']'] true) []
            skipChar ']' "bad substitution"
            pure (some w)
        | _, _ => pure none
      let broken : Reader Part := do
        let _ ← inBraces quoted
        return .parameter name index .broken quoted
      let change (count : Nat) (f : Word → Change Word) (quotedWord : Bool) : Reader Part := do
        skip count
        return .parameter name index (f (← inBraces quotedWord)) quoted
      if name.isEmpty then broken
      else if isLength then return .parameter name index .length quoted
      else if indirect then
        return .parameter name index (if index.isSome then .indices else .indirect) quoted
      else match ← ahead with
        | '\x7d' :: _ => return .parameter name index .plain quoted
        | '#' :: '#' :: _ => change 2 (.trim true true) false
        | '#' :: _ => change 1 (.trim true false) false
        | '%' :: '%' :: _ => change 2 (.trim false true) false
        | '%' :: _ => change 1 (.trim false false) false
        | c :: rest => do
            let isTest (c : Char) : Bool := "-=?+".toList.contains c
            if isTest c then change 1 (.test c false) quoted
            else match c, rest with
              | ':', d :: _ =>
                  if isTest d then change 2 (.test d true) quoted
                  else if ¬ rich then broken
                  else do
                    skip 1
                    let offset ← parts fuel (.before [':', '\x7d'] true) []
                    match ← ahead with
                    | ':' :: _ => do
                        skip 1
                        let count ← inBraces true
                        return .parameter name index (.part offset (some count)) quoted
                    | _ => return .parameter name index (.part offset none) quoted
              | '/', _ =>
                  if ¬ rich then broken
                  else do
                    let extent : Extent := match rest with
                      | '/' :: _ => .every
                      | '#' :: _ => .atStart
                      | '%' :: _ => .atEnd
                      | _ => .first
                    skip (if extent = .first then 1 else 2)
                    let pattern ← parts fuel (.before ['/', '\x7d'] false) []
                    match ← ahead with
                    | '/' :: _ => do
                        skip 1
                        let text ← inBraces false
                        return .parameter name index (.substitute extent pattern text) quoted
                    | _ => return .parameter name index (.substitute extent pattern []) quoted
              | '^', '^' :: _ =>
                  if rich then change 2 (fun _ => .capitals true true) true else broken
              | '^', _ => if rich then change 1 (fun _ => .capitals true false) true else broken
              | '@', letter :: _ =>
                  if rich then change 2 (fun _ => match letter with
                    | 'U' => .capitals true true
                    | 'u' => .capitals true false
                    | 'L' => .capitals false true
                    | 'Q' => .escaped
                    | _ => .plain) true
                  else broken
              | ',', ',' :: _ =>
                  if rich then change 2 (fun _ => .capitals false true) true else broken
              | ',', _ => if rich then change 1 (fun _ => .capitals false false) true else broken
              | _, _ => broken
        | [] => fail openBrace

/-- Read words up to a closing parenthesis. -/
def listed : (fuel : Nat) → (found : List Word) → Reader (List Word)
  | 0, _ => fail "Too long"
  | fuel + 1, found => do
      skipLines fuel
      match ← ahead with
      | ')' :: _ => do
          skip 1
          return found.reverse
      | text =>
          if text.isEmpty ∨ (operatorAt? .rich text).isSome then unexpected ")"
          else do
            let w ← parts fuel .bare []
            listed fuel (w :: found)

/-- Read an assignment to a name, which comes next. -/
def assignment : (fuel : Nat) → (name : Text) → Reader (Assignment Word)
  | 0, _ => fail "Too long"
  | fuel + 1, name => do
      skip name.length
      let index ← match ← ahead with
        | '[' :: _ => do
            skip 1
            let w ← parts fuel (.before [']'] true) []
            skip 1
            pure (some w)
        | _ => pure none
      let adds := (← ahead).head? == some '+'
      skip (if adds then 2 else 1)
      match ← isRich, ← ahead with
      | true, '(' :: _ => do
          skip 1
          return { name, index, adds, value := [], list := some (← listed fuel []) }
      | _, _ => return { name, index, adds, value := ← parts fuel .bare [] }

/-- Read a redirection, if one comes next. -/
def redirection? : (fuel : Nat) → Reader (Option (Redirection Word))
  | 0 => fail "Too long"
  | fuel + 1 => do
      skipBlanks
      let text ← ahead
      let digits := (streamAt? (← get).dialect text).getD []
      match operatorAt? (← get).dialect (text.drop digits.length) with
      | none => return none
      | some operator =>
          match targetOf? operator with
          | none => return none
          | some (stream, target) => do
              let stream := (Text.number? digits).getD stream
              skip (digits.length + operator.length)
              skipBlanks
              let text ← ahead
              if text.isEmpty ∨ (operatorAt? (← get).dialect text).isSome then unexpected ""
              else do
                let w ← parts fuel .bare []
                if operator = "<<" ∨ operator = "<<-" then do
                  let body ← hereText w.text (operator == "<<-")
                  let word ← if w.isQuoted then pure [Part.literal body true]
                    else within body (parts fuel .here [])
                  return some { stream, target, word }
                else return some { stream, target, word := w }

/-- Read the redirections after a command. -/
def redirections : (fuel : Nat) → (found : List (Redirection Word)) →
    Reader (List (Redirection Word))
  | 0, _ => fail "Too long"
  | fuel + 1, found => do
      match ← redirection? fuel with
      | some r => redirections fuel (r :: found)
      | none => return found.reverse

/-- Read the rest of a simple command.  Lists that are assigned in a declaration are assigned after
it. -/
def simple : (fuel line : Nat) → (lists assignments : List (Assignment Word)) →
    (words : List Word) → (redirections : List (Redirection Word)) → Reader Command
  | 0, _, _, _, _, _ => fail "Too long"
  | fuel + 1, line, lists, assignments, words, redirections => do
      let done : Command :=
        let own := Command.simple line assignments.reverse words.reverse redirections.reverse
        if lists.isEmpty then own else .sequence own (.simple line lists.reverse [] [])
      match ← redirection? fuel with
      | some r => simple fuel line lists assignments words (r :: redirections)
      | none => do
          followAlias
          let text ← ahead
          let d := (← get).dialect
          match operatorAt? d text, words with
          | some "(", [name] =>
              if ¬ assignments.isEmpty ∨ ¬ redirections.isEmpty then unexpected ""
              else do
                skip 1
                expectOperator ")"
                match Word.plain? name with
                | some name => do
                    if d = .plain ∧ ¬ isName name then fail "Bad function name"
                    skipLines fuel
                    return .define name (← command fuel)
                | none => fail "Bad function name"
          | some "(", _ => unexpected ""
          | some _, _ => return done
          | none, _ =>
              if text.isEmpty then return done
              else match words, assignedAt? d text with
                | [], some name => do
                    let a ← assignment fuel name
                    simple fuel line lists (a :: assignments) [] redirections
                | _, name => do
                    let name := name.getD []
                    let isList : Bool := d == .rich && !name.isEmpty &&
                      "=(".toList.isPrefixOf (text.drop name.length) &&
                      words.getLast?.any fun w =>
                        declaring.contains (String.ofList ((Word.plain? w).getD []))
                    if isList then do
                      let a ← assignment fuel name
                      simple fuel line (a :: lists) assignments ([.literal name false] :: words)
                        redirections
                    else do
                      let w ← parts fuel .bare []
                      simple fuel line lists assignments (w :: words) redirections

/-- Read the words of a loop up to the end of a line. -/
def loopWords : (fuel : Nat) → (found : List Word) → Reader (List Word)
  | 0, _ => fail "Too long"
  | fuel + 1, found => do
      match ← operator? with
      | some ";" | some "\n" => do
          skip 1
          return found.reverse
      | some _ => unexpected ""
      | none =>
          if (← ahead).isEmpty then unexpected ""
          else do
            let w ← parts fuel .bare []
            loopWords fuel (w :: found)

/-- Read the patterns of an arm, up to the bracket that closes them. -/
def patterns : (fuel : Nat) → (found : List Word) → Reader (List Word)
  | 0, _ => fail "Too long"
  | fuel + 1, found => do
      skipBlanks
      if (← ahead).isEmpty ∨ (← operator?).isSome then unexpected ""
      else do
        let w ← parts fuel .bare []
        match ← operator? with
        | some "|" => do
            skip 1
            patterns fuel (w :: found)
        | some ")" => do
            skip 1
            return (w :: found).reverse
        | _ => unexpected ")"

/-- Read the arms of a choice. -/
def arms : (fuel : Nat) → (found : List (List Word × Command × ArmEnd)) →
    Reader (List (List Word × Command × ArmEnd))
  | 0, _ => fail "Too long"
  | fuel + 1, found => do
      skipLines fuel
      if (← keyword?) = some "esac" then do
        skip 4
        return found.reverse
      else do
        if (← operator?) = some "(" then skip 1
        let ps ← patterns fuel []
        let body ← list fuel
        match ← operator? with
        | some ";;" => do
            skip 2
            arms fuel ((ps, body, .leaves) :: found)
        | some ";&" => do
            skip 2
            arms fuel ((ps, body, .goesOn) :: found)
        | some ";;&" => do
            skip 3
            arms fuel ((ps, body, .looksOn) :: found)
        | _ => do
            if (← keyword?) = some "esac" then do
              skip 4
              return ((ps, body, .leaves) :: found).reverse
            else unexpected ";;"

/-- Read the words and signs of a condition up to its end. -/
def conditionItems : (fuel : Nat) → (afterMatch : Bool) → (found : List (Bool × Word)) →
    Reader (List (Bool × Word))
  | 0, _, _ => fail "Too long"
  | fuel + 1, afterMatch, found => do
      skipLines fuel
      let text ← ahead
      let sign (text : String) : Reader (List (Bool × Word)) := do
        skip text.length
        conditionItems fuel false ((true, [.literal text.toList false]) :: found)
      if afterMatch then do
        let w ← parts fuel (.before [' ', '\t', '\n'] false) []
        conditionItems fuel false ((false, w) :: found)
      else match operatorAt? .plain text with
        | some "&&" => sign "&&"
        | some "||" => sign "||"
        | some "(" => sign "("
        | some ")" => sign ")"
        | some "<" => sign "<"
        | some ">" => sign ">"
        | some _ => unexpected "]]"
        | none =>
            if text.isEmpty then unexpected "]]"
            else match plainWordAt? text with
              | some [']', ']'] => do
                  skip 2
                  return found.reverse
              | some ['!'] => sign "!"
              | word => do
                  let w ← parts fuel .bare []
                  conditionItems fuel (word == some ['=', '~']) ((false, w) :: found)

/-- Read the body of a loop. -/
def loopBody : (fuel : Nat) → Reader Command
  | 0 => fail "Too long"
  | fuel + 1 => do
      skipLines fuel
      expectKeyword "do"
      let body ← fullList fuel "done"
      expectKeyword "done"
      return body

/-- Read what follows a condition: the commands to run and the other cases. -/
def branches : (fuel : Nat) → Reader Command
  | 0 => fail "Too long"
  | fuel + 1 => do
      let test ← fullList fuel "then"
      expectKeyword "then"
      let yes ← fullList fuel "fi"
      match ← keyword? with
      | some "else" => do
          skip 4
          let no ← fullList fuel "fi"
          expectKeyword "fi"
          return .conditional test yes no
      | some "elif" => do
          skip 4
          return .conditional test yes (← branches fuel)
      | _ => do
          expectKeyword "fi"
          return .conditional test yes .nothing

/-- Read a command that begins with a keyword or a parenthesis, without its redirections; nothing
if there is none. -/
def compound? : (fuel line : Nat) → Reader (Option Command)
  | 0, _ => fail "Too long"
  | fuel + 1, line => do
      let rich ← isRich
      match ← operator? with
      | some "(" => do
          if rich ∧ "((".toList.isPrefixOf (← ahead) then do
            skip 2
            return some (.calculation (← parts fuel (.sum 0) []))
          else do
            skip 1
            let body ← fullList fuel ")"
            expectOperator ")"
            return some (.separate line body (← redirections fuel []))
      | _ =>
          match ← keyword? with
          | some "\x7b" => do
              skip 1
              let body ← fullList fuel "\x7d"
              expectKeyword "\x7d"
              return some body
          | some "if" => do
              skip 2
              return some (← branches fuel)
          | some "while" => do
              skip 5
              let test ← fullList fuel "do"
              return some (.loop false test (← loopBody fuel))
          | some "until" => do
              skip 5
              let test ← fullList fuel "do"
              return some (.loop true test (← loopBody fuel))
          | some "for" => do
              skip 3
              skipBlanks
              if rich ∧ "((".toList.isPrefixOf (← ahead) then do
                skip 2
                let begin ← parts fuel (.before [';'] true) []
                skip 1
                let test ← parts fuel (.before [';'] true) []
                skip 1
                let step ← parts fuel (.sum 0) []
                if (← operator?) = some ";" then skip 1
                return some (.count begin test step (← loopBody fuel))
              else do
                let name := (plainWordAt? (← ahead)).getD []
                if ¬ isName name then fail "Bad for loop variable"
                skip name.length
                if (← operator?) = some ";" then do
                  skip 1
                  return some (.each name none (← loopBody fuel))
                else do
                  skipLines fuel
                  if plainWordAt? (← ahead) = some ['i', 'n'] then do
                    skip 2
                    let words ← loopWords fuel []
                    return some (.each name (some words) (← loopBody fuel))
                  else return some (.each name none (← loopBody fuel))
          | some "case" => do
              skip 4
              skipBlanks
              if (← ahead).isEmpty ∨ (← operator?).isSome then unexpected ""
              else do
                let w ← parts fuel .bare []
                skipLines fuel
                if plainWordAt? (← ahead) = some ['i', 'n'] then do
                  skip 2
                  return some (.choose w (← arms fuel []))
                else unexpected "in"
          | some "[[" => do
              skip 2
              return some (.condition (← conditionItems fuel false []))
          | some "function" => do
              skip 8
              skipBlanks
              let name ← takeWhile fun c => !isMeta c
              if (← operator?) = some "(" then do
                skip 1
                expectOperator ")"
              skipLines fuel
              return some (.define name (← command fuel))
          | _ => return none

/-- Read a command with what is redirected in it. -/
def command : (fuel : Nat) → Reader Command
  | 0 => fail "Too long"
  | fuel + 1 => do
      skipBlanks
      let line := (← get).line
      match ← compound? fuel line with
      | some c =>
          match ← redirections fuel [] with
          | [] => return c
          | rs => return .group line c rs
      | none =>
          if (← keyword?).isSome then unexpected ""
          else match ← alias? with
            | some (word, text) => do
                replaceAlias word text
                command fuel
            | none =>
                let text ← ahead
                let isRedirection : Bool := match operatorAt? (← get).dialect text with
                  | some operator => (targetOf? operator).isSome
                  | none => true
                if text.isEmpty ∨ ¬ isRedirection then unexpected ""
                else simple fuel line [] [] [] []

/-- Read commands that feed each other, the first ones of which have been read. -/
def pipeline : (fuel : Nat) → (found : List Command) → Reader Command
  | 0, _ => fail "Too long"
  | fuel + 1, found => do
      let c ← command fuel
      match ← operator? with
      | some "|" => do
          skip 1
          skipLines fuel
          pipeline fuel (c :: found)
      | some "|&" => do
          skip 2
          skipLines fuel
          let joined := Command.group 0 c
            [{ stream := 2, target := .duplicate, word := [.literal ['1'] false] }]
          pipeline fuel (joined :: found)
      | _ => return if found.isEmpty then c else .pipeline (c :: found).reverse

/-- Read commands that feed each other, perhaps with their status turned around. -/
def negated : (fuel : Nat) → Reader Command
  | 0 => fail "Too long"
  | fuel + 1 => do
      match ← keyword? with
      | some "!" => do
          skip 1
          if (← get).dialect = .plain ∧ (← keyword?) = some "!" then unexpected ""
          return .negation (← negated fuel)
      | some "time" => do
          skip 4
          negated fuel
      | _ => pipeline fuel []

/-- Read pipelines that depend on what came before. -/
def chain : (fuel : Nat) → Command → Reader Command
  | 0, _ => fail "Too long"
  | fuel + 1, first => do
      match ← operator? with
      | some "&&" => do
          skip 2
          skipLines fuel
          let second ← negated fuel
          chain fuel (.both first second)
      | some "||" => do
          skip 2
          skipLines fuel
          let second ← negated fuel
          chain fuel (.either first second)
      | _ => return first

/-- Read commands up to the end of a list. -/
def list : (fuel : Nat) → Reader Command
  | 0 => fail "Too long"
  | fuel + 1 => do
      skipLines fuel
      let closes := (← keyword?).any closingKeywords.contains ||
        (← operator?).any closingOperators.contains
      if closes ∨ (← ahead).isEmpty then return .nothing
      else do
        let first ← chain fuel (← negated fuel)
        match ← operator? with
        | some ";" | some "\n" => do
            skip 1
            join first (← list fuel)
        | some "&" => do
            skip 1
            join (.background first) (← list fuel)
        | _ => return first

/-- Read commands up to something that has to follow them, of which there is at least one. -/
def fullList : (fuel : Nat) → (wanted : String) → Reader Command
  | 0, _ => fail "Too long"
  | fuel + 1, wanted => do
      match ← list fuel with
      | .nothing => do
          skipLines fuel
          if (← isRich) ∨ ¬ (← ahead).isEmpty then unexpected "" else unexpected wanted
      | c => return c

/-- Read the commands of a line. -/
def line : (fuel : Nat) → Reader Command
  | 0 => fail "Too long"
  | fuel + 1 => do
      let first ← chain fuel (← negated fuel)
      let more (first : Command) : Reader Command := do
        skip 1
        skipBlanks
        match ← ahead with
        | [] => return first
        | '\n' :: _ => do
            skip 1
            return first
        | _ => join first (← line fuel)
      match ← operator? with
      | none => if (← ahead).isEmpty then return first else unexpected ""
      | some "\n" => do
          skip 1
          return first
      | some ";" => more first
      | some "&" => more (.background first)
      | some _ => unexpected ""

end

end Reader

/-- The fuel for reading a script. -/
def readingFuel (text : Text) : Nat := 16 * text.length + 64

/-- Read the commands of the next line that has any, and what follows them; nothing at the end of
the script. -/
def nextCommand (fuel : Nat) (s : Source) : Except Fault (Option (Command × Source)) := do
  let (_, s) ← Reader.skipLines fuel s
  if s.text.isEmpty then return none
  else do
    let (c, s) ← Reader.line fuel s
    return some (c, s)

end LtoBridge.Shell
