/-
**Running the backend.**

The backend gets its arguments in a file and prints the names of the objects that it produced, one
on each line.

Main definitions:

* `LtoBridge.Backend.lines`: the lines of a program's output;
* `LtoBridge.Backend.writeArguments`: the arguments file;
* `LtoBridge.Backend.launch`, `LtoBridge.Backend.collect`: the run.
-/

import LtoBridge.ArgumentsFile
import LtoBridge.Platform

set_option autoImplicit false

namespace LtoBridge.Backend

variable {W : Type} [Platform W]

/-! ### Lines -/

/-- The lines of some output, without the newlines that end them, and what follows the last one. -/
def lines : Bytes → List Bytes × Bytes
  | [] => ([], [])
  | b :: bs =>
      match lines bs with
      | (ls, rest) =>
          if b = 10 then ([] :: ls, rest)
          else match ls with
            | [] => ([], b :: rest)
            | l :: ls => ((b :: l) :: ls, rest)

/-- A line without the carriage return at its end. -/
def trimReturn (line : List Char) : List Char :=
  if line.getLast? = some '\r' then line.dropLast else line

/-- The lines of a text that ends with a newline, with blanks between them. -/
def onOneLine (text : String) : String :=
  " ".intercalate ((text.splitOn "\n").dropLast.map fun line =>
    String.ofList (trimReturn line.toList))

/-! ### Arguments -/

/-- The name of the arguments file within the temporary directory. -/
def argumentsName : Path := Bytes.ofString "arguments"

/-- Write the arguments file. -/
def writeArguments (path : Path) (arguments : List Bytes) : Act W Unit := do
  (Act.ofOs (Platform.createFile path)).within (.creating path)
  (Act.ofOs (Platform.appendFile path (ArgumentsFile.render arguments))).within (.writing path)

/-- Report how the backend is called and what its arguments are. -/
def reportCommand (span : Option Span) (backend arguments : Path) : Act W Unit := do
  match ← Act.answer (Platform.readFile arguments) with
  | .ok contents =>
      say span (.backendCommand backend arguments (onOneLine (Utf8.lossy contents)))
  | .error error => say span (.backendCommandUnreadable arguments error)

/-! ### The run -/

/-- Run the backend to its end.  Its only argument names the arguments file. -/
def launch (backend arguments : Path) : Act W Process :=
  (Act.ofOs (Platform.launch backend [64 :: arguments])).within (.runningBackend backend)

/-- Pass on the lines of the output, up to the first one that is empty. -/
def passOn {σ : Type} (onOutput : Path → Act σ Unit) : List Bytes → Act σ Unit
  | [] => pure ()
  | line :: rest =>
      if line = [] then Act.fail .emptyLine
      else do
        onOutput line
        passOn onOutput rest

/-- **Take in what the backend did**: pass on its output, then see how it ended. -/
def collect {σ : Type} (backend : Path) (process : Process) (onOutput : Path → Act σ Unit) :
    Act σ Unit := do
  let (complete, rest) := lines process.output
  passOn onOutput complete
  match process.readError with
  | some error => (Act.fail (.os error)).within .readingOutput
  | none =>
      if rest ≠ [] then Act.fail (.unterminatedLine rest)
      else if process.status.success then pure ()
      else Act.fail (.backendFailed backend process.status)

end LtoBridge.Backend
