/-
**Errors of the operating system.**

Main definitions:

* `LtoBridge.OsError`: the errors that can arise, with their numbers and wording;
* `LtoBridge.ExitStatus`: how a process ended.
-/

set_option autoImplicit false

namespace LtoBridge

/-- An error of the operating system, or of the check that precedes a call to it. -/
inductive OsError
  | noEntry
  | inputOutput
  | execFormat
  | badDescriptor
  | noMemory
  | accessDenied
  | alreadyExists
  | noDevice
  | notDirectory
  | isDirectory
  | invalidArgument
  | noSpace
  | nameTooLong
  | notEmpty
  | tooManyLinks
  /-- A file name contains a zero byte. -/
  | zeroInName
  /-- A command or an argument contains a zero byte. -/
  | zeroInCommand
  /-- A length is beyond what can be addressed. -/
  | lengthOverflow
  deriving DecidableEq, Repr

namespace OsError

/-- The wording of an error and its number, if it comes from the operating system itself. -/
def wording : OsError → String × Option Nat
  | noEntry => ("No such file or directory", some 2)
  | inputOutput => ("Input/output error", some 5)
  | execFormat => ("Exec format error", some 8)
  | badDescriptor => ("Bad file descriptor", some 9)
  | noMemory => ("Cannot allocate memory", some 12)
  | accessDenied => ("Permission denied", some 13)
  | alreadyExists => ("File exists", some 17)
  | noDevice => ("No such device", some 19)
  | notDirectory => ("Not a directory", some 20)
  | isDirectory => ("Is a directory", some 21)
  | invalidArgument => ("Invalid argument", some 22)
  | noSpace => ("No space left on device", some 28)
  | nameTooLong => ("File name too long", some 36)
  | notEmpty => ("Directory not empty", some 39)
  | tooManyLinks => ("Too many levels of symbolic links", some 40)
  | zeroInName => ("file name contained an unexpected NUL byte", none)
  | zeroInCommand => ("nul byte found in provided data", none)
  | lengthOverflow => ("memory map length overflows isize", none)

/-- The message of an error. -/
def message (e : OsError) : String :=
  match e.wording with
  | (text, some number) => s!"{text} (os error {number})"
  | (text, none) => text

end OsError

/-! ### Processes -/

/-- How a process ended. -/
inductive ExitStatus
  | exited (code : UInt8)
  | killed (signal : Nat)
  deriving DecidableEq, Repr

namespace ExitStatus

/-- The names of the signals, from number 1 on. -/
def signalNames : List String :=
  ["SIGHUP", "SIGINT", "SIGQUIT", "SIGILL", "SIGTRAP", "SIGABRT", "SIGBUS", "SIGFPE", "SIGKILL",
    "SIGUSR1", "SIGSEGV", "SIGUSR2", "SIGPIPE", "SIGALRM", "SIGTERM", "SIGSTKFLT", "SIGCHLD",
    "SIGCONT", "SIGSTOP", "SIGTSTP", "SIGTTIN", "SIGTTOU", "SIGURG", "SIGXCPU", "SIGXFSZ",
    "SIGVTALRM", "SIGPROF", "SIGWINCH", "SIGIO", "SIGPWR", "SIGSYS"]

/-- Did the process end well? -/
def success : ExitStatus → Bool
  | exited code => code == 0
  | killed _ => false

/-- How a diagnostic shows the end of a process. -/
def message : ExitStatus → String
  | exited code => s!"exit status: {code}"
  | killed signal =>
      match signalNames[signal - 1]? with
      | some name => s!"signal: {signal} ({name})"
      | none => s!"signal: {signal}"

end ExitStatus

end LtoBridge
