/-
**What the bridge says about its work.**

The bridge reports its steps as events.  An event belongs to a component and has a level, and it
may lie within a span, which is one of the three hooks at work.

Main definitions:

* `LtoBridge.MessageLevel`: the levels of messages to the user;
* `LtoBridge.Notice`: the events, with `level`, `component` and `text`;
* `LtoBridge.Span`, `LtoBridge.LogEvent`.
-/

import LtoBridge.Failure

set_option autoImplicit false

namespace LtoBridge

/-! ### Messages to the user -/

/-- The levels of the messages that a linker shows to its user. -/
inductive MessageLevel
  | info
  | warning
  | error
  | fatal
  deriving DecidableEq, Repr

/-- The code of a level in the linker's interface. -/
def MessageLevel.code : MessageLevel → Int
  | info => 0
  | warning => 1
  | error => 2
  | fatal => 3

/-- The name of a level in a message. -/
def MessageLevel.name : MessageLevel → String
  | info => "message"
  | warning => "warning"
  | error => "error"
  | fatal => "fatal error"

/-- The text of the error that something can be set up only once. -/
def alreadySetUp : String := "Attempted to initialise global state more than once"

/-! ### Events -/

/-- The levels of events, the most detailed one first. -/
inductive LogLevel
  | trace
  | debug
  | info
  | warn
  | error
  deriving DecidableEq, Repr

/-- The severity of a level. -/
def LogLevel.rank : LogLevel → Nat
  | trace => 1
  | debug => 2
  | info => 3
  | warn => 4
  | error => 5

/-- The name of a level in the log. -/
def LogLevel.name : LogLevel → String
  | trace => "TRACE"
  | debug => "DEBUG"
  | info => "INFO"
  | warn => "WARN"
  | error => "ERROR"

/-- The parts of the bridge that report events. -/
inductive Component
  | session
  | claim
  | resolutionFile
  | backend
  | boundary
  | transferVector
  deriving DecidableEq, Repr

/-- The name under which filters know a component. -/
def Component.target : Component → String
  | session => "libltoplugin::session"
  | claim => "libltoplugin::claim"
  | resolutionFile => "libltoplugin::resolution_file"
  | backend => "libltoplugin::backend"
  | boundary => "libltoplugin::ffi"
  | transferVector => "libltoplugin::host"

/-- What the bridge can report. -/
inductive Notice
  | usingTemporaryDirectory (path : Path)
  | keepingTemporaryDirectory (path : Path)
  | offeredSymbol (symbol : Symbol)
  | claimed (symbols definitions : Nat)
  | notAnObject
  | nothingClaimed
  | mapFailed (path : Path) (error : OsError)
  | notLoaded (path : Path)
  | wroteResolutions (path : Path)
  | backendCommand (backend arguments : Path) (contents : String)
  | backendCommandUnreadable (arguments : Path) (error : OsError)
  | ignoredEntry (tag : String)
  | ignoredTag (tag : Nat)
  | subscriberInstalled
  | fatal (text : String)
  deriving DecidableEq

/-- The level of a notice. -/
def Notice.level : Notice → LogLevel
  | usingTemporaryDirectory _ | claimed _ _ | notAnObject | nothingClaimed | mapFailed _ _
  | notLoaded _ | wroteResolutions _ | subscriberInstalled => .debug
  | keepingTemporaryDirectory _ | backendCommand _ _ _ => .info
  | offeredSymbol _ | ignoredEntry _ | ignoredTag _ => .trace
  | backendCommandUnreadable _ _ => .warn
  | fatal _ => .error

/-- The component that reports a notice. -/
def Notice.component : Notice → Component
  | usingTemporaryDirectory _ | keepingTemporaryDirectory _ | offeredSymbol _ | claimed _ _
  | notAnObject | nothingClaimed => .session
  | mapFailed _ _ => .claim
  | notLoaded _ | wroteResolutions _ => .resolutionFile
  | backendCommand _ _ _ | backendCommandUnreadable _ _ => .backend
  | ignoredEntry _ | ignoredTag _ => .transferVector
  | subscriberInstalled | fatal _ => .boundary

/-- The text of a notice. -/
def Notice.text : Notice → String
  | usingTemporaryDirectory path => s!"Using temporary directory `{path.shown}`"
  | keepingTemporaryDirectory path => s!"Keeping temporary directory `{path.shown}`"
  | offeredSymbol symbol => symbol.describe
  | claimed symbols definitions =>
      s!"Claimed with {symbols} symbols, {definitions} of them definitions"
  | notAnObject => "Not an IR object"
  | nothingClaimed => "No IR objects were claimed"
  | mapFailed path error => s!"Failed to map `{path.shown}`: {error.message}"
  | notLoaded path => s!"Linker didn't load `{path.shown}`"
  | wroteResolutions path => s!"Wrote resolutions to `{path.shown}`"
  | backendCommand backend arguments contents =>
      s!"{backend.shown} @{arguments.shown} ({contents})"
  | backendCommandUnreadable arguments error =>
      s!"Couldn't read `{arguments.shown}` for logging: {error.message}"
  | ignoredEntry tag => s!"Ignoring transfer vector entry {tag}"
  | ignoredTag tag => s!"Ignoring unknown transfer vector tag {tag}"
  | subscriberInstalled => "A tracing subscriber was already installed"
  | fatal text => text

/-! ### Spans -/

/-- A hook at work. -/
inductive Span
  | claimFile (path : Path)
  | allSymbolsRead
  | cleanup
  deriving DecidableEq

/-- The level of all spans. -/
def Span.level : LogLevel := .info

/-- The component of all spans. -/
def Span.component : Component := .session

/-- The name of a span. -/
def Span.name : Span → String
  | claimFile _ => "Claim file"
  | allSymbolsRead => "All symbols read"
  | cleanup => "Cleanup"

/-- The value of a field of a span, if it has such a field. -/
def Span.field? : Span → String → Option String
  | claimFile path, name => if name = "path" then some path.shown else none
  | _, _ => none

/-- How the log shows a span. -/
def Span.text : Span → String
  | claimFile path => s!"Claim file\x7bpath={path.shown}\x7d"
  | span => span.name

/-- A notice and the span that it lies in. -/
structure LogEvent where
  notice : Notice
  span : Option Span
  deriving DecidableEq

end LtoBridge
