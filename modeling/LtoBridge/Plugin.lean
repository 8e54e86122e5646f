/-
**The bridge as a plugin of a linker.**

The linker loads the bridge and calls the hooks that it registers.  Whatever goes wrong is reported
to the user as fatal.  A linker that cannot show messages is expected to go no further, so the
process is aborted.

Main definitions:

* `LtoBridge.Plugin`: a process that has loaded the bridge;
* `LtoBridge.Plugin.load`: the linker loads the bridge;
* `LtoBridge.Plugin.claimFileInto`, `LtoBridge.Plugin.claimFile`,
  `LtoBridge.Plugin.allSymbolsRead`, `LtoBridge.Plugin.cleanup`: the hooks;
* `LtoBridge.Plugin.reportFatal`: the end of a call that failed.
-/

import LtoBridge.Linker.Bound
import LtoBridge.Machine
import LtoBridge.Session

set_option autoImplicit false

namespace LtoBridge

/-- What the bridge returns to the linker. -/
inductive HookStatus
  | ok
  | failed
  deriving DecidableEq, Repr

/-- How a call from the linker ends. -/
inductive Outcome (α : Type)
  | returned (a : α)
  /-- The process ends, after a line for its user. -/
  | aborted (line : String)
  deriving DecidableEq

/-- A process that has loaded the bridge. -/
structure Plugin (R : Type) where
  /-- The session, if there is one.  It has the functions and the records of the bound linker: they
  come with the session and go with it. -/
  session : Option Session := none
  machine : Machine (BoundLinker R)

/-- An input file as the linker describes it. -/
structure InputRecord where
  name : NulFree
  file : Descriptor
  offset : Int
  size : Int
  handle : Handle

namespace Plugin

variable {R α : Type} [RawLinker R]

/-! ### Parts of the process -/

/-- A step of the machine, as a step of the process. -/
def onMachine (act : Act (Machine (BoundLinker R)) α) : Act (Plugin R) α := fun p =>
  match act p.machine with
  | (x, machine) => (x, { p with machine })

/-- The process with another state of its linker. -/
def withLinker (p : Plugin R) (linker : BoundLinker R) : Plugin R :=
  { p with machine := { p.machine with linker } }

/-- Report a notice outside of all spans. -/
def tell (notice : Notice) : Act (Plugin R) Unit := onMachine (say none notice)

/-! ### Failures -/

/-- End a call without a way to show messages. -/
def abort (text : String) (p : Plugin R) : Outcome α × Plugin R :=
  let (_, p) := tell (.fatal text) p
  (.aborted s!"{MessageLevel.fatal.name}: {text}", p)

/-- **End a call that failed.**  The text is shown as fatal, by one of the given functions, and the
call has no result. -/
def reportFatal (b : Bindings) (text : String) (p : Plugin R) : Outcome (Option α) × Plugin R :=
  match p.machine.linker.show? b .fatal text with
  | none => abort text p
  | some linker =>
      let (_, p) := tell (.fatal text) (p.withLinker linker)
      (.returned none, p)

/-- The end of a call: its result, or a fatal message. -/
def conclude (b : Bindings) : Except Failure α × Plugin R → Outcome (Option α) × Plugin R
  | (.ok a, p) => (.returned (some a), p)
  | (.error failure, p) => reportFatal b failure.message p

/-- The status of a call with or without a result. -/
def statusOf : Option α → HookStatus
  | some _ => .ok
  | none => .failed

/-- The status of a call as its result. -/
def onlyStatus : Outcome (Option α) × Plugin R → Outcome HookStatus × Plugin R
  | (.returned a, p) => (.returned (statusOf a), p)
  | (.aborted line, p) => (.aborted line, p)

/-! ### Loading -/

/-- The options as texts, up to the first one that is none. -/
def optionTexts : List NulFree → Except Failure (List String)
  | [] => .ok []
  | option :: rest =>
      match Utf8.decode option.bytes with
      | .error fault => .error ⟨.notText fault, [.readingOption option.bytes]⟩
      | .ok text => do
          let texts ← optionTexts rest
          .ok (text :: texts)

/-- What a transfer vector says in its options. -/
def readOptions (tv : TransferVector) : Except Failure Options := do
  let texts ← optionTexts tv.options
  match Options.parse texts with
  | .ok options => .ok options
  | .error fault => .error ⟨.options fault, []⟩

/-- Show events to the user from now on, unless somebody else gets them already. -/
def subscribe (verbose : Bool) : Act (Plugin R) Unit := do
  match ← Act.look fun p : Plugin R => p.machine.journal.install? verbose with
  | some journal => Act.change fun p => { p with machine := { p.machine with journal } }
  | none => tell .subscriberInstalled

/-- The functions that the bridge cannot do without. -/
def checkBindings (b : Bindings) : Except Failure Unit :=
  if (b.address .registerClaimFile).isNone then .error ⟨.missing .registerClaimFile, []⟩
  else if (b.address .addSymbols).isNone then .error ⟨.missing .addSymbols, []⟩
  else if (b.address .registerAllSymbolsRead).isSome ∧ (b.address .getSymbols).isNone then
    .error ⟨.missingGetSymbols, []⟩
  else .ok ()

/-- Drop a session, if there is one. -/
def dropped (session : Option Session) (m : Machine (BoundLinker R)) : Machine (BoundLinker R) :=
  match session with
  | none => m
  | some old => (Session.drop ⟨old, m⟩).2.world

/-- Make a session the one of the process, with its own functions and without any records yet.  One
that was there before is dropped, and the functions and records of that one with it. -/
def install (b : Bindings) (session : Session) : Act (Plugin R) Unit := fun p =>
  let machine := dropped p.session p.machine
  let linker := { machine.linker with bindings := b, pinned := [] }
  (.ok (), { session := some session, machine := { machine with linker } })

/-- Register a hook, if the linker has a function for that. -/
def register (hook : Hook) : Act (Plugin R) Unit := fun p =>
  match p.machine.linker.bindings.address hook.registration with
  | none => (.ok (), p)
  | some function =>
      match p.machine.linker.register hook function with
      | (result, linker) => (result, p.withLinker linker)

/-- The hooks in the order in which they are registered. -/
def registrations : List Hook := [.claimFile, .cleanup, .allSymbolsRead]

/-- Begin a session and register the hooks. -/
def begin (tv : TransferVector) : Act (Plugin R) Unit := do
  let options ← Act.ofResult (readOptions tv)
  subscribe options.verbose
  Act.ofResult (checkBindings tv.bindings)
  let session ← onMachine (Session.start options)
  install tv.bindings session
  Act.forEach register registrations

/-- **The linker loads the bridge** and hands over a transfer vector, unless it forgot to.  A
failure is shown by the vector's function for messages, whatever session there is. -/
def load (entries : Option (List Entry)) (p : Plugin R) : Outcome HookStatus × Plugin R :=
  match entries with
  | none => abort "Linker passed a null transfer vector" p
  | some entries =>
      let tv := TransferVector.read entries
      let (_, p) := Act.forEach tell ((TransferVector.relevant entries).filterMap Entry.notice?) p
      onlyStatus (conclude tv.bindings (begin tv p))

/-! ### Hooks -/

/-- Do something with the session of the process. -/
def withSession (hook : Hook) (act : Act (Live (Machine (BoundLinker R))) α) (p : Plugin R) :
    Outcome (Option α) × Plugin R :=
  match p.session with
  | none => abort s!"{hook.wording} called without a plugin session" p
  | some session =>
      match act ⟨session, p.machine⟩ with
      | (result, live) =>
          conclude live.world.linker.bindings
            (result, { session := some live.session, machine := live.world })

/-- The number that stands for no open file. -/
def noDescriptor : Descriptor := -1

/-- The input file that a record describes. -/
def inputFile (record : Option InputRecord) : Except Failure InputFile :=
  match record with
  | none => .error ⟨.nullInput, []⟩
  | some r =>
      if r.file = noDescriptor then .error ⟨.brokenDescriptor, []⟩
      else if r.offset < 0 then .error ⟨.negative, [.inputOffset]⟩
      else if r.size < 0 then .error ⟨.negative, [.inputSize]⟩
      else .ok
        { path := r.name.bytes
          file := r.file
          offset := r.offset.toNat
          size := r.size.toNat
          handle := r.handle }

/-- What is done with an offered file. -/
def offer (record : Option InputRecord) : Act (Live (Machine (BoundLinker R))) Bool := do
  let input ← Act.ofResult (inputFile record)
  Session.claimFile input

/-- **The linker offers a file**, and a place for the decision, if it has one.  The place holds 0
from the beginning and 1 from the moment that the file is claimed.  The result is the status and
what is left in the place. -/
def claimFileInto (place : Option Int) (record : Option InputRecord) (p : Plugin R) :
    Outcome (HookStatus × Option Int) × Plugin R :=
  let cleared := place.map fun _ => 0
  match withSession .claimFile (offer record) p with
  | (.aborted line, p) => (.aborted line, p)
  | (.returned none, p) => (.returned (.failed, cleared), p)
  | (.returned (some claimed), p) =>
      (.returned (.ok, if claimed then cleared.map fun _ => 1 else cleared), p)

/-- The same for a linker that has a place for the decision.  What was there does not matter. -/
def claimFile (record : Option InputRecord) (p : Plugin R) :
    Outcome (HookStatus × Int) × Plugin R :=
  match claimFileInto (some 0) record p with
  | (.aborted line, p) => (.aborted line, p)
  | (.returned (status, place), p) => (.returned (status, place.getD 0), p)

/-- **The linker has read all files.** -/
def allSymbolsRead (p : Plugin R) : Outcome HookStatus × Plugin R :=
  onlyStatus (withSession .allSymbolsRead Session.allSymbolsRead p)

/-- **The linker is done.**  The session ends, even if its cleanup fails.  There is nothing to do
if it has ended before. -/
def cleanup (p : Plugin R) : Outcome HookStatus × Plugin R :=
  match p.session with
  | none => (.returned .ok, p)
  | some session =>
      match Session.cleanup ⟨session, p.machine⟩ with
      | (result, live) =>
          let concluded := conclude live.world.linker.bindings (result, { machine := live.world })
          match onlyStatus concluded with
          | (outcome, p) => (outcome, p.withLinker { p.machine.linker with pinned := [] })

end Plugin

end LtoBridge
