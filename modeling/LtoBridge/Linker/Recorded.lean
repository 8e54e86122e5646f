/-
**A raw linker that follows a script.**

The script says which status each function returns and which resolutions are entered.  The linker
writes down every call that it gets and remembers the hooks, also those that it refuses.

Main definitions:

* `LtoBridge.RecordedLinker`, with its instance of `LtoBridge.RawLinker`;
* `LtoBridge.RecordedLinker.Call`: a call that it got.
-/

import LtoBridge.Linker.Raw

set_option autoImplicit false

namespace LtoBridge

/-- A call to the functions of a raw linker. -/
inductive RecordedLinker.Call
  | register (hook : Hook)
  | addSymbols (handle : Handle) (symbols : List RawSymbol)
  | getSymbols (handle : Handle) (version : Nat) (symbols : List RawSymbol)
  | addInputFile (path : NulFree)
  | addInputLibrary (name : NulFree)
  | message (level : Int) (format text : NulFree)
  deriving DecidableEq

/-- A raw linker that follows a script. -/
structure RecordedLinker where
  /-- The statuses that functions return; the others return 0. -/
  statuses : List (LinkerCall × Int) := []
  /-- The resolutions to enter; a file without any was not loaded. -/
  resolutions : List (Handle × List Int) := []
  /-- The hooks that have been registered. -/
  hooks : List Hook := []
  /-- The calls so far, in order. -/
  calls : List RecordedLinker.Call := []

namespace RecordedLinker

/-- The status that a function returns. -/
def status (l : RecordedLinker) (call : LinkerCall) : Int := (l.statuses.lookup call).getD statusOk

/-- Write down a call and return the status of the function. -/
def take (function : LinkerCall) (call : Call) (l : RecordedLinker) : Int × RecordedLinker :=
  (l.status function, { l with calls := l.calls ++ [call] })

/-- The version of the function for resolutions whose address is the tag that offers it. -/
def getSymbolsVersion (function : Address) : Nat :=
  match tagMeanings[function.toNat]? with
  | some (.providesGetSymbols version) => version
  | _ => 0

instance : RawLinker RecordedLinker where
  registerHook _ hook l :=
    take hook.registration (.register hook) { l with hooks := hook :: l.hooks }
  addSymbols _ handle symbols := take .addSymbols (.addSymbols handle symbols)
  getSymbols function handle symbols l :=
    match l.take .getSymbols (.getSymbols handle (getSymbolsVersion function) symbols) with
    | (status, l) =>
        match l.resolutions.lookup handle with
        | some entered => ((status, entered), l)
        | none => ((if status = statusOk then statusNoSymbols else status, []), l)
  addInputFile _ path := take .addInputFile (.addInputFile path)
  addInputLibrary _ name := take .addInputLibrary (.addInputLibrary name)
  message _ level format text l := (l.take .message (.message level format text)).2

/-- The linker with another status for a function. -/
def answer (l : RecordedLinker) (call : LinkerCall) (status : Int) : RecordedLinker :=
  { l with statuses := (call, status) :: l.statuses }

/-- The linker with resolutions for one more file. -/
def resolve (l : RecordedLinker) (handle : Handle) (entered : List Int) : RecordedLinker :=
  { l with resolutions := (handle, entered) :: l.resolutions }

end RecordedLinker

end LtoBridge
