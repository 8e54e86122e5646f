/-
**A linker that follows a script.**

The script says which resolutions the linker enters for which file and which of its calls fail.
The linker writes down every call that it gets, also those that fail.

Main definitions:

* `LtoBridge.ScriptedLinker`, with its instance of `LtoBridge.Linker`;
* `LtoBridge.ScriptedLinker.Call`: a call that it got.
-/

import LtoBridge.Linker

set_option autoImplicit false

namespace LtoBridge

namespace ScriptedLinker

/-- A call to the linker. -/
inductive Call
  | addSymbols (handle : Handle) (symbols : List Symbol)
  | getSymbols (handle : Handle) (names : List Bytes)
  | addInputFile (path : Path)
  | addInputLibrary (name : String)
  | releaseSymbols
  deriving DecidableEq

/-- A failure to come: a function fails once, after a number of calls that do not. -/
structure Planned where
  call : LinkerCall
  after : Nat
  message : String
  deriving DecidableEq

end ScriptedLinker

/-- A linker that follows a script. -/
structure ScriptedLinker where
  /-- The resolutions to enter; a file without any was not loaded. -/
  resolutions : List (Handle × List (Option Resolution)) := []
  /-- The failures to come.  Of two for one function, the first one comes first. -/
  planned : List ScriptedLinker.Planned := []
  /-- The calls so far, in order. -/
  calls : List ScriptedLinker.Call := []

namespace ScriptedLinker

/-- The plan after a call to a function, and the failure that is due. -/
def due (call : LinkerCall) : List Planned → Option String × List Planned
  | [] => (none, [])
  | p :: rest =>
      if p.call = call then
        if p.after = 0 then (some p.message, rest)
        else (none, { p with after := p.after - 1 } :: rest)
      else
        match due call rest with
        | (failure, rest) => (failure, p :: rest)

/-- Take a call: write it down and see whether it fails. -/
def take (l : ScriptedLinker) (function : LinkerCall) (call : Call) :
    Except Failure Unit × ScriptedLinker :=
  match due function l.planned with
  | (failure, planned) =>
      let l := { l with planned, calls := l.calls ++ [call] }
      match failure with
      | some message => (.error ⟨.reported message, []⟩, l)
      | none => (.ok (), l)

instance : Linker ScriptedLinker where
  addSymbols handle symbols l := l.take .addSymbols (.addSymbols handle symbols)
  getSymbols handle symbols l :=
    match l.take .getSymbols (.getSymbols handle (symbols.map (·.name.bytes))) with
    | (.error failure, l) => (⟨.error failure, []⟩, l)
    | (.ok (), l) =>
        match l.resolutions.lookup handle with
        | some entered => (⟨.ok true, entered⟩, l)
        | none => (⟨.ok false, []⟩, l)
  addInputFile path l := l.take .addInputFile (.addInputFile path)
  addInputLibrary name l := l.take .addInputLibrary (.addInputLibrary name)
  releaseSymbols l := { l with calls := l.calls ++ [.releaseSymbols] }

/-- The linker with resolutions for one more file. -/
def resolve (l : ScriptedLinker) (handle : Handle) (entered : List (Option Resolution)) :
    ScriptedLinker :=
  { l with resolutions := (handle, entered) :: l.resolutions }

/-- The linker with one more failure to come. -/
def plan (l : ScriptedLinker) (p : Planned) : ScriptedLinker :=
  { l with planned := l.planned ++ [p] }

end ScriptedLinker

end LtoBridge
