/-
**The interface of a linker, as it is.**

The functions of a linker work on records of numbers and strings, and each of them returns a
status.  Statuses and resolutions are any integers; it is for the caller to make sense of them.

Main definitions:

* `LtoBridge.RawSymbol`: a symbol in the linker's interface;
* `LtoBridge.Hook`: what a linker calls;
* `LtoBridge.RawLinker`: the functions of a linker.
-/

import LtoBridge.Linker.TransferVector
import LtoBridge.Registry

set_option autoImplicit false

namespace LtoBridge

/-- A symbol in the linker's interface. -/
structure RawSymbol where
  name : NulFree
  version : Option NulFree := none
  definition : UInt8
  symbolType : UInt8 := 0
  sectionKind : UInt8 := 0
  unused : UInt8 := 0
  visibility : UInt8
  size : UInt64
  comdatKey : Option NulFree
  resolution : Int := Resolution.unknown.code
  deriving DecidableEq

/-- A symbol for the linker.  Its resolution is always unknown. -/
def Symbol.raw (s : Symbol) : RawSymbol where
  name := s.name
  definition := s.kind.code
  visibility := s.visibility.code
  size := s.size
  comdatKey := s.comdatKey

/-- What a linker calls once it has been registered. -/
inductive Hook
  | claimFile
  | allSymbolsRead
  | cleanup
  deriving DecidableEq, Repr

/-- How messages name a hook. -/
def Hook.wording : Hook → String
  | claimFile => "claim-file hook"
  | allSymbolsRead => "all-symbols-read hook"
  | cleanup => "cleanup hook"

/-- The function that registers a hook. -/
def Hook.registration : Hook → LinkerCall
  | claimFile => .registerClaimFile
  | allSymbolsRead => .registerAllSymbolsRead
  | cleanup => .registerCleanup

/-- The functions of a linker.  Each takes the linker from one state to the next and returns a
status. -/
class RawLinker (R : Type) where
  /-- Register a hook. -/
  registerHook (function : Address) (hook : Hook) : R → Int × R
  /-- Announce symbols. -/
  addSymbols (function : Address) (handle : Handle) (symbols : List RawSymbol) : R → Int × R
  /-- Enter the resolutions of symbols, from the first one on.  The others stay as they are. -/
  getSymbols (function : Address) (handle : Handle) (symbols : List RawSymbol) :
    R → (Int × List Int) × R
  /-- Take a file to be linked. -/
  addInputFile (function : Address) (path : NulFree) : R → Int × R
  /-- Take a library to be searched for. -/
  addInputLibrary (function : Address) (name : NulFree) : R → Int × R
  /-- Show a message to the user. -/
  message (function : Address) (level : Int) (format text : NulFree) : R → R

/-- The status of a call that succeeded. -/
def statusOk : Int := 0

/-- The status that says that a file was not loaded. -/
def statusNoSymbols : Int := 1

/-- The result of a call that returned a status. -/
def checkStatus (call : LinkerCall) (status : Int) : Except Failure Unit :=
  if status = statusOk then .ok () else .error ⟨.refused call status, []⟩

end LtoBridge
