/-
**A linker behind its raw interface.**

The functions that a transfer vector offers make up a linker.  It keeps the records that it handed
over, since the other side may go on using them until it is told otherwise.

Main definitions:

* `LtoBridge.BoundLinker`, with its instance of `LtoBridge.Linker`;
* `LtoBridge.BoundLinker.register`, `LtoBridge.BoundLinker.show?`: hooks and messages.
-/

import LtoBridge.Linker
import LtoBridge.Linker.Raw

set_option autoImplicit false

namespace LtoBridge

/-- A raw linker, its functions and the records that it may still use. -/
structure BoundLinker (R : Type) where
  raw : R
  bindings : Bindings := {}
  pinned : List (List RawSymbol) := []

namespace BoundLinker

variable {R α : Type} [RawLinker R]

/-- Use the raw linker. -/
def onRaw (l : BoundLinker R) (f : R → α × R) : α × BoundLinker R :=
  match f l.raw with
  | (a, raw) => (a, { l with raw })

/-- More symbols than this cannot be counted. -/
def countLimit : Nat := 0x80000000

/-- The records of symbols, unless there are too many of them. -/
def records (call : LinkerCall) (symbols : List Symbol) : Except Failure (List RawSymbol) :=
  if symbols.length < countLimit then .ok (symbols.map Symbol.raw)
  else .error ⟨.tooMany, [.countingSymbols call]⟩

/-- A string for the linker. -/
def terminate (context : Context) (bs : Bytes) : Except Failure NulFree :=
  match NulFree.ofBytes? bs with
  | some s => .ok s
  | none => .error ⟨.zeroByte (bs.idxOf 0), [context]⟩

/-! ### Functions that a session needs -/

/-- Announce symbols.  The records are kept even if the linker rejects them. -/
def addSymbols (handle : Handle) (symbols : List Symbol) (l : BoundLinker R) :
    Except Failure Unit × BoundLinker R :=
  match l.bindings.address .addSymbols with
  | none => (.error ⟨.missing .addSymbols, []⟩, l)
  | some function =>
      match records .addSymbols symbols with
      | .error failure => (.error failure, l)
      | .ok records =>
          match l.onRaw (RawLinker.addSymbols function handle records) with
          | (status, l) =>
              (checkStatus .addSymbols status, { l with pinned := l.pinned ++ [records] })

/-- The resolutions that codes stand for, up to the first code that stands for none. -/
def resolutions : List Symbol → List Int → Except Failure Unit × List (Option Resolution)
  | symbol :: symbols, code :: codes =>
      match Resolution.ofCode? code with
      | none => (.error ⟨.invalidResolution code symbol.name.bytes, []⟩, [])
      | some resolution =>
          match resolutions symbols codes with
          | (result, entered) => (result, some resolution :: entered)
  | _, _ => (.ok (), [])

/-- The codes of all records, where the linker entered the first ones. -/
def codes (records : List RawSymbol) (entered : List Int) : List Int :=
  (entered ++ (records.drop entered.length).map (·.resolution)).take records.length

/-- Ask for resolutions.  What the linker entered counts only if it succeeded. -/
def getSymbols (handle : Handle) (symbols : List Symbol) (l : BoundLinker R) :
    ResolutionAnswer × BoundLinker R :=
  match l.bindings.address .getSymbols with
  | none => (⟨.error ⟨.missing .getSymbols, []⟩, []⟩, l)
  | some function =>
      match records .getSymbols symbols with
      | .error failure => (⟨.error failure, []⟩, l)
      | .ok records =>
          match l.onRaw (RawLinker.getSymbols function handle records) with
          | ((status, entered), l) =>
              if status = statusNoSymbols then (⟨.ok false, []⟩, l)
              else match checkStatus .getSymbols status with
                | .error failure => (⟨.error failure, []⟩, l)
                | .ok () =>
                    match resolutions symbols (codes records entered) with
                    | (result, entered) => (⟨result.map fun _ => true, entered⟩, l)

/-- Hand over a string, where the call is put into the context of its failures. -/
def handOver (call : LinkerCall) (preparing calling : Context) (bs : Bytes)
    (f : Address → NulFree → R → Int × R) (l : BoundLinker R) :
    Except Failure Unit × BoundLinker R :=
  match l.bindings.address call with
  | none => (.error ⟨.missing call, []⟩, l)
  | some function =>
      match terminate preparing bs with
      | .error failure => (.error failure, l)
      | .ok s =>
          match l.onRaw (f function s) with
          | (status, l) => (whileDoing calling (checkStatus call status), l)

instance : Linker (BoundLinker R) where
  addSymbols := addSymbols
  getSymbols := getSymbols
  addInputFile path :=
    handOver .addInputFile (.passingPath path) (.addingFile path) path RawLinker.addInputFile
  addInputLibrary name :=
    handOver .addInputLibrary (.passingLibrary name) (.addingLibrary name) (Bytes.ofString name)
      RawLinker.addInputLibrary
  releaseSymbols l := { l with pinned := [] }

/-! ### Hooks and messages -/

/-- Register a hook. -/
def register (hook : Hook) (function : Address) (l : BoundLinker R) :
    Except Failure Unit × BoundLinker R :=
  match l.onRaw (RawLinker.registerHook function hook) with
  | (status, l) => (checkStatus hook.registration status, l)

/-- The format of all messages: the text as it is. -/
def messageFormat : NulFree := .upToZero (Bytes.ofString "%s")

/-- A text as the linker can show it: zero bytes become blanks. -/
def messageText (text : String) : NulFree :=
  .upToZero ((Bytes.ofString text).map fun b => if b = 0 then 32 else b)

/-- Show a message to the user, if one of the given functions is for that.  They need not be those
that the linker is used with. -/
def show? (b : Bindings) (level : MessageLevel) (text : String) (l : BoundLinker R) :
    Option (BoundLinker R) :=
  (b.address .message).map fun function =>
    { l with raw := RawLinker.message function level.code messageFormat (messageText text) l.raw }

end BoundLinker

end LtoBridge
