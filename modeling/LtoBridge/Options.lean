/-
**Options of the bridge.**

The linker passes on the options that its user gave for the bridge.

* `-debug`: log the command line of the backend and keep the temporary directory.
* `-nop`: run no backend and hand the claimed files back to the linker.
* `-resolution=PATH`: write the resolutions of the symbols to `PATH`.
* `-pass-through=ITEM`: once the backend has run, hand `ITEM` to the linker, which is a library
  `-lNAME` or a file.

All other options belong to the backend.  The first of them is the backend itself.

Main definitions:

* `LtoBridge.Options.Word`: what a single option says;
* `LtoBridge.Options.parse`: what a list of options says.
-/

import LtoBridge.Path

set_option autoImplicit false

namespace LtoBridge

/-- Something to hand to the linker after the backend has run. -/
inductive PassThrough
  | library (name : String)
  | file (path : Path)
  deriving DecidableEq

/-- What the options of the bridge say. -/
structure Options where
  verbose : Bool := false
  bypassBackend : Bool := false
  resolutionFile : Option Path := none
  passThrough : List PassThrough := []
  /-- The backend, followed by arguments for it. -/
  backendWords : List String := []
  deriving DecidableEq

namespace Options

/-- Why a list of options means nothing. -/
inductive Fault
  | missingResolutionPath
  | missingPassThroughItem
  deriving DecidableEq, Repr

/-- What a single option says. -/
inductive Word
  | verbose
  | bypassBackend
  | resolutionFile (path : Path)
  | passThrough (item : PassThrough)
  | backend (word : String)
  deriving DecidableEq

/-- The rest of a text after a given beginning. -/
def after? (beginning text : String) : Option String :=
  (beginning.toList.isPrefixOf? text.toList).map String.ofList

/-- The beginning of an option that names the resolution file. -/
def resolutionFlag : String := "-resolution="

/-- The beginning of an option with an item to pass through. -/
def passThroughFlag : String := "-pass-through="

/-- The beginning of an item that is a library. -/
def libraryFlag : String := "-l"

/-- The item that a text stands for. -/
def passThroughItem (text : String) : PassThrough :=
  match after? libraryFlag text with
  | some name => .library name
  | none => .file (Bytes.ofString text)

/-- What a single option says. -/
def word (option : String) : Except Fault Word :=
  if option = "-debug" then .ok .verbose
  else if option = "-nop" then .ok .bypassBackend
  else match after? resolutionFlag option with
    | some path =>
        if path = "" then .error .missingResolutionPath
        else .ok (.resolutionFile (Bytes.ofString path))
    | none => match after? passThroughFlag option with
      | some item =>
          if item = "" then .error .missingPassThroughItem
          else .ok (.passThrough (passThroughItem item))
      | none => .ok (.backend option)

/-- The options with one more word. -/
def add (o : Options) : Word → Options
  | .verbose => { o with verbose := true }
  | .bypassBackend => { o with bypassBackend := true }
  | .resolutionFile path => { o with resolutionFile := some path }
  | .passThrough item => { o with passThrough := o.passThrough ++ [item] }
  | .backend w => { o with backendWords := o.backendWords ++ [w] }

/-- **What a list of options says.** -/
def parse (options : List String) : Except Fault Options :=
  options.foldlM (fun o option => (word option).map o.add) {}

/-- The backend, if one was given. -/
def backend? (o : Options) : Option String := o.backendWords.head?

/-- The arguments for the backend. -/
def backendFlags (o : Options) : List String := o.backendWords.tail

/-- The wording of a fault. -/
def Fault.message : Fault → String
  | missingResolutionPath => s!"Missing path for {resolutionFlag}"
  | missingPassThroughItem => s!"Missing value for {passThroughFlag}"

end Options

end LtoBridge
