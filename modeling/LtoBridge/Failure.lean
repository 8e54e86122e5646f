/-
**Failures.**

A failure is a cause together with what was being done when it arose, from the outside in.  Its
message is the whole chain on one line.

Main definitions:

* `LtoBridge.LinkerCall`: the functions that a linker can offer;
* `LtoBridge.Cause`: what went wrong;
* `LtoBridge.Context`: what was being done;
* `LtoBridge.Failure`, `LtoBridge.Failure.message`.

Main results:

* `LtoBridge.Failure.texts_within`: a context is put in front of the chain.
-/

import LtoBridge.OsError
import LtoBridge.Options
import LtoBridge.SymbolTable.Codec
import LtoBridge.Text.Quoted

set_option autoImplicit false

namespace LtoBridge

/-- The functions that a linker can offer to its plugins. -/
inductive LinkerCall
  | registerClaimFile
  | registerAllSymbolsRead
  | registerCleanup
  | addSymbols
  | getSymbols
  | addInputFile
  | addInputLibrary
  | message
  deriving DecidableEq, Repr

/-- How diagnostics name a function of the linker. -/
def LinkerCall.wording : LinkerCall → String
  | registerClaimFile => "register claim-file hook"
  | registerAllSymbolsRead => "register all-symbols-read hook"
  | registerCleanup => "register cleanup hook"
  | addSymbols => "add_symbols"
  | getSymbols => "get_symbols"
  | addInputFile => "add_input_file"
  | addInputLibrary => "add_input_library"
  | message => "message"

/-- The wording of a status that a function of the linker returned. -/
def linkerStatusWording (status : Int) : String :=
  if status = 0 then "Ok"
  else if status = 1 then "NoSyms"
  else if status = 2 then "BadHandle"
  else if status = 3 then "Err"
  else s!"linker returned unknown status {status}"

/-! ### Causes -/

/-- What went wrong. -/
inductive Cause
  /-- The operating system refused something. -/
  | os (error : OsError)
  /-- The operating system refused something about a temporary directory. -/
  | osAt (error : OsError) (path : Path)
  /-- The section with the symbol table does not hold one. -/
  | malformedTable (fault : SymbolTable.Malformed)
  /-- The options mean nothing. -/
  | options (fault : Options.Fault)
  /-- An option is not text. -/
  | notText (fault : Utf8.Fault)
  /-- The linker lacks a function. -/
  | missing (call : LinkerCall)
  /-- The linker can announce that all symbols have been read, but cannot be asked about them. -/
  | missingGetSymbols
  /-- A function of the linker did not succeed. -/
  | refused (call : LinkerCall) (status : Int)
  /-- The linker gave a resolution that does not exist. -/
  | invalidResolution (code : Int) (symbol : Bytes)
  /-- The linker gave an error of its own. -/
  | reported (message : String)
  /-- A string for the linker contains a zero byte. -/
  | zeroByte (position : Nat)
  /-- There are more symbols than the linker can count. -/
  | tooMany
  /-- A number is negative. -/
  | negative
  /-- The linker offered no file at all. -/
  | nullInput
  /-- The linker offered a file that is not open. -/
  | brokenDescriptor
  /-- The session is over. -/
  | sessionOver
  /-- The options name no backend. -/
  | noBackend
  /-- An archive ends within one of its members. -/
  | memberEnds (copied length : Nat)
  /-- The output of the backend ends within a line. -/
  | unterminatedLine (line : Bytes)
  /-- The output of the backend contains an empty line. -/
  | emptyLine
  /-- The backend did not succeed. -/
  | backendFailed (backend : Path) (status : ExitStatus)
  deriving DecidableEq

/-- The wording of a cause. -/
def Cause.message : Cause → String
  | os error => error.message
  | osAt error path => s!"{error.message} at path {Text.quotedPath path}"
  | malformedTable fault => fault.message
  | options fault => fault.message
  | notText fault => fault.message
  | missing .registerClaimFile => "Linker didn't provide a way to register a claim-file hook"
  | missing call => s!"Linker didn't provide {call.wording}"
  | missingGetSymbols =>
      "Linker can register an all-symbols-read hook, but didn't provide get_symbols"
  | refused call status => s!"{call.wording}: {linkerStatusWording status}"
  | invalidResolution code symbol =>
      s!"Linker returned invalid resolution {code} for `{Utf8.lossy symbol}`"
  | reported message => message
  | zeroByte position => s!"nul byte found in provided data at position: {position}"
  | tooMany => "number too large to fit in target type"
  | negative => "number too small to fit in target type"
  | nullInput => "Linker passed a null input file"
  | brokenDescriptor => "Panic in linker plugin claim-file hook"
  | sessionOver => "Linker plugin session has already been cleaned up"
  | noBackend => "No LTO backend was given in the plugin options"
  | memberEnds copied length => s!"Archive member ends after {copied} of {length} bytes"
  | unterminatedLine line =>
      s!"Backend output `{Utf8.lossy line}` isn't terminated by a newline"
  | emptyLine => "Backend output contains an empty line"
  | backendFailed backend status => s!"Backend `{Path.shown backend}` failed: {status.message}"

/-! ### Contexts -/

/-- What was being done. -/
inductive Context
  | currentDirectory
  | temporaryDirectory (parent : Path)
  | removing (path : Path)
  | creating (path : Path)
  | writing (path : Path)
  | opening (path : Path)
  | deleting (path : Path)
  | readingMember
  | extracting (offset : Nat) (archive : Path)
  | symbolTable (path : Path)
  | addingSymbols (path : Path)
  | resolving (path : Path)
  | creatingResolutions (path : Path)
  | writingResolutions (path : Path)
  | runningBackend (backend : Path)
  | readingOutput
  | addingFile (path : Path)
  | addingLibrary (name : String)
  | passingPath (path : Path)
  | passingLibrary (name : String)
  | countingSymbols (call : LinkerCall)
  | inputOffset
  | inputSize
  | readingOption (option : Bytes)
  deriving DecidableEq

/-- The wording of a context. -/
def Context.message : Context → String
  | currentDirectory => "Failed to get current directory"
  | temporaryDirectory parent => s!"Failed to create temporary directory in `{parent.shown}`"
  | removing path => s!"Failed to remove `{path.shown}`"
  | creating path => s!"Failed to create `{path.shown}`"
  | writing path => s!"Failed to write `{path.shown}`"
  | opening path => s!"Failed to open `{path.shown}`"
  | deleting path => s!"Failed to delete `{path.shown}`"
  | readingMember => "Failed to read archive member"
  | extracting offset archive =>
      s!"Failed to extract member at offset {offset} of `{archive.shown}`"
  | symbolTable path => s!"Invalid IR symbol table in `{path.shown}`"
  | addingSymbols path => s!"Failed to add symbols for `{path.shown}`"
  | resolving path => s!"Failed to get symbol resolutions for `{path.shown}`"
  | creatingResolutions path => s!"Failed to create resolution file `{path.shown}`"
  | writingResolutions path => s!"Failed to write resolution file `{path.shown}`"
  | runningBackend backend => s!"Failed to run backend `{backend.shown}`"
  | readingOutput => "Failed to read backend output"
  | addingFile path => s!"Failed to add `{path.shown}`"
  | addingLibrary name => s!"Failed to add library `{name}`"
  | passingPath path => s!"Invalid path `{path.shown}`"
  | passingLibrary name => s!"Invalid library name `{name}`"
  | countingSymbols call => s!"Too many symbols for {call.wording}"
  | inputOffset => "Negative input file offset"
  | inputSize => "Negative input file size"
  | readingOption option =>
      s!"Linker plugin option {Text.quotedString option} isn't valid UTF-8"

/-! ### Failures -/

/-- A cause and what was being done when it arose, outermost first. -/
structure Failure where
  cause : Cause
  contexts : List Context := []
  deriving DecidableEq

namespace Failure

/-- The failure, seen from further outside. -/
def within (context : Context) (f : Failure) : Failure :=
  { f with contexts := context :: f.contexts }

/-- The texts of a failure, outermost first. -/
def texts (f : Failure) : List String := f.contexts.map Context.message ++ [f.cause.message]

/-- The outermost text. -/
def outermost (f : Failure) : String :=
  match f.contexts with
  | [] => f.cause.message
  | context :: _ => context.message

/-- **The whole chain on one line.** -/
def message (f : Failure) : String := ": ".intercalate f.texts

@[simp] theorem texts_within (context : Context) (f : Failure) :
    (f.within context).texts = context.message :: f.texts := rfl

end Failure

/-- A result whose failure is seen from further outside. -/
def whileDoing {α : Type} (context : Context) (x : Except Failure α) : Except Failure α :=
  x.mapError (Failure.within context)

end LtoBridge
