/-
**Looking for symbols in an input file.**

Main definitions:

* `LtoBridge.InputFile`: a file that the linker offers;
* `LtoBridge.Claim.readSymbols`: the symbol table of an open file, if it has one;
* `LtoBridge.Claim.loadCopy`: the symbol table of a copy of an archive member.
-/

import LtoBridge.Elf.Object
import LtoBridge.Extraction

set_option autoImplicit false

namespace LtoBridge

/-- A file that the linker offers. -/
structure InputFile where
  path : Path
  /-- The open file; for an archive member, the whole archive. -/
  file : Descriptor
  /-- Where the input begins, which is not at 0 for archive members. -/
  offset : Nat
  size : Nat
  handle : Handle

/-- Is the input part of an archive? -/
def InputFile.isMember (input : InputFile) : Bool := input.offset != 0

namespace Claim

variable {W : Type} [Platform W]

/-- The name of the copy of the archive member with the given number. -/
def memberPath (directory : Path) (number : Nat) : Path :=
  directory.join (Bytes.ofString s!"obj{number}.o")

/-- **The symbol table in the first `size` bytes of an open file**, or none if they are no object
with one.  An object whose table is malformed is a failure. -/
def readSymbols (span : Option Span) (file : Descriptor) (size : Nat) (path : Path) :
    Act W (Option SymbolTable) :=
  if size = 0 then pure none
  else do
    match ← Act.answer (Platform.mapFile file size) with
    | .error error => do
        say span (.mapFailed path error)
        pure none
    | .ok contents =>
        match Elf.findSymbolTable? contents with
        | none => pure none
        | some stored =>
            match SymbolTable.decode stored with
            | .ok table => pure (some table)
            | .error fault => (Act.fail (.malformedTable fault)).within (.symbolTable path)

/-- The symbol table of the copy of an archive member. -/
def loadCopy (span : Option Span) (path : Path) : Act W (Option SymbolTable) := do
  let file ← (Act.ofOs (Platform.openFile path)).within (.opening path)
  let loaded ← Act.attempt do
    let size ← Act.ofOs (Platform.fileSize file)
    readSymbols span file size path
  Act.change (Platform.closeFile file)
  Act.ofResult loaded

end Claim

end LtoBridge
