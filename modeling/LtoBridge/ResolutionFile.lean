/-
**The resolution file.**

The backend reads the linker's decisions from a text.  Its first line is the number of claimed
files.  Each file follows with a line of its name, a blank and the number of its symbols, and one
line for each symbol with its slot, a blank and the name of its resolution.

Main definitions:

* `LtoBridge.ResolutionFile.render`: the text for the files of a registry.
-/

import LtoBridge.Registry

set_option autoImplicit false

namespace LtoBridge.ResolutionFile

/-- The byte that ends a line. -/
def newline : UInt8 := 10

/-- The byte between the two parts of a line. -/
def blank : UInt8 := 32

/-- The line of a symbol. -/
def symbolLine (e : SymbolEntry) : Bytes :=
  Bytes.decimal e.slot.toNat ++ blank :: Bytes.ofString e.symbol.resolution.name ++ [newline]

/-- The lines of a file; released symbols count as none. -/
def fileLines (f : ClaimedFile) : Bytes :=
  f.path ++ blank :: Bytes.decimal f.symbolCount ++ newline ::
    (f.symbols.elim [] (·.entries)).flatMap symbolLine

/-- **The resolution file of a registry.** -/
def render (r : Registry) : Bytes :=
  Bytes.decimal r.size ++ newline :: r.files.flatMap fileLines

end LtoBridge.ResolutionFile
