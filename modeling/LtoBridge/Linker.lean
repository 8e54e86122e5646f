/-
**The linker, as the bridge sees it.**

Main definitions:

* `LtoBridge.ResolutionAnswer`: the linker's answer to a question for resolutions;
* `LtoBridge.Linker`: what a linker can be asked to do.
-/

import LtoBridge.Log
import LtoBridge.Registry

set_option autoImplicit false

namespace LtoBridge

/-- The linker's answer to a question for the resolutions of a file: whether it loaded the file,
or why it cannot say, and the resolutions that it entered, from the first symbol on.  It may have
entered some before it failed. -/
structure ResolutionAnswer where
  loaded : Except Failure Bool
  entered : List (Option Resolution) := []

/-- What a linker can be asked to do.  A call takes the linker from one state to the next, also
when it fails. -/
class Linker (L : Type) where
  /-- Announce the symbols of a file. -/
  addSymbols (handle : Handle) (symbols : List Symbol) : L → Except Failure Unit × L
  /-- Ask for the resolutions of symbols that have been announced. -/
  getSymbols (handle : Handle) (symbols : List Symbol) : L → ResolutionAnswer × L
  /-- Hand over a file to be linked. -/
  addInputFile (path : Path) : L → Except Failure Unit × L
  /-- Hand over a library to be searched for. -/
  addInputLibrary (name : String) : L → Except Failure Unit × L
  /-- Say that announced symbols are no longer needed. -/
  releaseSymbols : L → L

end LtoBridge
