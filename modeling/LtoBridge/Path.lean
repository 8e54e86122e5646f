/-
**File names as byte strings.**

Main definitions:

* `LtoBridge.Path`: a file name;
* `LtoBridge.Path.join`: a name relative to a directory;
* `LtoBridge.Path.shown`: the form that diagnostics use.
-/

import LtoBridge.Text.Utf8

set_option autoImplicit false

namespace LtoBridge

/-- A file name: bytes in which `/` separates components. -/
abbrev Path := Bytes

namespace Path

/-- The byte between components. -/
def separator : UInt8 := 47

/-- Does the name start at the root? -/
def isAbsolute (p : Path) : Bool := p.head? == some separator

/-- The name `p`, read from the directory `dir`.  An absolute name does not depend on it. -/
def join (dir p : Path) : Path :=
  if p.isAbsolute then p
  else if dir = [] ∨ dir.getLast? = some separator then dir ++ p
  else dir ++ separator :: p

/-- A file name in a diagnostic. -/
def shown (p : Path) : String := Utf8.lossy p

end Path

end LtoBridge
