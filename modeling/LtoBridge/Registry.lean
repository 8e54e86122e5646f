/-
**The files that have been claimed.**

Files are only ever added at the end, so that a position stays valid until the link is over.  Their
symbols are needed until the resolutions have been collected and are released then; the backend
only needs the names of the files.

Main definitions:

* `LtoBridge.Handle`: the linker's identifier of an input file;
* `LtoBridge.ClaimedFile`, `LtoBridge.Registry`.

Main results:

* `LtoBridge.Registry.identities_assign`, `LtoBridge.Registry.identities_release`: neither
  resolutions nor the release of symbols change which files have been claimed.
-/

import LtoBridge.Path
import LtoBridge.SymbolTable

set_option autoImplicit false

namespace LtoBridge

/-- The linker's identifier of an input file, which means nothing to anybody else. -/
abbrev Handle := UInt64

/-- A file that has been claimed. -/
structure ClaimedFile where
  /-- Where the object can be read; for an archive member, the copy that was made of it. -/
  path : Path
  handle : Handle
  /-- Is the file a copy that has to be deleted in the end? -/
  temporary : Bool
  /-- The symbols, until they are released. -/
  symbols : Option SymbolTable
  deriving DecidableEq

namespace ClaimedFile

/-- What stays the same about a claimed file. -/
def identity (f : ClaimedFile) : Path × Handle × Bool := (f.path, f.handle, f.temporary)

/-- The number of symbols that are still there. -/
def symbolCount (f : ClaimedFile) : Nat := f.symbols.elim 0 SymbolTable.size

/-- The file with resolutions entered for its first symbols. -/
def assign (f : ClaimedFile) (rs : List (Option Resolution)) : ClaimedFile :=
  { f with symbols := f.symbols.map (·.assign rs) }

/-- The file without its symbols. -/
def release (f : ClaimedFile) : ClaimedFile := { f with symbols := none }

/-- How diagnostics show a claimed file. -/
def describe (f : ClaimedFile) : String :=
  if f.temporary then s!"`{f.path.shown}` (extracted)" else s!"`{f.path.shown}`"

@[simp] theorem identity_assign (f : ClaimedFile) (rs : List (Option Resolution)) :
    (f.assign rs).identity = f.identity := rfl

@[simp] theorem identity_release (f : ClaimedFile) : f.release.identity = f.identity := rfl

end ClaimedFile

/-- The claimed files, in the order in which they were claimed. -/
structure Registry where
  files : List ClaimedFile := []
  deriving DecidableEq

namespace Registry

/-- The number of files. -/
def size (r : Registry) : Nat := r.files.length

/-- The registry with one more file, whose position is the size before. -/
def push (r : Registry) (f : ClaimedFile) : Registry := ⟨r.files ++ [f]⟩

/-- The names of the files. -/
def paths (r : Registry) : List Path := r.files.map (·.path)

/-- What stays the same about the files. -/
def identities (r : Registry) : List (Path × Handle × Bool) := r.files.map (·.identity)

/-- The registry without symbols. -/
def release (r : Registry) : Registry := ⟨r.files.map (·.release)⟩

/-- The registry with resolutions entered for the first symbols of one file. -/
def assign (r : Registry) (index : Nat) (rs : List (Option Resolution)) : Registry :=
  ⟨r.files.modify index (·.assign rs)⟩

theorem paths_eq_map_identities (r : Registry) : r.paths = r.identities.map (·.1) := by
  simp [paths, identities, ClaimedFile.identity, Function.comp_def]

@[simp] theorem identities_push (r : Registry) (f : ClaimedFile) :
    (r.push f).identities = r.identities ++ [f.identity] := by
  simp [push, identities]

@[simp] theorem identities_release (r : Registry) : r.release.identities = r.identities := by
  simp [release, identities, Function.comp_def]

@[simp] theorem paths_release (r : Registry) : r.release.paths = r.paths := by
  rw [paths_eq_map_identities, identities_release, paths_eq_map_identities]

@[simp] theorem identities_assign (r : Registry) (index : Nat) (rs : List (Option Resolution)) :
    (r.assign index rs).identities = r.identities := by
  obtain ⟨files⟩ := r
  simp only [assign, identities]
  induction files generalizing index with
  | nil => simp
  | cons f fs ih => cases index <;> simp [ih]

end Registry

end LtoBridge
