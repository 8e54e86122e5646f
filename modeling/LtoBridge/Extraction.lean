/-
**Copying a member out of an archive.**

A member is copied in pieces of at most 64 KiB.  Every read names its position, so the linker's own
position in the archive does not change.

Main definitions:

* `LtoBridge.Extraction.copyFrom`, `LtoBridge.Extraction.copyRange`.
-/

import LtoBridge.Platform

set_option autoImplicit false

namespace LtoBridge.Extraction

variable {W : Type} [Platform W]

/-- The most bytes that are read at once. -/
def chunkSize : Nat := 65536

/-- Copy `remaining` bytes from a position on to the end of a file.  The member has `length` bytes
altogether. -/
def copyFrom (source : Descriptor) (destination : Path) (length : Nat) (position remaining : Nat) :
    Act W Unit :=
  if remaining = 0 then pure ()
  else do
    let piece ← (Act.ofOs (Platform.readAt source position (min remaining chunkSize))).within
      .readingMember
    if _h : piece.length = 0 then Act.fail (.memberEnds (length - remaining) length)
    else do
      (Act.ofOs (Platform.appendFile destination piece)).within (.writing destination)
      copyFrom source destination length (position + piece.length) (remaining - piece.length)
  termination_by remaining

/-- **Copy `length` bytes of an open file from `offset` on to a new file.** -/
def copyRange (source : Descriptor) (offset length : Nat) (destination : Path) : Act W Unit := do
  (Act.ofOs (Platform.createFile destination)).within (.creating destination)
  copyFrom source destination length offset length

end LtoBridge.Extraction
