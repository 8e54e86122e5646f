/-
**The reader of the arguments file gets back what was written.**

The written form of a byte is read as that byte, whatever has been read of the argument before, so
the reader collects the bytes of an argument one by one and completes it at the end of its line.

Main results:

* `LtoBridge.ArgumentsFile.splitFrom_escape`: one argument;
* `LtoBridge.ArgumentsFile.split_render`: **all of them**.
-/

import LtoBridge.ArgumentsFile

set_option autoImplicit false

namespace LtoBridge.ArgumentsFile

/-- A byte that means nothing to the reader is none of those that do. -/
theorem of_not_special {b : UInt8} (h : isSpecial b = false) :
    isBlank b = false ∧ b ≠ backslash ∧ b ≠ singleQuote ∧ b ≠ doubleQuote := by
  simpa [isSpecial, and_assoc] using h

/-- The written form of a byte is read as that byte. -/
theorem splitFrom_escapeByte {r : Reader} (hquote : r.quote = none) (hescaped : r.escaped = false)
    (b : UInt8) (rest : Bytes) :
    splitFrom r (escapeByte b ++ rest) = splitFrom (r.take b) rest := by
  obtain ⟨_, _, begun⟩ := r
  obtain rfl : _ = none := hquote
  obtain rfl : _ = false := hescaped
  unfold escapeByte
  cases hspecial : isSpecial b with
  | true => simp [splitFrom, Reader.take]
  | false =>
      obtain ⟨hblank, hbackslash, hsingle, hdouble⟩ := of_not_special hspecial
      simp [splitFrom, hblank, hbackslash, hsingle, hdouble]

/-- The written form of some bytes is read as those bytes, after those that have been read. -/
theorem splitFrom_flatMap_escapeByte (argument before rest : Bytes) :
    splitFrom { begun := some before } (argument.flatMap escapeByte ++ rest) =
      splitFrom { begun := some (before ++ argument) } rest := by
  induction argument generalizing before with
  | nil => simp
  | cons b argument ih =>
      rw [List.flatMap_cons, List.append_assoc, splitFrom_escapeByte rfl rfl]
      have hread := ih (before ++ [b])
      rwa [List.append_assoc, List.singleton_append] at hread

/-- **An argument on a line of its own is read.** -/
theorem splitFrom_escape (argument rest : Bytes) :
    splitFrom {} (escape argument ++ 10 :: rest) = argument :: splitFrom {} rest := by
  have hend : ∀ bytes : Bytes,
      splitFrom { begun := some bytes } (10 :: rest) = bytes :: splitFrom {} rest :=
    fun bytes => rfl
  cases argument with
  | nil => exact hend []
  | cons b argument =>
      rw [escape, if_neg (List.cons_ne_nil b argument), List.flatMap_cons, List.append_assoc,
        splitFrom_escapeByte rfl rfl]
      exact (splitFrom_flatMap_escapeByte argument [b] (10 :: rest)).trans (hend (b :: argument))

/-- **The reader gets back what was written.** -/
theorem split_render (arguments : List Bytes) : split (render arguments) = arguments := by
  induction arguments with
  | nil => rfl
  | cons argument arguments ih =>
      have hread := splitFrom_escape argument (render arguments)
      rw [render, List.flatMap_cons, List.append_assoc]
      exact hread.trans (congrArg (argument :: ·) ih)

/-- Blanks, quotes, backslashes and nothing at all. -/
example : render [[32, 9], [], [92, 34]] =
      [92, 32, 92, 9, 10, 34, 34, 10, 92, 92, 92, 34, 10] ∧
    split (render [[32, 9], [], [92, 34]]) = [[32, 9], [], [92, 34]] := by
  decide

end LtoBridge.ArgumentsFile
