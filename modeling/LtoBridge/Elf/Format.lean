/-
**Numbers in ELF files.**

An ELF file comes in two classes, for machines of 32 and of 64 bits, and in two byte orders.  A
header is a row of numbers whose widths depend on the class.

Main definitions:

* `LtoBridge.Elf.Format`: a class and a byte order;
* `LtoBridge.Elf.Format.numbers`: read a row of numbers;
* `LtoBridge.Elf.Format.row`: write one.

Main results:

* `LtoBridge.Elf.Format.numbers_row`: what is written can be read.
-/

import LtoBridge.Bytes

set_option autoImplicit false

namespace LtoBridge.Elf

/-- The size of the machine words that a file is for. -/
inductive WordSize
  | bits32
  | bits64
  deriving DecidableEq, Repr

/-- The number of bytes of a machine word. -/
def WordSize.bytes : WordSize → Nat
  | bits32 => 4
  | bits64 => 8

/-- Which byte of a number comes first. -/
inductive ByteOrder
  | little
  | big
  deriving DecidableEq, Repr

/-- How the headers of a file are written. -/
structure Format where
  word : WordSize
  order : ByteOrder
  deriving DecidableEq, Repr

namespace Format

/-- The number that some bytes stand for. -/
def number (f : Format) (bs : Bytes) : Nat :=
  match f.order with
  | .little => Bytes.ofLittle bs
  | .big => Bytes.ofBig bs

/-- The bytes of a number of the given width. -/
def bytes (f : Format) (width n : Nat) : Bytes :=
  match f.order with
  | .little => Bytes.toLittle width n
  | .big => (Bytes.toLittle width n).reverse

/-- The numbers of the given widths at the beginning of the data. -/
def numbers (f : Format) : List Nat → Bytes → Option (List Nat)
  | [], _ => some []
  | width :: widths, bs =>
      if (bs.take width).length = width then
        (f.numbers widths (bs.drop width)).map (f.number (bs.take width) :: ·)
      else none

/-- The numbers of a row, each with its width, one after the other. -/
def row (f : Format) (cells : List (Nat × Nat)) : Bytes :=
  cells.flatMap fun cell => f.bytes cell.1 cell.2

@[simp] theorem length_bytes (f : Format) (width n : Nat) : (f.bytes width n).length = width := by
  unfold bytes
  split <;> simp

theorem number_bytes (f : Format) (width n : Nat) :
    f.number (f.bytes width n) = n % Bytes.capacity width := by
  unfold number bytes
  split <;> simp [Bytes.ofBig, Bytes.ofLittle_toLittle, *]

/-- What is written can be read, as far as the numbers fit their widths. -/
theorem numbers_row (f : Format) (cells : List (Nat × Nat)) (rest : Bytes)
    (h : ∀ cell ∈ cells, cell.2 < Bytes.capacity cell.1) :
    f.numbers (cells.map Prod.fst) (f.row cells ++ rest) = some (cells.map Prod.snd) := by
  induction cells with
  | nil => rfl
  | cons cell cells ih =>
      have hrow : f.row (cell :: cells) ++ rest =
          f.bytes cell.1 cell.2 ++ (f.row cells ++ rest) := by simp [row]
      have htake : (f.row (cell :: cells) ++ rest).take cell.1 = f.bytes cell.1 cell.2 := by
        rw [hrow, List.take_left' (by simp)]
      have hdrop : (f.row (cell :: cells) ++ rest).drop cell.1 = f.row cells ++ rest := by
        rw [hrow, List.drop_left' (by simp)]
      rw [List.map_cons, numbers, htake, hdrop, ih fun c hc => h c (List.mem_cons_of_mem _ hc),
        number_bytes, Nat.mod_eq_of_lt (h cell List.mem_cons_self)]
      simp

end Format

end LtoBridge.Elf
