/-
**Byte strings.**

File contents, paths and symbol names are lists of bytes.  This module holds the few operations
on them that the rest of the library needs: little-endian and big-endian numbers of a fixed
width, bounded slices, and the strings without a zero byte that the linker's interface can carry.

Main definitions:

* `LtoBridge.Bytes`, `LtoBridge.Bytes.ofString`;
* `LtoBridge.Bytes.toLittle`, `LtoBridge.Bytes.ofLittle`, `LtoBridge.Bytes.ofBig`: numbers;
* `LtoBridge.Bytes.slice?`: the bytes of a range, if the range lies within the data;
* `LtoBridge.NulFree`: a string that can be terminated by a zero byte, and
  `LtoBridge.NulFree.split?`: the string up to the first zero byte.

Main results:

* `LtoBridge.Bytes.ofLittle_toLittle`, `LtoBridge.Bytes.toLittle_ofLittle`: the two conversions
  are inverse to each other;
* `LtoBridge.Bytes.slice?_append`: data that follow do not change a slice;
* `LtoBridge.NulFree.split?_terminated_append`: a terminated string can be split off again.
-/

set_option autoImplicit false

namespace LtoBridge

/-- A string of bytes, with no assumption on its encoding. -/
abbrev Bytes := List UInt8

namespace Bytes

/-- The UTF-8 encoding of a text. -/
def ofString (s : String) : Bytes := s.toUTF8.data.toList

/-! ### Numbers of a fixed width -/

/-- How many numbers there are of `width` bytes. -/
def capacity : Nat → Nat
  | 0 => 1
  | width + 1 => 256 * capacity width

/-- The `width` lowest bytes of `n`, least significant first. -/
def toLittle : Nat → Nat → Bytes
  | 0, _ => []
  | width + 1, n => UInt8.ofNat (n % 256) :: toLittle width (n / 256)

/-- The number whose bytes are given least significant first. -/
def ofLittle : Bytes → Nat
  | [] => 0
  | b :: bs => b.toNat + 256 * ofLittle bs

/-- The number whose bytes are given most significant first. -/
def ofBig (bs : Bytes) : Nat := ofLittle bs.reverse

@[simp] theorem length_toLittle (width n : Nat) : (toLittle width n).length = width := by
  induction width generalizing n with
  | zero => rfl
  | succ width ih => simp [toLittle, ih]

theorem ofLittle_lt (bs : Bytes) : ofLittle bs < capacity bs.length := by
  induction bs with
  | nil => simp [ofLittle, capacity]
  | cons b bs ih =>
      have hb : b.toNat < 256 := b.toNat_lt
      simp only [ofLittle, List.length_cons, capacity]
      omega

theorem ofLittle_toLittle (width n : Nat) :
    ofLittle (toLittle width n) = n % capacity width := by
  induction width generalizing n with
  | zero => simp [toLittle, ofLittle, capacity, Nat.mod_one]
  | succ width ih =>
      have h : (UInt8.ofNat (n % 256)).toNat = n % 256 := by
        simp
      rw [toLittle, ofLittle, ih, h, capacity, Nat.mod_mul]

theorem toLittle_ofLittle (bs : Bytes) : toLittle bs.length (ofLittle bs) = bs := by
  induction bs with
  | nil => rfl
  | cons b bs ih =>
      have hb : b.toNat < 256 := b.toNat_lt
      have h₁ : (b.toNat + 256 * ofLittle bs) % 256 = b.toNat := by omega
      have h₂ : (b.toNat + 256 * ofLittle bs) / 256 = ofLittle bs := by omega
      simp [toLittle, ofLittle, h₁, h₂, ih]

/-! ### Slices -/

/-- The `len` bytes from position `start` on, if there are that many. -/
def slice? (data : Bytes) (start len : Nat) : Option Bytes :=
  if start + len ≤ data.length then some ((data.drop start).take len) else none

theorem slice?_eq_some_iff {data bs : Bytes} {start len : Nat} :
    slice? data start len = some bs ↔
      start + len ≤ data.length ∧ (data.drop start).take len = bs := by
  simp [slice?]

theorem length_of_slice? {data bs : Bytes} {start len : Nat}
    (h : slice? data start len = some bs) : bs.length = len := by
  obtain ⟨hle, rfl⟩ := slice?_eq_some_iff.1 h
  simp only [List.length_take, List.length_drop]
  omega

/-- The decimal digits of a number, as bytes. -/
def decimal (n : Nat) : Bytes := ofString (toString n)

end Bytes

/-! ### Strings without a zero byte -/

/-- A string that contains no zero byte, so that one can mark its end. -/
structure NulFree where
  bytes : Bytes
  zero_not_mem : 0 ∉ bytes
  deriving DecidableEq

namespace NulFree

/-- The string with the given bytes, unless there is a zero byte among them. -/
def ofBytes? (bs : Bytes) : Option NulFree :=
  if h : 0 ∈ bs then none else some ⟨bs, h⟩

/-- The part of a byte string before its first zero byte. -/
def upToZero (bs : Bytes) : NulFree :=
  ⟨bs.takeWhile (· != 0), fun h => by
    simpa using List.all_eq_true.1 (List.all_takeWhile (p := (· != 0)) (l := bs)) 0 h⟩

/-- The string followed by the zero byte that ends it. -/
def terminated (s : NulFree) : Bytes := s.bytes ++ [0]

/-- The string up to the first zero byte, and what follows that byte. -/
def split? (data : Bytes) : Option (NulFree × Bytes) :=
  match data.dropWhile (· != 0) with
  | [] => none
  | _ :: rest => some (.upToZero data, rest)

/-- A string that can be split off is the beginning of the data. -/
theorem eq_terminated_append_of_split? {data rest : Bytes} {s : NulFree}
    (h : split? data = some (s, rest)) : data = s.terminated ++ rest := by
  unfold split? at h
  split at h
  · cases h
  · rename_i z r hz
    cases h
    have hz0 : z = 0 := by
      have := List.head?_dropWhile_not (fun b : UInt8 => b != 0) data
      simpa [hz] using this
    have hsplit := List.takeWhile_append_dropWhile (p := (· != 0)) (l := data)
    rw [hz, hz0] at hsplit
    simpa [terminated, upToZero] using hsplit.symm

/-- A string that is followed by its end can be split off. -/
@[simp] theorem split?_terminated_append (s : NulFree) (rest : Bytes) :
    split? (s.terminated ++ rest) = some (s, rest) := by
  obtain ⟨bs, hbs⟩ := s
  have hne : ∀ b ∈ bs, (b != 0) = true := by
    intro b hb
    simpa using fun h : b = 0 => hbs (h ▸ hb)
  have htake : (bs ++ 0 :: rest).takeWhile (· != 0) = bs := by
    rw [List.takeWhile_append_of_pos hne]
    simp
  have hdrop : (bs ++ 0 :: rest).dropWhile (· != 0) = 0 :: rest := by
    rw [List.dropWhile_append_of_pos hne]
    simp
  simp [split?, terminated, upToZero, htake, hdrop]

end NulFree

end LtoBridge
