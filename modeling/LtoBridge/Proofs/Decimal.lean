/-
**Decimal numbers.**

Numbers are written in decimal in the names of copies and in the resolution file.  Nothing of them
gets lost there, and nothing but digits is written.

Main definitions:

* `LtoBridge.Bytes.value`: the number that digits stand for.

Main results:

* `LtoBridge.Bytes.digit_of_mem_decimal`: there are only digits in a number;
* `LtoBridge.Bytes.value_decimal`: **a number that was written is read back**.
-/

import LtoBridge.Bytes

set_option autoImplicit false

namespace LtoBridge.Bytes

theorem ofString_append (s t : String) : ofString (s ++ t) = ofString s ++ ofString t := by
  simp only [ofString, String.toUTF8_eq_toByteArray, String.toByteArray_append,
    ByteArray.data_append, Array.toList_append]

/-! ### Digits -/

theorem decimal_of_lt {n : Nat} (h : n < 10) : decimal n = [UInt8.ofNat (48 + n)] := by
  have hdigit : ∀ d < 10, ofString (String.singleton d.digitChar) = [UInt8.ofNat (48 + d)] := by
    decide +kernel
  change ofString n.repr = _
  rw [Nat.repr_of_lt h, hdigit n h]

/-- The last digit of a number comes behind the others. -/
theorem decimal_of_ge {n : Nat} (h : 10 ≤ n) :
    decimal n = decimal (n / 10) ++ decimal (n % 10) := by
  have hlast : n % 10 < 10 := Nat.mod_lt n (by omega)
  change ofString n.repr = ofString (n / 10).repr ++ ofString (n % 10).repr
  rw [Nat.repr_of_ge h, Nat.repr_of_lt hlast, ofString_append]

theorem decimal_ne_nil (n : Nat) : decimal n ≠ [] := by
  rcases Nat.lt_or_ge n 10 with hn | hn
  · rw [decimal_of_lt hn]
    exact List.cons_ne_nil _ _
  · rw [decimal_of_ge hn, decimal_of_lt (Nat.mod_lt n (by omega))]
    exact List.append_ne_nil_of_right_ne_nil _ (List.cons_ne_nil _ _)

/-- There are only digits in a number. -/
theorem digit_of_mem_decimal {n : Nat} : ∀ b ∈ decimal n, 48 ≤ b ∧ b ≤ 57 := by
  have hdigit : ∀ d < 10, 48 ≤ UInt8.ofNat (48 + d) ∧ UInt8.ofNat (48 + d) ≤ 57 := by decide
  induction n using Nat.strongRecOn with
  | ind n ih =>
      rcases Nat.lt_or_ge n 10 with hn | hn
      · rw [decimal_of_lt hn]
        intro b hb
        rw [List.mem_singleton.1 hb]
        exact hdigit n hn
      · rw [decimal_of_ge hn]
        intro b hb
        rcases List.mem_append.1 hb with hb | hb
        · exact ih (n / 10) (by omega) b hb
        · exact ih (n % 10) (by omega) b hb

/-! ### Their value -/

/-- The number that digits stand for. -/
def value (digits : Bytes) : Nat := digits.foldl (fun n b => 10 * n + (b.toNat - 48)) 0

/-- **A number that was written is read back.** -/
theorem value_decimal (n : Nat) : value (decimal n) = n := by
  have hvalue : ∀ d < 10, (UInt8.ofNat (48 + d)).toNat - 48 = d := by decide
  induction n using Nat.strongRecOn with
  | ind n ih =>
      rcases Nat.lt_or_ge n 10 with hn | hn
      · rw [decimal_of_lt hn, value, List.foldl_cons, List.foldl_nil, hvalue n hn]
        omega
      · have hlast : n % 10 < 10 := Nat.mod_lt n (by omega)
        have hothers : value (decimal (n / 10)) = n / 10 := ih (n / 10) (by omega)
        rw [value] at hothers
        rw [decimal_of_ge hn, decimal_of_lt hlast, value, List.foldl_append, hothers,
          List.foldl_cons, List.foldl_nil, hvalue _ hlast]
        omega

/-- Different numbers have different digits. -/
theorem decimal_injective {m n : Nat} (h : decimal m = decimal n) : m = n := by
  rw [← value_decimal m, h, value_decimal]

end LtoBridge.Bytes
