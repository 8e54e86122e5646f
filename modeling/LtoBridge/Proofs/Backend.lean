/-
**Lines of output.**

What a program prints is a row of lines, each ended by a newline, and what it prints after the last
one is no line.  There is only one way to see it so, which says what the lines are without saying
how they are found.

Main definitions:

* `LtoBridge.Backend.IsSplit`, `LtoBridge.Backend.IsListing`: the lines of some output, and output
  that consists of names.

Main results:

* `LtoBridge.Backend.isSplit_iff`: output has lines in one way only;
* `LtoBridge.Backend.IsSplit.isListing_iff`: when it consists of names.
-/

import LtoBridge.Backend

set_option autoImplicit false

namespace LtoBridge.Backend

/-- **The lines of some output**, each of which is ended by a newline, and what follows the last
one. -/
structure IsSplit (output : Bytes) (ls : List Bytes) (rest : Bytes) : Prop where
  output_eq : output = ls.flatMap (· ++ [10]) ++ rest
  not_mem_line : ∀ l ∈ ls, 10 ∉ l
  not_mem_rest : 10 ∉ rest

/-- **Output that consists of names**: lines that are not empty, with nothing after the last one. -/
def IsListing (output : Bytes) : Prop :=
  ∃ names : List Bytes, (∀ name ∈ names, name ≠ [] ∧ 10 ∉ name) ∧
    output = names.flatMap (· ++ [10])

/-- What has no newline has no lines. -/
theorem lines_of_not_mem {rest : Bytes} (h : 10 ∉ rest) : lines rest = ([], rest) := by
  induction rest with
  | nil => rfl
  | cons b rest ih =>
      rw [List.mem_cons, not_or] at h
      obtain ⟨hb, hrest⟩ := h
      rw [lines, ih hrest]
      dsimp only
      rw [if_neg (Ne.symm hb)]

/-- A line comes before those that follow it. -/
theorem lines_line_append {l : Bytes} (h : 10 ∉ l) (output : Bytes) :
    lines (l ++ [10] ++ output) = (l :: (lines output).1, (lines output).2) := by
  induction l with
  | nil => rfl
  | cons b l ih =>
      rw [List.mem_cons, not_or] at h
      obtain ⟨hb, hl⟩ := h
      rw [List.cons_append, List.cons_append, lines, ih hl]
      dsimp only
      rw [if_neg (Ne.symm hb)]

theorem isSplit_lines (output : Bytes) : IsSplit output (lines output).1 (lines output).2 := by
  induction output with
  | nil => exact ⟨rfl, by simp [lines], by simp [lines]⟩
  | cons b output ih =>
      obtain ⟨heq, hline, hrest⟩ := ih
      rcases hlines : lines output with ⟨ls, rest⟩
      rw [hlines] at heq hline hrest
      simp only [lines, hlines]
      split
      · rename_i hb
        subst hb
        exact ⟨by rw [heq]; rfl, by simpa using hline, hrest⟩
      · rename_i hb
        cases ls with
        | nil => exact ⟨by rw [heq]; rfl, by simp, by simp [Ne.symm hb, hrest]⟩
        | cons l ls =>
            refine ⟨by rw [heq]; rfl, ?_, hrest⟩
            simp only [List.forall_mem_cons] at hline ⊢
            exact ⟨by simp [Ne.symm hb, hline.1], hline.2⟩

/-- **Output has lines in one way only.** -/
theorem isSplit_iff {output : Bytes} {ls : List Bytes} {rest : Bytes} :
    IsSplit output ls rest ↔ lines output = (ls, rest) := by
  constructor
  · rintro ⟨rfl, hline, hrest⟩
    induction ls with
    | nil => exact lines_of_not_mem hrest
    | cons l ls ih =>
        rw [List.forall_mem_cons] at hline
        rw [List.flatMap_cons, List.append_assoc, lines_line_append hline.1, ih hline.2]
  · intro h
    have hsplit := isSplit_lines output
    rwa [h] at hsplit

/-- Output consists of names if no line is empty and nothing follows the last one. -/
theorem IsSplit.isListing_iff {output : Bytes} {ls : List Bytes} {rest : Bytes}
    (h : IsSplit output ls rest) : IsListing output ↔ (∀ l ∈ ls, l ≠ []) ∧ rest = [] := by
  constructor
  · rintro ⟨names, hnames, houtput⟩
    have hsplit : IsSplit output names [] :=
      ⟨by rw [houtput, List.append_nil], fun l hl => (hnames l hl).2, by simp⟩
    have hsame := (isSplit_iff.1 h).symm.trans (isSplit_iff.1 hsplit)
    obtain ⟨rfl, rfl⟩ := Prod.mk.inj hsame
    exact ⟨fun l hl => (hnames l hl).1, rfl⟩
  · rintro ⟨hne, rfl⟩
    exact ⟨ls, fun l hl => ⟨hne l hl, h.not_mem_line l hl⟩, by rw [h.output_eq, List.append_nil]⟩

end LtoBridge.Backend
