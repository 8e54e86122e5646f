/-
**Copies under other numbers.**

The copies of archive members are numbered, and their numbers are all that two sessions differ in if
one of them has copied a member more: from some number on, each copy of the one is a copy of the
other with a larger number.  Here is what this does to names, to locations, to failures and to what
a session writes and asks for.

Main definitions:

* `LtoBridge.Claim.memberNumber?`: the number in the name of a copy;
* `LtoBridge.Renumbering`: how copies are renumbered;
* `LtoBridge.Renumbering.rename`, `LtoBridge.Renumbering.move`: the names of files and their
  locations, where the copies have their new numbers;
* `LtoBridge.Renumbering.Lists`: texts that list the same files, under their old and new names;
* `LtoBridge.Renumbering.AskAlike`: calls that ask for the same, about files under their old and new
  names.

Main results:

* `LtoBridge.Claim.memberNumber?_eq_some_iff`: names of copies can be told from other names.
-/

import LtoBridge.Proofs.Session.KeptCopies
import LtoBridge.Proofs.Simulation

set_option autoImplicit false

namespace LtoBridge

/-! ### The numbers of copies -/

/-- **The number of the copy with a name**, if a copy has this name. -/
def Claim.memberNumber? (name : Bytes) : Option Nat :=
  let number := Bytes.value (name.drop 3).dropLast.dropLast
  if memberName number = name then some number else none

theorem Claim.memberNumber?_eq_some_iff {name : Bytes} {number : Nat} :
    memberNumber? name = some number ↔ name = memberName number := by
  have hnumber : ∀ n, Bytes.value ((memberName n).drop 3).dropLast.dropLast = n := by
    intro n
    have hdigits : ((memberName n).drop 3).dropLast.dropLast = Bytes.decimal n := by
      rw [memberName_eq]
      simp [List.dropLast_append_of_ne_nil]
    rw [hdigits, Bytes.value_decimal]
  unfold memberNumber?
  constructor
  · intro h
    dsimp only at h
    split at h
    · rename_i hname
      rw [← Option.some.inj h]
      exact hname.symm
    · cases h
  · rintro rfl
    simp only [hnumber, if_true]

/-! ### New numbers -/

/-- **How copies are renumbered**: in a directory with a name, those from a first number on go on by
some steps.  At some locations, with that of the arguments file among them, there are files that
list others by their names. -/
structure Renumbering where
  path : Path
  directory : Location
  path_ne_nil : path ≠ []
  first : Nat
  step : Nat
  listing : Location → Prop
  arguments : listing (directory ++ [Backend.argumentsName])
  copies : ∀ number, ¬ listing (directory ++ [Claim.memberName number])

namespace Renumbering

variable (σ : Renumbering)

/-- The new number of a copy. -/
def number (n : Nat) : Nat := if n < σ.first then n else n + σ.step

theorem number_of_le {n : Nat} (h : σ.first ≤ n) : σ.number n = n + σ.step :=
  if_neg (Nat.not_lt.2 h)

theorem number_of_lt {n : Nat} (h : n < σ.first) : σ.number n = n := if_pos h

theorem number_injective {m n : Nat} (h : σ.number m = σ.number n) : m = n := by
  unfold number at h
  split at h <;> split at h <;> omega

/-- Some numbers are no longer used. -/
theorem number_ne {m n : Nat} (hn : σ.first ≤ n) (hn' : n < σ.first + σ.step) :
    σ.number m ≠ n := by
  unfold number
  split <;> omega

section

variable {α : Type} {make : Nat → α} {number? : α → Option Nat} {a b : α} {n : Nat}

/-- What is made from the number of a copy, with the new number. -/
def renumber (make : Nat → α) (number? : α → Option Nat) (a : α) : α :=
  match number? a with
  | some n => make (σ.number n)
  | none => a

variable (hmake : ∀ a n, number? a = some n ↔ a = make n)

include hmake

theorem renumber_make : σ.renumber make number? (make n) = make (σ.number n) := by
  rw [renumber, (hmake _ _).2 rfl]

theorem renumber_of_ne (h : ∀ n, a ≠ make n) : σ.renumber make number? a = a := by
  cases hnumber : number? a with
  | none => rw [renumber, hnumber]
  | some n => exact absurd ((hmake _ _).1 hnumber) (h n)

theorem renumber_injective (h : σ.renumber make number? a = σ.renumber make number? b) :
    a = b := by
  have hinjective : ∀ m n, make m = make n → m = n := by
    intro m n hmn
    have hm := (hmake (make m) m).2 rfl
    rw [(hmake (make m) n).2 hmn] at hm
    exact (Option.some.inj hm).symm
  by_cases ha : ∃ n, a = make n
  · obtain ⟨m, rfl⟩ := ha
    rw [σ.renumber_make hmake] at h
    by_cases hb : ∃ n, b = make n
    · obtain ⟨n, rfl⟩ := hb
      rw [σ.renumber_make hmake] at h
      rw [σ.number_injective (hinjective _ _ h)]
    · rw [σ.renumber_of_ne hmake fun n hn => hb ⟨n, hn⟩] at h
      exact absurd ⟨_, h.symm⟩ hb
  · rw [σ.renumber_of_ne hmake fun n hn => ha ⟨n, hn⟩] at h
    by_cases hb : ∃ n, b = make n
    · obtain ⟨n, rfl⟩ := hb
      rw [σ.renumber_make hmake] at h
      exact absurd ⟨_, h⟩ ha
    · rwa [σ.renumber_of_ne hmake fun n hn => hb ⟨n, hn⟩] at h

end

/-! ### Names and locations -/

/-- The name of the copy with a number. -/
def copyName (n : Nat) : Path := Claim.memberPath σ.path n

/-- Where the copy with a number is. -/
def copyAt (n : Nat) : Location := σ.directory ++ [Claim.memberName n]

/-- The number of the copy that a file name is the name of. -/
def nameNumber? (p : Path) : Option Nat :=
  (Claim.memberNumber? (p.drop (σ.path.join []).length)).filter fun n => σ.copyName n = p

/-- The number of the copy that is at a location. -/
def locationNumber? (l : Location) : Option Nat :=
  (l.getLast?.bind Claim.memberNumber?).filter fun n => σ.copyAt n = l

/-- **The new name of a file**, which is the old one unless the file is a copy. -/
def rename : Path → Path := σ.renumber σ.copyName σ.nameNumber?

/-- **Where a file is now.** -/
def move : Location → Location := σ.renumber σ.copyAt σ.locationNumber?

theorem nameNumber?_eq_some_iff (p : Path) (n : Nat) :
    σ.nameNumber? p = some n ↔ p = σ.copyName n := by
  have hdrop : (σ.copyName n).drop (σ.path.join []).length = Claim.memberName n := by
    have hname := (Session.IsOwnName.copy n).isEntryName
    have hcopy : σ.copyName n = σ.path.join (Claim.memberName n) := rfl
    have hempty : σ.path.join [] =
        if σ.path.getLast? = some Path.separator then σ.path else σ.path ++ [Path.separator] := by
      simp [Path.join, Path.isAbsolute, σ.path_ne_nil]
    rw [hcopy, hname.join_eq σ.path_ne_nil, hempty]
    split
    · rw [List.drop_left]
    · rw [List.append_cons σ.path _ (Claim.memberName n), List.drop_left]
  constructor
  · intro h
    obtain ⟨-, hp⟩ := Option.filter_eq_some_iff.1 h
    exact (of_decide_eq_true hp).symm
  · rintro rfl
    rw [nameNumber?, hdrop, Claim.memberNumber?_eq_some_iff.2 rfl]
    simp

theorem locationNumber?_eq_some_iff (l : Location) (n : Nat) :
    σ.locationNumber? l = some n ↔ l = σ.copyAt n := by
  constructor
  · intro h
    obtain ⟨-, hl⟩ := Option.filter_eq_some_iff.1 h
    exact (of_decide_eq_true hl).symm
  · rintro rfl
    have hlast : (σ.copyAt n).getLast? = some (Claim.memberName n) := by simp [copyAt]
    rw [locationNumber?, hlast, Option.bind_some, Claim.memberNumber?_eq_some_iff.2 rfl]
    simp

theorem rename_copyName (n : Nat) : σ.rename (σ.copyName n) = σ.copyName (σ.number n) :=
  σ.renumber_make σ.nameNumber?_eq_some_iff

theorem rename_of_ne {p : Path} (h : ∀ n, p ≠ σ.copyName n) : σ.rename p = p :=
  σ.renumber_of_ne σ.nameNumber?_eq_some_iff h

theorem rename_eq_nil_iff {p : Path} : σ.rename p = [] ↔ p = [] := by
  have hcopy : ∀ n, σ.copyName n ≠ [] := fun n =>
    Session.join_ne_nil σ.path_ne_nil (Claim.memberName n)
  by_cases h : ∃ n, p = σ.copyName n
  · obtain ⟨n, rfl⟩ := h
    rw [σ.rename_copyName]
    exact iff_of_false (hcopy _) (hcopy _)
  · rw [σ.rename_of_ne fun n hn => h ⟨n, hn⟩]

theorem rename_arguments :
    σ.rename (σ.path.join Backend.argumentsName) = σ.path.join Backend.argumentsName :=
  σ.rename_of_ne fun n => (Session.memberPath_ne_argumentsPath n σ.path_ne_nil).symm

theorem move_copyAt (n : Nat) : σ.move (σ.copyAt n) = σ.copyAt (σ.number n) :=
  σ.renumber_make σ.locationNumber?_eq_some_iff

theorem move_of_ne {l : Location} (h : ∀ n, l ≠ σ.copyAt n) : σ.move l = l :=
  σ.renumber_of_ne σ.locationNumber?_eq_some_iff h

theorem move_injective {l l' : Location} (h : σ.move l = σ.move l') : l = l' :=
  σ.renumber_injective σ.locationNumber?_eq_some_iff h

theorem move_of_listing {l : Location} (h : σ.listing l) : σ.move l = l := by
  refine σ.move_of_ne ?_
  rintro n rfl
  exact σ.copies n h

theorem move_eq_or (l : Location) :
    σ.move l = l ∨ ∃ n, l = σ.copyAt n ∧ σ.move l = σ.copyAt (σ.number n) := by
  by_cases h : ∃ n, l = σ.copyAt n
  · obtain ⟨n, rfl⟩ := h
    exact .inr ⟨n, rfl, σ.move_copyAt n⟩
  · exact .inl (σ.move_of_ne fun n hn => h ⟨n, hn⟩)

theorem copyAt_injective {m n : Nat} (h : σ.copyAt m = σ.copyAt n) : m = n :=
  Claim.memberName_injective (List.singleton_inj.1 (List.append_cancel_left h))

/-- Nothing moves to where a copy no longer is. -/
theorem move_ne {l : Location} {n : Nat} (hn : σ.first ≤ n) (hn' : n < σ.first + σ.step) :
    σ.move l ≠ σ.copyAt n := by
  intro h
  rcases σ.move_eq_or l with hsame | ⟨m, rfl, hmoved⟩
  · rw [hsame] at h
    subst h
    rw [σ.move_copyAt] at hsame
    exact σ.number_ne hn hn' (σ.copyAt_injective hsame)
  · rw [hmoved] at h
    exact σ.number_ne hn hn' (σ.copyAt_injective h)

/-! ### Claimed files, failures and calls -/

/-- A claimed file under its new name. -/
def renameFile (f : ClaimedFile) : ClaimedFile := { f with path := σ.rename f.path }

/-- **The registry with all files under their new names.** -/
def renameRegistry (r : Registry) : Registry := ⟨r.files.map σ.renameFile⟩

theorem paths_renameRegistry (r : Registry) :
    (σ.renameRegistry r).paths = r.paths.map σ.rename := by
  simp [renameRegistry, Registry.paths, renameFile, Function.comp_def]

theorem renameRegistry_push (r : Registry) (f : ClaimedFile) :
    σ.renameRegistry (r.push f) = (σ.renameRegistry r).push (σ.renameFile f) := by
  simp [renameRegistry, Registry.push]

theorem renameRegistry_release (r : Registry) :
    σ.renameRegistry r.release = (σ.renameRegistry r).release := by
  simp [renameRegistry, Registry.release, renameFile, ClaimedFile.release, Function.comp_def]

theorem renameRegistry_assign (r : Registry) (index : Nat) (rs : List (Option Resolution)) :
    σ.renameRegistry (r.assign index rs) = (σ.renameRegistry r).assign index rs := by
  obtain ⟨files⟩ := r
  simp only [renameRegistry, Registry.assign]
  induction files generalizing index with
  | nil => simp
  | cons f fs ih =>
      cases index with
      | zero => simp [renameFile, ClaimedFile.assign]
      | succ index =>
          have hrest := congrArg Registry.files (ih index)
          simp only at hrest
          simp [hrest]

/-- What was being done, with the new name of the file that it was about; the other names are none
of copies. -/
def renameContext : Context → Context
  | .creating p => .creating (σ.rename p)
  | .writing p => .writing (σ.rename p)
  | .opening p => .opening (σ.rename p)
  | .deleting p => .deleting (σ.rename p)
  | .symbolTable p => .symbolTable (σ.rename p)
  | .resolving p => .resolving (σ.rename p)
  | .addingFile p => .addingFile (σ.rename p)
  | .passingPath p => .passingPath (σ.rename p)
  | context => context

/-- **A failure with the new names of the files that it was about.** -/
def renameFailure (f : Failure) : Failure := { f with contexts := f.contexts.map σ.renameContext }

/-- **A result with new names in its failure.** -/
def renameResult {α : Type} (x : Except Failure α) : Except Failure α :=
  x.mapError σ.renameFailure

theorem renameFailure_within (context : Context) (f : Failure) :
    σ.renameFailure (f.within context) =
      (σ.renameFailure f).within (σ.renameContext context) := rfl

/-- **Two texts list the same files** under their old and new names, in the way of the arguments
file or in that of the resolution file. -/
inductive Lists : Bytes → Bytes → Prop
  | arguments (words : List Bytes) :
      Lists (ArgumentsFile.render words) (ArgumentsFile.render (words.map σ.rename))
  | resolutions (r : Registry) :
      Lists (ResolutionFile.render r) (ResolutionFile.render (σ.renameRegistry r))

/-- A call with the new name of the file that it is about. -/
def renameEffect : Effect → Effect
  | .createFile p => .createFile (σ.rename p)
  | .appendFile p data => .appendFile (σ.rename p) data
  | .removeFile p => .removeFile (σ.rename p)
  | .addInputFile p => .addInputFile (σ.rename p)
  | effect => effect

/-- **Two calls ask for the same**, about a file under its old and its new name.  What is written to
a copy is the same, and what is written to any other file lists the same files.  Calls that cannot
be noticed are not compared. -/
inductive AskAlike : Effect → Effect → Prop
  | hidden {e e' : Effect} (h : e.visible = false) (h' : e'.visible = false) : AskAlike e e'
  | renamed (e : Effect) (h : ∀ p text, e ≠ .appendFile p text) : AskAlike e (σ.renameEffect e)
  | copied (n : Nat) (data : Bytes) :
      AskAlike (.appendFile (σ.copyName n) data) (.appendFile (σ.copyName (σ.number n)) data)
  | listed (p : Path) {text text' : Bytes} (h : σ.Lists text text') :
      AskAlike (.appendFile p text) (.appendFile p text')

theorem AskAlike.of_eq {e e' : Effect} (hnot : ∀ p text, e ≠ .appendFile p text)
    (h : σ.renameEffect e = e') : σ.AskAlike e e' :=
  h ▸ .renamed e hnot

end Renumbering

end LtoBridge
