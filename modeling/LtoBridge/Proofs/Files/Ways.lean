/-
**Where names lead.**

Only directories and links decide where a name leads: a file can be written or removed, and all
names still lead to the same locations.  And the name of an entry of a directory leads to the
location below that of the directory, unless a link is there.

Main definitions:

* `LtoBridge.FileTree.KeepsWays`: a tree has the directories and the links of another one;
* `LtoBridge.FileTree.SameWays`: two trees have the same directories and links;
* `LtoBridge.Disk.isOpenTo`: there is a file at a location, or nothing at all;
* `LtoBridge.Disk.IsEntryName`: a name that stands for an entry of a directory;
* `LtoBridge.Disk.LastStep`: how a way ends whose last name is such a name.

Main results:

* `LtoBridge.Disk.locateWith_congr`: **names lead to the same locations in trees with the same
  directories and links**;
* `LtoBridge.Disk.sameWays_put`, `LtoBridge.Disk.sameWays_erase`: files that are written or removed;
* `LtoBridge.Disk.locateWith_join`, `LtoBridge.Disk.lastStep_of_locateWith_join`,
  `LtoBridge.Disk.eq_of_locateWith_join`: the entries of a directory.
-/

import LtoBridge.Files.Disk

set_option autoImplicit false

namespace LtoBridge

/-! ### Results -/

section

variable {ε α β : Type} {x : Except ε α} {b : β}

/-- A step that comes after another one succeeds only if both do. -/
theorem exists_of_bind_eq_ok {f : α → Except ε β} (h : (x >>= f) = .ok b) :
    ∃ a, x = .ok a ∧ f a = .ok b := by
  cases x with
  | error error => cases h
  | ok a => exact ⟨a, rfl, h⟩

theorem exists_of_map_eq_ok {f : α → β} (h : x.map f = .ok b) : ∃ a, x = .ok a ∧ f a = b := by
  cases x with
  | error error => cases h
  | ok a => exact ⟨a, rfl, Except.ok.inj h⟩

end

/-! ### Trees with the same directories and links -/

/-- **A tree has all directories of another one, and the same links.** -/
structure FileTree.KeepsWays (t t' : FileTree) : Prop where
  directory : ∀ l, t.get? l = some .directory → t'.get? l = some .directory
  link : ∀ l target, t.get? l = some (.link target) ↔ t'.get? l = some (.link target)

/-- **Two trees have the same directories and the same links.** -/
structure FileTree.SameWays (t t' : FileTree) : Prop where
  directory : ∀ l, t.get? l = some .directory ↔ t'.get? l = some .directory
  link : ∀ l target, t.get? l = some (.link target) ↔ t'.get? l = some (.link target)

namespace FileTree.SameWays

variable {t t' t'' : FileTree}

theorem refl (t : FileTree) : t.SameWays t := ⟨fun _ => Iff.rfl, fun _ _ => Iff.rfl⟩

theorem symm (h : t.SameWays t') : t'.SameWays t :=
  ⟨fun l => (h.directory l).symm, fun l target => (h.link l target).symm⟩

theorem keepsWays (h : t.SameWays t') : t.KeepsWays t' :=
  ⟨fun l => (h.directory l).1, h.link⟩

theorem trans (h : t.SameWays t') (h' : t'.SameWays t'') : t.SameWays t'' :=
  ⟨fun l => (h.directory l).trans (h'.directory l),
    fun l target => (h.link l target).trans (h'.link l target)⟩

end FileTree.SameWays

namespace Disk

/-- Is there a file at a location, or nothing at all? -/
def isOpenTo (t : FileTree) (l : Location) : Bool :=
  match t.get? l with
  | none | some (.file _ _) => true
  | _ => false

theorem isOpenTo_of_none {t : FileTree} {l : Location} (h : t.get? l = none) : isOpenTo t l := by
  rw [isOpenTo, h]

theorem isOpenTo_of_file {t : FileTree} {l : Location} {contents : Bytes} {executable : Bool}
    (h : t.get? l = some (.file contents executable)) : isOpenTo t l := by
  rw [isOpenTo, h]

section

variable {t : FileTree} {l₀ : Location}

theorem not_link_of_isOpenTo (h : isOpenTo t l₀) (target : Path) :
    t.get? l₀ ≠ some (.link target) := by
  intro hlink
  rw [isOpenTo, hlink] at h
  cases h

theorem ne_nil_of_isOpenTo (h : isOpenTo t l₀) : l₀ ≠ [] := by
  rintro rfl
  simp [isOpenTo, FileTree.get?] at h

/-- A change where there is neither a directory nor a link, before or after. -/
theorem sameWays_of_isOpenTo {t' : FileTree} (h : isOpenTo t l₀) (h' : isOpenTo t' l₀)
    (hsame : ∀ l, l ≠ l₀ → t'.get? l = t.get? l) : t.SameWays t' := by
  refine ⟨fun l => ?_, fun l target => ?_⟩
  · by_cases hl : l = l₀
    · subst hl
      unfold isOpenTo at h h'
      constructor
      · intro hdirectory
        rw [hdirectory] at h
        cases h
      · intro hdirectory
        rw [hdirectory] at h'
        cases h'
    · rw [hsame l hl]
  · by_cases hl : l = l₀
    · subst hl
      unfold isOpenTo at h h'
      constructor
      · intro hlink
        rw [hlink] at h
        cases h
      · intro hlink
        rw [hlink] at h'
        cases h'
    · rw [hsame l hl]

/-- A file that is written changes neither directories nor links. -/
theorem sameWays_put (contents : Bytes) (executable : Bool) (h : isOpenTo t l₀) :
    t.SameWays (t.put l₀ (.file contents executable)) := by
  have hl₀ := ne_nil_of_isOpenTo h
  refine sameWays_of_isOpenTo h ?_ fun l hl => ?_
  · exact isOpenTo_of_file (by rw [FileTree.get?_put _ _ _ _ hl₀, if_pos rfl])
  · rw [FileTree.get?_put _ _ _ _ hl₀, if_neg hl]

/-- Neither does something that is removed and was neither a directory nor a link. -/
theorem sameWays_erase_of_ne (hdirectory : t.get? l₀ ≠ some .directory)
    (hlink : ∀ target, t.get? l₀ ≠ some (.link target)) : t.SameWays (t.erase l₀) := by
  have hl₀ : l₀ ≠ [] := by
    rintro rfl
    exact hdirectory (if_pos rfl)
  refine ⟨fun l => ?_, fun l target => ?_⟩
  · rw [FileTree.get?_erase _ _ _ hl₀]
    split
    · rename_i hl
      simp [hl, hdirectory]
    · exact Iff.rfl
  · rw [FileTree.get?_erase _ _ _ hl₀]
    split
    · rename_i hl
      simp [hl, hlink]
    · exact Iff.rfl

/-- Neither does a file that is removed. -/
theorem sameWays_erase (h : isOpenTo t l₀) : t.SameWays (t.erase l₀) := by
  refine sameWays_erase_of_ne (fun hdirectory => ?_) (not_link_of_isOpenTo h)
  rw [isOpenTo, hdirectory] at h
  cases h

end

/-! ### Walks -/

/-- A link at the end is treated in the same way, or there is none to be followed. -/
def EndsAlike (t : FileTree) (toEnd toEnd' : Bool) (m : Location) : Prop :=
  toEnd' = toEnd ∨ toEnd' = true ∧ ∀ target, t.get? m ≠ some (.link target)

/-- Names lead to the same locations, if links are followed alike. -/
theorem walkNames_of_keepsWays {follow follow' : Location → List Bytes → Except OsError Location}
    {t t' : FileTree} {toEnd toEnd' : Bool} {l m : Location} (h : t.KeepsWays t')
    (hend : EndsAlike t toEnd toEnd' m)
    (hfollow : ∀ l names, follow l names = .ok m → follow' l names = .ok m) (names : List Bytes)
    (hwalk : walkNames follow t toEnd l names = .ok m) :
    walkNames follow' t' toEnd' l names = .ok m := by
  induction names generalizing l with
  | nil => exact hwalk
  | cons name rest ih =>
      unfold walkNames at hwalk ⊢
      cases hl : t.get? l with
      | none =>
          rw [hl] at hwalk
          cases hwalk
      | some n =>
          rw [hl] at hwalk
          cases n with
          | directory =>
              rw [h.directory l hl]
              dsimp only at hwalk ⊢
              split at hwalk
              · cases hwalk
              · rename_i hname
                rw [if_neg hname]
                split at hwalk
                · rename_i target htarget
                  rw [(h.link _ target).1 htarget]
                  dsimp only
                  split at hwalk
                  · -- the walk ends at a link
                    rename_i hlast
                    obtain rfl | ⟨-, hlink⟩ := hend
                    · rw [if_pos hlast]
                      exact hwalk
                    · rw [Except.ok.inj hwalk] at htarget
                      exact absurd htarget (hlink target)
                  · rename_i hlast
                    have hlast' : ¬ (rest = [] ∧ ¬ toEnd' = true) := by
                      obtain rfl | ⟨rfl, -⟩ := hend
                      · exact hlast
                      · simp
                    rw [if_neg hlast']
                    exact hfollow _ _ hwalk
                · rename_i hnext
                  split
                  · rename_i target htarget
                    exact absurd ((h.link _ target).2 htarget) (hnext target)
                  · exact ih hwalk
          | _ => cases hwalk

theorem walk_of_keepsWays {t t' : FileTree} {toEnd toEnd' : Bool} {l m : Location}
    (h : t.KeepsWays t') (hend : EndsAlike t toEnd toEnd' m) (links : Nat) (names : List Bytes)
    (hwalk : walk t toEnd links l names = .ok m) : walk t' toEnd' links l names = .ok m := by
  -- on the number of links that may still be followed; without any, following one fails in both
  induction links generalizing l names with
  | zero => exact walkNames_of_keepsWays h hend (fun _ _ hfollow => hfollow) names hwalk
  | succ links ih =>
      unfold walk at hwalk ⊢
      exact walkNames_of_keepsWays h hend (fun _ names hfollow => ih names hfollow) names hwalk

/-- A name leads somewhere exactly if it keeps the rules for names and the walk along its parts
ends there. -/
theorem locateWith_eq_ok_iff {d : Disk} {toEnd : Bool} {p : Path} {l : Location} :
    d.locateWith toEnd p = .ok l ↔ (0 ∉ p ∧ p ≠ [] ∧ p.length < pathLimit) ∧
      walk d.tree toEnd linkLimit (d.origin p) (components p) = .ok l := by
  unfold locateWith
  constructor
  · intro h
    split at h
    · cases h
    · split at h
      · cases h
      · split at h
        · cases h
        · rename_i hzero hempty hlong
          exact ⟨⟨hzero, hempty, by omega⟩, h⟩
  · rintro ⟨⟨hzero, hempty, hlong⟩, hwalk⟩
    rw [if_neg hzero, if_neg hempty, if_neg (by omega)]
    exact hwalk

/-- A name that leads somewhere still leads there in a tree with more directories. -/
theorem locateWith_of_keepsWays {d d' : Disk} {toEnd toEnd' : Bool} {p : Path} {l : Location}
    (h : d.tree.KeepsWays d'.tree) (hcurrent : d'.current = d.current)
    (hend : EndsAlike d.tree toEnd toEnd' l) (hl : d.locateWith toEnd p = .ok l) :
    d'.locateWith toEnd' p = .ok l := by
  have horigin : d'.origin p = d.origin p := by rw [origin, origin, hcurrent]
  rw [locateWith_eq_ok_iff] at hl ⊢
  rw [horigin]
  exact ⟨hl.1, walk_of_keepsWays h hend linkLimit _ hl.2⟩

/-- **Names lead to the same locations in trees with the same directories and links.** -/
theorem locateWith_congr {d d' : Disk} {toEnd : Bool} {p : Path} {l : Location}
    (h : d.tree.SameWays d'.tree) (hcurrent : d'.current = d.current) :
    d.locateWith toEnd p = .ok l ↔ d'.locateWith toEnd p = .ok l :=
  ⟨locateWith_of_keepsWays h.keepsWays hcurrent (.inl rfl),
    locateWith_of_keepsWays h.symm.keepsWays hcurrent.symm (.inl rfl)⟩

/-! ### Parts of a name -/

theorem split_ne_nil (separator : UInt8) (bs : Bytes) : split separator bs ≠ [] := by
  cases bs with
  | nil => simp [split]
  | cons b bs =>
      simp only [split]
      split
      · simp
      · split <;> simp

/-- What has no separator is a single part. -/
theorem split_of_not_mem {separator : UInt8} {bs : Bytes} (h : separator ∉ bs) :
    split separator bs = [bs] := by
  induction bs with
  | nil => rfl
  | cons b bs ih =>
      obtain ⟨hb, hbs⟩ := not_or.1 (mt List.mem_cons.2 h)
      simp [split, Ne.symm hb, ih hbs]

/-- A separator ends a part. -/
theorem split_append_separator (separator : UInt8) (bs bs' : Bytes) :
    split separator (bs ++ separator :: bs') = split separator bs ++ split separator bs' := by
  induction bs with
  | nil => simp [split]
  | cons b bs ih =>
      rw [List.cons_append]
      simp only [split]
      rw [ih]
      split
      · rfl
      · cases hsplit : split separator bs with
        | nil => exact absurd hsplit (split_ne_nil separator bs)
        | cons part parts => rfl

/-- **A name that stands for an entry of a directory**: a single part that does not lead back. -/
structure IsEntryName (name : Bytes) : Prop where
  ne_nil : name ≠ []
  ne_dot : name ≠ [46]
  ne_dots : name ≠ [46, 46]
  separator_not_mem : Path.separator ∉ name

section

variable {name : Bytes} (hname : IsEntryName name)

include hname

theorem IsEntryName.step_eq (l : Location) : step l name = l ++ [name] := by
  rw [step, if_neg hname.ne_dot, if_neg hname.ne_dots]

theorem IsEntryName.join_eq {directory : Path} (hdirectory : directory ≠ []) :
    directory.join name =
      if directory.getLast? = some Path.separator then directory ++ name
      else directory ++ Path.separator :: name := by
  have habsolute : Path.isAbsolute name = false := by
    obtain ⟨b, bs, rfl⟩ := List.exists_cons_of_ne_nil hname.ne_nil
    obtain ⟨hb, -⟩ := not_or.1 (mt List.mem_cons.2 hname.separator_not_mem)
    simp [Path.isAbsolute, Ne.symm hb]
  simp [Path.join, habsolute, hdirectory]

omit hname in
/-- Different entries of a directory have different names. -/
theorem IsEntryName.join_injective {name' : Bytes} {directory : Path} (hname : IsEntryName name)
    (hname' : IsEntryName name') (hdirectory : directory ≠ [])
    (h : directory.join name = directory.join name') : name = name' := by
  rw [hname.join_eq hdirectory, hname'.join_eq hdirectory] at h
  split at h
  · exact List.append_cancel_left h
  · exact List.tail_eq_of_cons_eq (List.append_cancel_left h)

/-- The name of an entry consists of the parts of the directory and one more. -/
theorem IsEntryName.components_join {directory : Path} (hdirectory : directory ≠ []) :
    components (directory.join name) = components directory ++ [name] := by
  have hparts : ∀ bs : Path, components (bs ++ Path.separator :: name) =
      components bs ++ [name] := by
    intro bs
    rw [components, split_append_separator, List.filter_append, split_of_not_mem
      hname.separator_not_mem]
    simp [components, hname.ne_nil]
  rw [hname.join_eq hdirectory]
  split
  · rename_i hlast
    obtain ⟨bs, rfl⟩ := List.getLast?_eq_some_iff.1 hlast
    have hbs : components (bs ++ [Path.separator]) = components bs := by
      rw [components, split_append_separator, List.filter_append]
      simp [components, split]
    rw [List.append_assoc, List.singleton_append, hparts, hbs]
  · exact hparts directory

theorem IsEntryName.isAbsolute_join {directory : Path} (hdirectory : directory ≠ []) :
    (directory.join name).isAbsolute = directory.isAbsolute := by
  obtain ⟨b, bs, rfl⟩ := List.exists_cons_of_ne_nil hdirectory
  rw [hname.join_eq hdirectory]
  split <;> rfl

theorem IsEntryName.zero_mem_join {directory : Path} (hdirectory : directory ≠ []) :
    0 ∈ directory.join name ↔ 0 ∈ directory ∨ 0 ∈ name := by
  have hseparator : (0 : UInt8) ≠ Path.separator := by decide
  rw [hname.join_eq hdirectory]
  split <;> simp [hseparator]

theorem IsEntryName.endsInSeparator_join {directory : Path} (hdirectory : directory ≠ []) :
    endsInSeparator (directory.join name) = false := by
  have hlast : name.getLast? ≠ some Path.separator :=
    fun h => hname.separator_not_mem (List.mem_of_getLast? h)
  obtain ⟨b, hb⟩ := Option.isSome_iff_exists.1 (List.getLast?_isSome.2 hname.ne_nil)
  have hjoin : (directory.join name).getLast? = some b := by
    rw [hname.join_eq hdirectory]
    split <;> simp [List.getLast?_append, List.getLast?_cons, hb]
  rw [endsInSeparator, hjoin]
  simpa [hb] using hlast

end

/-! ### Entries of a directory -/

section

variable {t : FileTree} {directory : Location} {name : Bytes}

/-- The names that lead to a directory and then a name that is no link: this leads to the location
below. -/
theorem walkNames_concat {follow follow' : Location → List Bytes → Except OsError Location}
    {toEnd : Bool} (hdirectory : t.get? directory = some .directory) (hname : IsEntryName name)
    (hlength : name.length ≤ nameLimit)
    (hlink : ∀ target, t.get? (directory ++ [name]) ≠ some (.link target))
    (hfollow : ∀ l names, follow l names = .ok directory →
      follow' l (names ++ [name]) = .ok (directory ++ [name])) (names : List Bytes) {l : Location}
    (hwalk : walkNames follow t true l names = .ok directory) :
    walkNames follow' t toEnd l (names ++ [name]) = .ok (directory ++ [name]) := by
  induction names generalizing l with
  | nil =>
      obtain rfl := Except.ok.inj hwalk
      simp only [List.nil_append, walkNames, hdirectory, hname.step_eq]
      rw [if_neg (by omega)]
  | cons first rest ih =>
      rw [List.cons_append]
      unfold walkNames at hwalk ⊢
      cases hl : t.get? l with
      | none =>
          rw [hl] at hwalk
          cases hwalk
      | some n =>
          rw [hl] at hwalk
          cases n with
          | directory =>
              dsimp only at hwalk ⊢
              split at hwalk
              · cases hwalk
              · rename_i hfirst
                rw [if_neg hfirst]
                split at hwalk
                · rename_i target htarget
                  -- a link on the way is followed in both cases
                  simp only [not_true_eq_false, and_false, if_false] at hwalk
                  have hrest : ¬ (rest ++ [name] = [] ∧ ¬ toEnd = true) := by simp
                  rw [if_neg hrest, ← List.append_assoc]
                  exact hfollow _ _ hwalk
                · exact ih hwalk
          | _ => cases hwalk

theorem walk_concat {toEnd : Bool} (hdirectory : t.get? directory = some .directory)
    (hname : IsEntryName name) (hlength : name.length ≤ nameLimit)
    (hlink : ∀ target, t.get? (directory ++ [name]) ≠ some (.link target)) (links : Nat)
    (names : List Bytes) {l : Location} (hwalk : walk t true links l names = .ok directory) :
    walk t toEnd links l (names ++ [name]) = .ok (directory ++ [name]) := by
  induction links generalizing l names with
  | zero =>
      refine walkNames_concat hdirectory hname hlength hlink ?_ names hwalk
      intro l names h
      cases h
  | succ links ih =>
      unfold walk at hwalk ⊢
      exact walkNames_concat hdirectory hname hlength hlink (fun _ names h => ih names h) names
        hwalk

/-- **The last name on the way is that of an entry** of a directory, to which the names before it
lead; and if no link has to be followed there, the way ends at this entry. -/
def LastStep (t : FileTree) (toEnd : Bool) (name : Bytes) (m directory : Location) : Prop :=
  t.get? directory = some .directory ∧
    ((toEnd = false ∨ ∀ target, t.get? (directory ++ [name]) ≠ some (.link target)) →
      m = directory ++ [name])

theorem walkNames_of_concat {follow follow' : Location → List Bytes → Except OsError Location}
    {toEnd : Bool} {m : Location} (hname : IsEntryName name)
    (hfollow : ∀ l names, follow l (names ++ [name]) = .ok m →
      ∃ directory, follow' l names = .ok directory ∧ LastStep t toEnd name m directory)
    (names : List Bytes) {l : Location}
    (hwalk : walkNames follow t toEnd l (names ++ [name]) = .ok m) :
    ∃ directory, walkNames follow' t true l names = .ok directory ∧
      LastStep t toEnd name m directory := by
  induction names generalizing l with
  | nil =>
      rw [List.nil_append] at hwalk
      refine ⟨l, rfl, ?_⟩
      unfold walkNames at hwalk
      cases hl : t.get? l with
      | none =>
          rw [hl] at hwalk
          cases hwalk
      | some n =>
          rw [hl] at hwalk
          cases n with
          | directory =>
              refine ⟨hl, fun hend => ?_⟩
              dsimp only at hwalk
              rw [hname.step_eq] at hwalk
              split at hwalk
              · cases hwalk
              · split at hwalk
                · rename_i target htarget
                  obtain rfl | hlink := hend
                  · exact (Except.ok.inj hwalk).symm
                  · exact absurd htarget (hlink target)
                · exact (Except.ok.inj hwalk).symm
          | _ => cases hwalk
  | cons first rest ih =>
      rw [List.cons_append] at hwalk
      unfold walkNames at hwalk ⊢
      cases hl : t.get? l with
      | none =>
          rw [hl] at hwalk
          cases hwalk
      | some n =>
          rw [hl] at hwalk
          cases n with
          | directory =>
              dsimp only at hwalk ⊢
              split at hwalk
              · cases hwalk
              · rename_i hfirst
                rw [if_neg hfirst]
                split at hwalk
                · rename_i target htarget
                  have hrest : ¬ (rest ++ [name] = [] ∧ ¬ toEnd = true) := by simp
                  rw [if_neg hrest, ← List.append_assoc] at hwalk
                  rw [if_neg (by simp)]
                  exact hfollow _ _ hwalk
                · exact ih hwalk
          | _ => cases hwalk

theorem walk_of_concat {toEnd : Bool} {m : Location} (hname : IsEntryName name) (links : Nat)
    (names : List Bytes) {l : Location} (hwalk : walk t toEnd links l (names ++ [name]) = .ok m) :
    ∃ directory, walk t true links l names = .ok directory ∧
      LastStep t toEnd name m directory := by
  induction links generalizing l names with
  | zero =>
      refine walkNames_of_concat hname ?_ names hwalk
      intro l names h
      cases h
  | succ links ih =>
      unfold walk at hwalk ⊢
      refine walkNames_of_concat hname ?_ names hwalk
      intro l names h
      exact ih names h

/-- A name that is too long leads nowhere. -/
theorem walkNames_concat_of_long {follow : Location → List Bytes → Except OsError Location}
    {toEnd : Bool} (hlength : nameLimit < name.length)
    (hfollow : ∀ l names m, follow l (names ++ [name]) ≠ .ok m) (names : List Bytes)
    {l m : Location} : walkNames follow t toEnd l (names ++ [name]) ≠ .ok m := by
  induction names generalizing l with
  | nil =>
      simp only [List.nil_append, walkNames]
      cases t.get? l with
      | none => simp
      | some n => cases n <;> simp [hlength]
  | cons first rest ih =>
      rw [List.cons_append]
      unfold walkNames
      have hrest : ¬ (rest ++ [name] = [] ∧ ¬ toEnd = true) := by simp
      cases t.get? l with
      | none => simp
      | some n =>
          cases n with
          | directory =>
              dsimp only
              split
              · simp
              · split
                · rw [← List.append_assoc]
                  exact hfollow _ _ _
                · exact ih
          | _ => simp

theorem walk_concat_of_long {toEnd : Bool} (hlength : nameLimit < name.length) (links : Nat)
    (names : List Bytes) {l m : Location} : walk t toEnd links l (names ++ [name]) ≠ .ok m := by
  induction links generalizing l m names with
  | zero =>
      refine walkNames_concat_of_long hlength ?_ names
      intro l names m h
      cases h
  | succ links ih =>
      unfold walk
      exact walkNames_concat_of_long hlength (fun _ names _ => ih names) names

end

section

variable {d : Disk} {toEnd : Bool} {directory : Path} {l : Location} {name : Bytes}

theorem ne_nil_of_locate (h : d.locate directory = .ok l) : directory ≠ [] :=
  (locateWith_eq_ok_iff.1 h).1.2.1

/-- **The name of an entry leads to the location below that of the directory**, if it is not too
long. -/
theorem locateWith_join (hdirectory : d.locate directory = .ok l)
    (hl : d.tree.get? l = some .directory) (hname : IsEntryName name) (hzero : 0 ∉ name)
    (hlink : ∀ target, d.tree.get? (l ++ [name]) ≠ some (.link target))
    (hlength : name.length ≤ nameLimit) (hlong : (directory.join name).length < pathLimit) :
    d.locateWith toEnd (directory.join name) = .ok (l ++ [name]) := by
  obtain ⟨⟨hzero', hempty, -⟩, hwalk⟩ := locateWith_eq_ok_iff.1 hdirectory
  refine locateWith_eq_ok_iff.2 ⟨⟨?_, ?_, hlong⟩, ?_⟩
  · rw [hname.zero_mem_join hempty]
    simp [hzero, hzero']
  · intro h
    have hcomponents := hname.components_join hempty
    rw [h] at hcomponents
    simp [components, split] at hcomponents
  · rw [hname.components_join hempty, origin, hname.isAbsolute_join hempty]
    exact walk_concat hl hname hlength hlink linkLimit _ hwalk

/-- A name that leads somewhere is not too long, and neither is its last part. -/
theorem short_of_locateWith_join {m : Location} (hdirectory : directory ≠ [])
    (hname : IsEntryName name) (h : d.locateWith toEnd (directory.join name) = .ok m) :
    name.length ≤ nameLimit ∧ (directory.join name).length < pathLimit := by
  obtain ⟨⟨-, -, hlong⟩, hwalk⟩ := locateWith_eq_ok_iff.1 h
  rw [hname.components_join hdirectory] at hwalk
  refine ⟨Nat.le_of_not_lt fun hlength => ?_, hlong⟩
  exact walk_concat_of_long hlength linkLimit _ hwalk

/-- The name of an entry leads somewhere only if that of the directory leads to a directory. -/
theorem lastStep_of_locateWith_join {m : Location} (hdirectory : directory ≠ [])
    (hname : IsEntryName name) (h : d.locateWith toEnd (directory.join name) = .ok m) :
    ∃ l, d.locate directory = .ok l ∧ LastStep d.tree toEnd name m l := by
  obtain ⟨⟨hzero, -, hlong⟩, hwalk⟩ := locateWith_eq_ok_iff.1 h
  rw [hname.components_join hdirectory, origin, hname.isAbsolute_join hdirectory] at hwalk
  obtain ⟨l, hl, hlast⟩ := walk_of_concat hname linkLimit _ hwalk
  refine ⟨l, locateWith_eq_ok_iff.2 ⟨⟨fun hmem => hzero ?_, hdirectory, ?_⟩, hl⟩, hlast⟩
  · exact (hname.zero_mem_join hdirectory).2 (.inl hmem)
  · have hlength : directory.length ≤ (directory.join name).length := by
      rw [hname.join_eq hdirectory]
      split <;> simp
    omega

/-- The name of an entry leads nowhere else. -/
theorem eq_of_locateWith_join {m : Location} (hdirectory : d.locate directory = .ok l)
    (hname : IsEntryName name) (hlink : ∀ target, d.tree.get? (l ++ [name]) ≠ some (.link target))
    (h : d.locateWith toEnd (directory.join name) = .ok m) : m = l ++ [name] := by
  obtain ⟨l', hl', -, hlast⟩ :=
    lastStep_of_locateWith_join (ne_nil_of_locate hdirectory) hname h
  obtain rfl := Except.ok.inj (hl'.symm.trans hdirectory)
  exact hlast (.inr hlink)

end

end Disk

end LtoBridge
