/-
**Lists of options, sorted by what the options count for.**

Every option counts for exactly one field of what a list of options says, and for none of the
others.  Each field can be read off the list: it depends on the options that count for it, in their
order, and on nothing else.  So what two lists say one after the other is made up of what either of
them says.

Main definitions:

* `LtoBridge.Options.Says`: what a list of options says, field by field;
* `LtoBridge.Options.merge`: what two lists say one after the other.

Main results:

* `LtoBridge.Options.parse_append`: **lists of options compose**;
* `LtoBridge.Options.parse_eq_error_iff`: the first option without a value is reported;
* `LtoBridge.Options.options_are_sorted`: all of this together.
-/

import LtoBridge.Proofs.Options.Words
import Mathlib.Data.List.Forall2

set_option autoImplicit false

namespace LtoBridge.Options

variable {option : String} {field : Field}

/-! ### One list after the other -/

/-- **What two lists of options say one after the other.** -/
def merge (o p : Options) : Options where
  verbose := o.verbose || p.verbose
  bypassBackend := o.bypassBackend || p.bypassBackend
  resolutionFile := p.resolutionFile.or o.resolutionFile
  passThrough := o.passThrough ++ p.passThrough
  backendWords := o.backendWords ++ p.backendWords

/-- What a single word says. -/
def single (w : Word) : Options := ({} : Options).add w

@[simp] theorem merge_empty (o : Options) : o.merge {} = o := by
  simp [merge]

@[simp] theorem empty_merge (o : Options) : ({} : Options).merge o = o := by
  simp [merge]

theorem merge_assoc (o p q : Options) : (o.merge p).merge q = o.merge (p.merge q) := by
  simp [merge, Bool.or_assoc, Option.or_assoc]

theorem merge_single (o : Options) (w : Word) : o.merge (single w) = o.add w := by
  cases w <;> simp [merge, single, add]

/-- Options that follow other ones say what they say by themselves. -/
theorem foldlM_eq_map_merge (o : Options) (args : List String) :
    args.foldlM (fun o option => (word option).map o.add) o = (parse args).map o.merge := by
  induction args generalizing o with
  | nil => simp [parse, Except.map, pure, Except.pure]
  | cons option args ih =>
      rw [parse, List.foldlM_cons, List.foldlM_cons]
      cases word option with
      | error fault => rfl
      | ok w =>
          calc args.foldlM (fun o option => (word option).map o.add) (o.add w)
            _ = (parse args).map (o.merge (single w)).merge := by rw [ih, merge_single]
            _ = ((parse args).map (single w).merge).map o.merge := by
                cases parse args <;> simp only [Except.map, merge_assoc]
            _ = (args.foldlM (fun o option => (word option).map o.add) (single w)).map o.merge := by
                rw [ih]

/-- **Lists of options compose.** -/
theorem parse_append (args args' : List String) :
    parse (args ++ args') = (do
      let o ← parse args
      let p ← parse args'
      pure (o.merge p)) := by
  rw [parse, List.foldlM_append]
  refine bind_congr fun o => ?_
  rw [foldlM_eq_map_merge]
  cases parse args' <;> rfl

theorem parse_append_eq_ok_iff {args args' : List String} {q : Options} :
    parse (args ++ args') = .ok q ↔
      ∃ o p, parse args = .ok o ∧ parse args' = .ok p ∧ o.merge p = q := by
  rw [parse_append]
  cases parse args <;> cases parse args' <;> simp [bind, Except.bind, pure, Except.pure]

theorem parse_single (option : String) : parse [option] = (word option).map single := by
  rw [parse, List.foldlM_cons]
  cases word option <;> rfl

theorem parse_cons (option : String) (args : List String) :
    parse (option :: args) = (do
      let w ← word option
      let o ← parse args
      pure ((single w).merge o)) := by
  rw [← List.singleton_append, parse_append, parse_single]
  cases word option <;> rfl

/-! ### Lists with a fault -/

variable {args : List String} {fault : Fault}

/-- No option of a list lacks its value. -/
def Faultless (args : List String) : Prop := "-resolution=" ∉ args ∧ "-pass-through=" ∉ args

theorem faultless_iff : Faultless args ↔ ∀ fault : Fault, fault.culprit ∉ args :=
  ⟨fun h fault => by cases fault <;> [exact h.1; exact h.2],
    fun h => ⟨h .missingResolutionPath, h .missingPassThroughItem⟩⟩

theorem faultless_cons :
    Faultless (option :: args) ↔ (∃ w, word option = .ok w) ∧ Faultless args := by
  have hword : (∃ w, word option = .ok w) ↔ ∀ fault : Fault, fault.culprit ≠ option := by
    constructor
    · rintro ⟨w, hw⟩ fault rfl
      rw [word_eq_error_iff.2 rfl] at hw
      cases hw
    · intro h
      cases hw : word option with
      | ok w => exact ⟨w, rfl⟩
      | error fault => exact absurd (word_eq_error_iff.1 hw).symm (h fault)
  simp only [faultless_iff, List.mem_cons, not_or, forall_and, hword, Ne]

/-- **The first option without a value is reported**, and nothing else is a fault. -/
theorem parse_eq_error_iff :
    parse args = .error fault ↔
      ∃ front rest, args = front ++ fault.culprit :: rest ∧ Faultless front := by
  constructor
  · intro h
    -- on the options before the first one without a value
    induction args with
    | nil => cases h
    | cons option args ih =>
        rw [parse_cons] at h
        cases hw : word option with
        | error fault' =>
            rw [hw] at h
            cases h
            exact ⟨[], args, by rw [word_eq_error_iff.1 hw]; rfl, faultless_iff.2 (by simp)⟩
        | ok w =>
            cases hargs : parse args with
            | ok o =>
                rw [hw, hargs] at h
                cases h
            | error fault' =>
                rw [hw, hargs] at h
                cases h
                obtain ⟨front, rest, rfl, hfront⟩ := ih hargs
                exact ⟨option :: front, rest, rfl, faultless_cons.2 ⟨⟨w, hw⟩, hfront⟩⟩
  · rintro ⟨front, rest, rfl, hfront⟩
    induction front with
    | nil => rw [List.nil_append, parse_cons, word_eq_error_iff.2 rfl]; rfl
    | cons option front ih =>
        obtain ⟨⟨w, hw⟩, hfront'⟩ := faultless_cons.1 hfront
        rw [List.cons_append, parse_cons, hw, ih hfront']
        rfl

/-- Options mean something as long as none of them lacks its value. -/
theorem exists_parse_iff : (∃ o, parse args = .ok o) ↔ Faultless args := by
  induction args with
  | nil => exact ⟨fun _ => faultless_iff.2 (by simp), fun _ => ⟨{}, rfl⟩⟩
  | cons option args ih =>
      rw [faultless_cons, ← ih, parse_cons]
      cases word option with
      | error fault => simp [bind, Except.bind]
      | ok w => cases parse args <;> simp [bind, Except.bind, pure, Except.pure]

/-! ### Fields, read off the list -/

/-- The options of a list that count for a field, in their order. -/
def Field.among (field : Field) (args : List String) : List String :=
  args.filter (field.Takes ·)

@[simp] theorem Field.among_append (field : Field) (args args' : List String) :
    field.among (args ++ args') = field.among args ++ field.among args' :=
  List.filter_append ..

theorem Field.Takes.among_single (h : field.Takes option) (field' : Field) :
    field'.among [option] = if field' = field then [option] else [] := by
  simp [Field.among, List.filter_cons, h.iff_eq]

/-- The option names a resolution file. -/
inductive NamesFile : String → Path → Prop
  | mk (path : String) : NamesFile ("-resolution=" ++ path) (Bytes.ofString path)

/-- The option names an item to pass through. -/
inductive NamesItem : String → PassThrough → Prop
  | library (name : String) : NamesItem ("-pass-through=" ++ ("-l" ++ name)) (.library name)
  | file {path : String} (h : ¬BeginsWith "-l" path) :
      NamesItem ("-pass-through=" ++ path) (.file (Bytes.ofString path))

/-- **What a list of options says, field by field.** -/
structure Says (args : List String) (o : Options) : Prop where
  verbose : o.verbose = true ↔ "-debug" ∈ args
  bypassBackend : o.bypassBackend = true ↔ "-nop" ∈ args
  resolutionFile :
    Option.Rel NamesFile (Field.resolutionFile.among args).getLast? o.resolutionFile
  passThrough : List.Forall₂ NamesItem (Field.passThrough.among args) o.passThrough
  backendWords : o.backendWords = Field.backendWords.among args

theorem says_nil : Says [] {} :=
  ⟨by simp, by simp, .none, .nil, rfl⟩

/-- What a single option says, given what it counts for. -/
theorem Field.Takes.says {o : Options} (h : field.Takes option)
    (hverbose : o.verbose = true ↔ verbose = field)
    (hbypass : o.bypassBackend = true ↔ bypassBackend = field)
    (hfile : Option.Rel NamesFile (if resolutionFile = field then some option else none)
      o.resolutionFile)
    (hitem : List.Forall₂ NamesItem (if passThrough = field then [option] else []) o.passThrough)
    (hwords : o.backendWords = if backendWords = field then [option] else []) :
    Says [option] o where
  verbose := by
    rw [hverbose, ← h.iff_eq, List.mem_singleton]
    exact eq_comm
  bypassBackend := by
    rw [hbypass, ← h.iff_eq, List.mem_singleton]
    exact eq_comm
  resolutionFile := by
    rw [h.among_single]
    split at hfile <;> simp [*]
  passThrough := by rwa [h.among_single]
  backendWords := by rwa [h.among_single]

/-- What a single option says, field by field. -/
theorem says_of_parse_single {o : Options} (h : parse [option] = .ok o) : Says [option] o := by
  have hreads := reads_word option
  rw [parse_single] at h
  cases hw : word option with
  | error fault =>
      rw [hw] at h
      cases h
  | ok w =>
  rw [hw] at h hreads
  cases h
  cases hreads with
  | verbose =>
      have htakes : Field.verbose.Takes "-debug" := rfl
      exact htakes.says (by simp [single, add]) (by simp [single, add]) .none .nil rfl
  | bypassBackend =>
      have htakes : Field.bypassBackend.Takes "-nop" := rfl
      exact htakes.says (by simp [single, add]) (by simp [single, add]) .none .nil rfl
  | @resolutionFile path hpath =>
      have htakes : Field.resolutionFile.Takes ("-resolution=" ++ path) := ⟨path, rfl⟩
      exact htakes.says (by simp [single, add]) (by simp [single, add]) (.some (.mk path)) .nil rfl
  | library name =>
      have htakes : Field.passThrough.Takes ("-pass-through=" ++ ("-l" ++ name)) := ⟨_, rfl⟩
      exact htakes.says (by simp [single, add]) (by simp [single, add]) .none
        (.cons (.library name) .nil) rfl
  | @file path hpath hfile =>
      have htakes : Field.passThrough.Takes ("-pass-through=" ++ path) := ⟨path, rfl⟩
      exact htakes.says (by simp [single, add]) (by simp [single, add]) .none
        (.cons (.file hfile) .nil) rfl
  | backend htakes =>
      exact htakes.says (by simp [single, add]) (by simp [single, add]) .none .nil rfl

theorem rel_or {α β : Type} {r : α → β → Prop} {a a' : Option α} {b b' : Option β}
    (h : Option.Rel r a b) (h' : Option.Rel r a' b') : Option.Rel r (a.or a') (b.or b') := by
  cases h with
  | some h => exact .some h
  | none => exact h'

/-- What two lists say one after the other, field by field. -/
theorem Says.append {args' : List String} {o p : Options} (h : Says args o) (h' : Says args' p) :
    Says (args ++ args') (o.merge p) where
  verbose := by simp only [merge, Bool.or_eq_true, h.verbose, h'.verbose, List.mem_append]
  bypassBackend := by
    simp only [merge, Bool.or_eq_true, h.bypassBackend, h'.bypassBackend, List.mem_append]
  resolutionFile := by
    rw [Field.among_append, List.getLast?_append]
    exact rel_or h'.resolutionFile h.resolutionFile
  passThrough := by
    rw [Field.among_append]
    exact List.rel_append h.passThrough h'.passThrough
  backendWords := by rw [Field.among_append, merge, h.backendWords, h'.backendWords]

/-- **A list says what can be read off it**, field by field. -/
theorem says_of_parse {o : Options} (h : parse args = .ok o) : Says args o := by
  induction args generalizing o with
  | nil =>
      cases h
      exact says_nil
  | cons option args ih =>
      rw [← List.singleton_append, parse_append_eq_ok_iff] at h
      obtain ⟨first, rest, hfirst, hrest, rfl⟩ := h
      exact (says_of_parse_single hfirst).append (ih hrest)

/-! ### Fields for which an option does not count -/

/-- Two sets of options agree in a field. -/
def Field.Agrees : Field → Options → Options → Prop
  | verbose, o, p => o.verbose = p.verbose
  | bypassBackend, o, p => o.bypassBackend = p.bypassBackend
  | resolutionFile, o, p => o.resolutionFile = p.resolutionFile
  | passThrough, o, p => o.passThrough = p.passThrough
  | backendWords, o, p => o.backendWords = p.backendWords

theorem Field.Agrees.refl (field : Field) (o : Options) : field.Agrees o o := by
  cases field <;> rfl

theorem Field.Agrees.merge {o o' p p' : Options} (h : field.Agrees o p) (h' : field.Agrees o' p') :
    field.Agrees (o.merge o') (p.merge p') := by
  cases field <;> simp only [Field.Agrees, Options.merge] at h h' ⊢ <;> rw [h, h']

/-- A field for which no option counts is as if there were no options. -/
theorem Says.agrees_empty {o : Options} (h : Says args o)
    (hnone : ∀ option ∈ args, ¬field.Takes option) : field.Agrees {} o := by
  have hamong : field.among args = [] := by
    simpa [Field.among, List.filter_eq_nil_iff] using hnone
  cases field with
  | verbose =>
      have hdebug : "-debug" ∉ args := fun hmem => hnone _ hmem rfl
      exact (Bool.eq_false_iff.2 (mt h.verbose.1 hdebug)).symm
  | bypassBackend =>
      have hnop : "-nop" ∉ args := fun hmem => hnone _ hmem rfl
      exact (Bool.eq_false_iff.2 (mt h.bypassBackend.1 hnop)).symm
  | resolutionFile =>
      have hfile := h.resolutionFile
      rw [hamong, List.getLast?_nil] at hfile
      cases hnothing : o.resolutionFile with
      | none => exact hnothing.symm
      | some path =>
          rw [hnothing] at hfile
          cases hfile
  | passThrough =>
      have hitems := h.passThrough
      rw [hamong] at hitems
      exact (List.forall₂_nil_left_iff.1 hitems).symm
  | backendWords => exact (h.backendWords.trans hamong).symm

/-- **An option changes no field but the one for which it counts.** -/
theorem agrees_of_parse {front rest : List String} {o p : Options}
    (ho : parse (front ++ rest) = .ok o) (hp : parse (front ++ option :: rest) = .ok p)
    (hfield : ¬field.Takes option) : field.Agrees o p := by
  rw [← List.singleton_append, parse_append_eq_ok_iff] at hp
  obtain ⟨before, _, hbefore, hafter, rfl⟩ := hp
  obtain ⟨own, behind, hown, hbehind, rfl⟩ := parse_append_eq_ok_iff.1 hafter
  obtain rfl : before.merge behind = o := by
    rw [parse_append, hbefore, hbehind] at ho
    exact Except.ok.inj ho
  have hempty : field.Agrees {} own :=
    (says_of_parse_single hown).agrees_empty (by simpa using hfield)
  have hbehind' := hempty.merge (.refl field behind)
  rw [empty_merge] at hbehind'
  exact (Field.Agrees.refl field before).merge hbehind'

/-! ### The whole -/

/-- Lists of options mean nothing as soon as one of them does. -/
theorem exists_parse_append_error_iff {args args' : List String} :
    (∃ fault, parse (args ++ args') = .error fault) ↔
      (∃ fault, parse args = .error fault) ∨ ∃ fault, parse args' = .error fault := by
  rw [parse_append]
  cases parse args <;> cases parse args' <;> simp [bind, Except.bind, pure, Except.pure]

theorem exists_parse_error_iff :
    (∃ fault, parse args = .error fault) ↔ "-resolution=" ∈ args ∨ "-pass-through=" ∈ args := by
  have hok : (∃ o, parse args = .ok o) ↔ ¬∃ fault, parse args = .error fault := by
    cases parse args <;> simp
  rw [← not_iff_not, ← hok, exists_parse_iff, Faultless, not_or]

/-- **Options are sorted by what they count for.**

* A list means nothing exactly if one of its options is nothing but a flag that needs a value, and
  the first of these is reported.  Of any other list, each field can be read off the options that
  count for it, in their order.  The backend is the first of its words, and its arguments are the
  others.
* An option counts for exactly one field, and leaves all others as they are without it.
* Of two lists one after the other, either means nothing, or what they say is made up of what either
  of them says. -/
theorem options_are_sorted :
    (∀ args : List String,
      ((∃ fault, parse args = .error fault) ↔
        "-resolution=" ∈ args ∨ "-pass-through=" ∈ args) ∧
      (∀ fault : Fault, parse args = .error fault ↔ ∃ front rest,
        args = front ++ fault.culprit :: rest ∧
          "-resolution=" ∉ front ∧ "-pass-through=" ∉ front) ∧
      ("-resolution=" ∉ args ∧ "-pass-through=" ∉ args →
        ∃ o, parse args = .ok o ∧ Says args o ∧
          o.backend? = (Field.backendWords.among args).head? ∧
          o.backendFlags = (Field.backendWords.among args).tail)) ∧
    (∀ fault : Fault, ∃ words, fault.message = words ++ fault.culprit) ∧
    (∀ option, ∃! field : Field, field.Takes option) ∧
    (∀ (front : List String) (option : String) (rest : List String) (o p : Options),
      parse (front ++ rest) = .ok o → parse (front ++ option :: rest) = .ok p →
        ∀ field : Field, ¬field.Takes option → field.Agrees o p) ∧
    ∀ args args' : List String,
      ((∃ fault, parse (args ++ args') = .error fault) ↔
        (∃ fault, parse args = .error fault) ∨ ∃ fault, parse args' = .error fault) ∧
      ∀ o p, parse args = .ok o → parse args' = .ok p →
        parse (args ++ args') = .ok (o.merge p) := by
  refine ⟨fun args => ⟨exists_parse_error_iff, fun fault => parse_eq_error_iff, fun h => ?_⟩,
    Fault.exists_message_eq, existsUnique_takes,
    fun front option rest o p ho hp field => agrees_of_parse ho hp,
    fun args args' => ⟨exists_parse_append_error_iff, fun o p ho hp => ?_⟩⟩
  · obtain ⟨o, ho⟩ := exists_parse_iff.2 h
    have hsays := says_of_parse ho
    refine ⟨o, ho, hsays, ?_, ?_⟩
    · rw [backend?, hsays.backendWords]
    · rw [backendFlags, hsays.backendWords]
  · exact parse_append_eq_ok_iff.2 ⟨o, p, ho, hp, rfl⟩

/-- Options some of which only look like those of the bridge. -/
def sampleOptions : List String :=
  ["-debugx", "-resolution=a", "-pass-through=-l", "-resolution", "-nop", "-fresolution=b",
    "-resolution=c", "-pass-through=l"]

/-- What these options say. -/
def sampleMeaning : Options where
  bypassBackend := true
  resolutionFile := some [99]
  passThrough := [.library "", .file [108]]
  backendWords := ["-debugx", "-resolution", "-fresolution=b"]

theorem options_are_sorted_sample :
    (∃ o, parse sampleOptions = .ok o ∧ Says sampleOptions o ∧ o.backend? = some "-debugx" ∧
      o.backendFlags = ["-resolution", "-fresolution=b"]) ∧
    parse (sampleOptions ++ ["-pass-through=", "-resolution="]) = .error .missingPassThroughItem ∧
    parse (sampleOptions ++ ["-debug"]) = .ok { sampleMeaning with verbose := true } ∧
    Field.resolutionFile.Agrees sampleMeaning { sampleMeaning with verbose := true } := by
  have hsample : parse sampleOptions = .ok sampleMeaning := by rfl
  have hdebug : parse ["-debug"] = .ok { verbose := true } := by rfl
  have hwhole := (options_are_sorted.2.2.2.2 _ _).2 _ _ hsample hdebug
  refine ⟨(options_are_sorted.1 sampleOptions).2.2 (by decide),
    ((options_are_sorted.1 _).2.1 _).2 ⟨sampleOptions, ["-resolution="], rfl, by decide⟩, hwhole,
    options_are_sorted.2.2.2.1 sampleOptions "-debug" [] _ _ hsample hwhole _ ?_⟩
  decide

end LtoBridge.Options
