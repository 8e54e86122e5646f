/-
**What the resolution file says.**

When files have been offered and all symbols have been read, the resolution file tells for each
symbol of each claimed file what the linker decided about that very symbol.

Main definitions:

* `LtoBridge.Session.accepted`: the offers that were accepted;
* `LtoBridge.Session.Acceptance`: what became known about such an offer;
* `LtoBridge.Call.resolutionAt`: what the linker decided about a symbol;
* `LtoBridge.Session.resolutionText`: **the text of the file**, line by line;
* `LtoBridge.Session.Writes`: the file was written.

Main results:

* `LtoBridge.Session.exists_acceptances`: the registry holds what was read and announced;
* `LtoBridge.Session.render_eq_resolutionText`: the file that is written is that text;
* `LtoBridge.Session.every_symbol_gets_its_resolution`: **every symbol gets the resolution that was
  meant for it**.
-/

import LtoBridge.Proofs.Files.Written
import LtoBridge.Proofs.Session.History
import LtoBridge.Proofs.SymbolTable.RoundTrip

set_option autoImplicit false

namespace LtoBridge

variable {W : Type} [Platform W]

/-! ### What the linker decided -/

/-- **What the linker decided about the symbol at a position**, when it got a question.  It did not
decide about a symbol that it left alone. -/
def Call.resolutionAt (c : Call W) (index : Nat) : Resolution :=
  ((c.entered?.getD [])[index]?).join.getD .unknown

/-- The linker answered a question by saying that it did not load the file. -/
def Call.NotLoaded (c : Call W) : Prop := ∃ entered, c.answer? = some ⟨.ok false, entered⟩

/-- **What a linker promises**: it leaves the symbols of files alone that it did not load. -/
def LeavesUnloaded (W : Type) [Platform W] : Prop :=
  ∀ handle symbols (w : W), (Platform.getSymbols handle symbols w).1.loaded = .ok false →
    ∀ r ∈ (Platform.getSymbols handle symbols w).1.entered, r = none

/-- If the promise is kept, nothing is known about the symbols of such a file. -/
theorem LeavesUnloaded.resolutionAt_eq_unknown (h : LeavesUnloaded W) {c : Call W}
    (hc : c.NotLoaded) (index : Nat) : c.resolutionAt index = .unknown := by
  obtain ⟨entered, hanswer⟩ := hc
  have hnone : ∀ r ∈ entered, r = none := by
    obtain ⟨effect, w⟩ := c
    cases effect with
    | getSymbols handle symbols =>
        have hentered := Option.some.inj hanswer
        have hpromise := h handle symbols w
        rw [hentered] at hpromise
        exact hpromise rfl
    | _ => cases hanswer
  rw [Call.resolutionAt, Call.entered?, hanswer, Option.map_some, Option.getD_some]
  cases hindex : entered[index]? with
  | none => rfl
  | some r =>
      rw [hnone r (List.mem_of_getElem? hindex)]
      rfl

/-- A linker behind its raw interface enters nothing if it does not have the symbols. -/
theorem BoundLinker.entered_of_not_loaded {R : Type} [RawLinker R] {handle : Handle}
    {symbols : List Symbol} {l : BoundLinker R}
    (h : (getSymbols handle symbols l).1.loaded = .ok false) :
    (getSymbols handle symbols l).1.entered = [] := by
  unfold getSymbols at h ⊢
  split at h
  · cases h
  · split at h
    · cases h
    · rename_i records _
      dsimp only at h ⊢
      split at h
      · rename_i hstatus
        rw [if_pos hstatus]
      · split at h
        · cases h
        · -- a linker that has the symbols says so
          cases hresult : (resolutions symbols (codes records (l.onRaw
            (RawLinker.getSymbols _ handle records)).1.2)).1 with
          | error failure => simp [hresult, Except.map] at h
          | ok _ => simp [hresult, Except.map] at h

/-- So a machine with such a linker keeps the promise. -/
theorem leavesUnloaded_machine (R : Type) [RawLinker R] :
    LeavesUnloaded (Machine (BoundLinker R)) := by
  intro handle symbols m hloaded r hr
  have hentered := BoundLinker.entered_of_not_loaded (l := m.linker) hloaded
  have hmem : r ∈ (BoundLinker.getSymbols handle symbols m.linker).1.entered := hr
  rw [hentered] at hmem
  cases hmem

namespace Session

/-! ### Accepted offers -/

/-- The offers that are accepted, each with the session that accepted it. -/
def accepted (s : Live (Traced W)) : List InputFile → List (Live (Traced W) × InputFile)
  | [] => []
  | input :: inputs =>
      match (claimFile input s).1 with
      | .ok true => (s, input) :: accepted (claimFile input s).2 inputs
      | _ => accepted (claimFile input s).2 inputs

/-- What became known about an offer that was accepted: the calls that were made then, the file
that was read, the contents of its section with the symbols, what they mean, and the call that
announced them. -/
structure Acceptance (W : Type) where
  before : Live (Traced W)
  input : InputFile
  calls : List (Call W)
  source : Descriptor
  stored : Bytes
  table : SymbolTable
  added : Call W

namespace Acceptance

/-- Where the file is. -/
def path (a : Acceptance W) : Path := keptPath a.before.session a.input

/-- The file as it is entered in the registry. -/
def file (a : Acceptance W) : ClaimedFile :=
  { path := a.path
    handle := a.input.handle
    temporary := a.input.isMember
    symbols := some a.table }

/-- **The offer was accepted because of what the calls say**: the section is that of an object
which was mapped, it holds the records of the table and nothing else, and their symbols were
announced under the handle of the offer. -/
structure Holds (a : Acceptance W) : Prop where
  calls_eq : (claimFile a.input a.before).2.world.calls = a.before.world.calls ++ a.calls
  source : Source a.input a.path a.calls a.source
  found : Found a.calls a.source a.stored a.table
  stored_eq : a.table.encode = a.stored
  added_mem : a.added ∈ a.calls
  added_effect : a.added.effect = .addSymbols a.input.handle a.table.symbols
  succeeded : a.added.succeeded = true

/-- The question about the file. -/
def question (a : Acceptance W) : Effect := .getSymbols a.input.handle a.table.symbols

/-- The line of a symbol, with a slot and what the linker decided. -/
def symbolText (slot : Slot) (r : Resolution) : Bytes :=
  Bytes.decimal slot.toNat ++ [32] ++ Bytes.ofString r.name ++ [10]

/-- **The lines of the file**, when it was asked about in a call: its name and the number of its
symbols, and for each symbol its slot and what the linker decided about the symbol at that
position. -/
def text (a : Acceptance W) (asked : Call W) : Bytes :=
  a.path ++ [32] ++ Bytes.decimal a.table.size ++ [10] ++
    a.table.slots.zipIdx.flatMap fun entry => symbolText entry.1 (asked.resolutionAt entry.2)

end Acceptance

/-- **The offers that were accepted are known**: all of them, and in their order. -/
structure Accounts (s : Live (Traced W)) (inputs : List InputFile)
    (acceptances : List (Acceptance W)) : Prop where
  offers : acceptances.map (fun a => (a.before, a.input)) = accepted s inputs
  holds : ∀ a ∈ acceptances, a.Holds

/-- **The text of the resolution file**: the number of files, and the lines of each of them. -/
def resolutionText (acceptances : List (Acceptance W)) (asked : List (Call W)) : Bytes :=
  Bytes.decimal acceptances.length ++ [10] ++
    (acceptances.zip asked).flatMap fun entry => entry.1.text entry.2

/-- **The registry holds what was read and announced.** -/
theorem exists_acceptances (inputs : List InputFile) (s : Live (Traced W)) :
    ∃ acceptances : List (Acceptance W), Accounts s inputs acceptances ∧
      (run s (inputs.map .offer)).session.options = s.session.options ∧
      (run s (inputs.map .offer)).session.registry.files =
        s.session.registry.files ++ acceptances.map Acceptance.file := by
  induction inputs generalizing s with
  | nil => exact ⟨[], ⟨rfl, by simp⟩, rfl, by simp [run]⟩
  | cons input inputs ih =>
      obtain ⟨cs, hext, hclaim⟩ := yields_claimFile (s := s) input
      obtain ⟨acceptances, ⟨hinputs, hholds⟩, hoptions, hfiles⟩ := ih (claimFile input s).2
      have hrun : run s ((input :: inputs).map .offer) =
          run (claimFile input s).2 (inputs.map .offer) := rfl
      obtain ⟨hr, table, haccepts⟩ | ⟨hr, hdeclines⟩ := hclaim
      · obtain ⟨source, stored, hsource, hfound⟩ := haccepts.found
        obtain ⟨pre, added, post, hsplit, hadded, hsucceeded, -⟩ := haccepts.announces
        let a : Acceptance W := ⟨s, input, cs, source, stored, table, added⟩
        refine ⟨a :: acceptances, ⟨?_, ?_⟩, ?_, ?_⟩
        · rw [accepted, hr, List.map_cons, hinputs]
        · intro b hb
          obtain rfl | hb := List.mem_cons.1 hb
          · have hdecode : SymbolTable.decode stored = .ok table := by
              obtain ⟨_, _, _, _, _, hdecode⟩ := hfound
              exact hdecode
            have hmem : added ∈ cs := by
              rw [hsplit]
              simp
            exact ⟨hext.calls_eq, hsource, hfound, SymbolTable.encode_of_decode hdecode, hmem,
              hadded, hsucceeded⟩
          · exact hholds b hb
        · rw [hrun, hoptions, haccepts.session_eq]
        · rw [hrun, hfiles, haccepts.session_eq]
          simp [Registry.push, a, Acceptance.file, Acceptance.path]
      · refine ⟨acceptances, ⟨?_, hholds⟩, ?_, ?_⟩
        · rw [hinputs, accepted]
          split
          · rename_i hok
            exact absurd hok hr
          · rfl
        · rw [hrun, hoptions, hdeclines.session_eq]
        · rw [hrun, hfiles, hdeclines.session_eq]

/-! ### The text -/

/-- The lines of symbols about which nothing was known before resolutions were entered. -/
theorem flatMap_symbolLine_assignEntries (entries : List SymbolEntry)
    (hentries : ∀ e ∈ entries, e.symbol.resolution = .unknown) (rs : List (Option Resolution))
    (start : Nat) :
    (SymbolTable.assignEntries entries (rs.drop start)).flatMap ResolutionFile.symbolLine =
      ((entries.map (·.slot)).zipIdx start).flatMap fun entry =>
        Acceptance.symbolText entry.1 (rs[entry.2]?.join.getD .unknown) := by
  -- the answer stays whole while the entries are used up, so that positions in it do not move
  induction entries generalizing start with
  | nil => cases rs.drop start <;> rfl
  | cons e es ih =>
      have hes := ih (fun e' he' => hentries e' (List.mem_cons_of_mem _ he')) (start + 1)
      have hline : ResolutionFile.symbolLine (e.resolved rs[start]?.join) =
          Acceptance.symbolText e.slot (rs[start]?.join.getD .unknown) := by
        rw [← hentries e List.mem_cons_self]
        simp [ResolutionFile.symbolLine, ResolutionFile.blank, ResolutionFile.newline,
          Acceptance.symbolText, SymbolEntry.resolved, Symbol.resolved]
      rw [SymbolTable.assignEntries_cons, List.head?_drop, List.tail_drop, List.flatMap_cons,
        hline, hes, List.map_cons, List.zipIdx_cons, List.flatMap_cons]

/-- What is read tells nothing about resolutions. -/
theorem Acceptance.Holds.unknown {a : Acceptance W} (h : a.Holds) :
    ∀ e ∈ a.table.entries, e.symbol.resolution = .unknown := by
  obtain ⟨_, _, _, _, _, hdecode⟩ := h.found
  have hstored := SymbolTable.stored_eq_self_iff.1 (SymbolTable.stored_of_decode hdecode)
  exact fun e he => (SymbolEntry.stored_eq_self_iff.1 (hstored e he)).1

/-- The lines of a file are those of the question about it. -/
theorem fileLines_assign {a : Acceptance W} (h : a.Holds) {asked : Call W}
    {entered : List (Option Resolution)} (hentered : asked.entered? = some entered) :
    ResolutionFile.fileLines (a.file.assign entered) = a.text asked := by
  have hlines := flatMap_symbolLine_assignEntries a.table.entries h.unknown entered 0
  have hsize : (a.file.assign entered).symbolCount = a.table.size := by
    simp only [ClaimedFile.symbolCount, ClaimedFile.assign, Acceptance.file, Option.map_some,
      Option.elim_some, ← SymbolTable.length_slots, SymbolTable.slots_assign]
  have hentries : (a.file.assign entered).symbols.elim [] (·.entries) =
      SymbolTable.assignEntries a.table.entries (entered.drop 0) := rfl
  have hresolution : ∀ index,
      asked.resolutionAt index = entered[index]?.join.getD .unknown := by
    intro index
    rw [Call.resolutionAt, hentered, Option.getD_some]
  rw [ResolutionFile.fileLines, hsize, hentries, hlines, Acceptance.text, SymbolTable.slots]
  simp only [hresolution, List.append_assoc, List.cons_append, List.nil_append]
  rfl

/-- **The text that is written is the one that was asked for**, file by file. -/
theorem flatMap_fileLines_enterAll {acceptances : List (Acceptance W)} {asked : List (Call W)}
    (hholds : ∀ a ∈ acceptances, a.Holds)
    (hasked : asked.map (·.effect) = acceptances.map Acceptance.question) :
    (enterAll (acceptances.map Acceptance.file) (answers asked)).flatMap ResolutionFile.fileLines =
      (acceptances.zip asked).flatMap fun entry => entry.1.text entry.2 := by
  induction acceptances generalizing asked with
  | nil => rfl
  | cons a acceptances ih =>
      cases asked with
      | nil => cases hasked
      | cons c asked =>
          obtain ⟨hc, hrest⟩ := List.cons.inj hasked
          have hrest := ih (fun b hb => hholds b (List.mem_cons_of_mem _ hb)) hrest
          obtain ⟨entered, hentered⟩ : ∃ entered, c.entered? = some entered := by
            simp only [Call.entered?, Call.answer?, hc, Acceptance.question]
            exact ⟨_, rfl⟩
          have hanswers : answers (c :: asked) = entered :: answers asked := by
            rw [answers, List.filterMap_cons_some hentered, answers]
          rw [hanswers, List.map_cons, enterAll_cons_of_some rfl, List.flatMap_cons,
            List.zip_cons_cons, List.flatMap_cons, fileLines_assign (hholds a List.mem_cons_self)
              hentered, hrest]

/-- **The resolution file has one part for each file, and in it one line for each symbol.** -/
theorem render_eq_resolutionText {acceptances : List (Acceptance W)} {asked : List (Call W)}
    (hholds : ∀ a ∈ acceptances, a.Holds)
    (hasked : asked.map (·.effect) = acceptances.map Acceptance.question) :
    ResolutionFile.render ⟨enterAll (acceptances.map Acceptance.file) (answers asked)⟩ =
      resolutionText acceptances asked := by
  have hlength : (enterAll (acceptances.map Acceptance.file) (answers asked)).length =
      acceptances.length := by
    have h := congrArg List.length
      (identities_enterAll (acceptances.map Acceptance.file) (answers asked))
    simpa using h
  rw [ResolutionFile.render, Registry.size, hlength, flatMap_fileLines_enterAll hholds hasked,
    resolutionText, List.append_assoc]
  rfl

/-! ### The file is written -/

/-- **The resolution file was written**: what can be noticed begins with questions, after which
the file was made and got a text. -/
structure Writes (path : Path) (cs asked : List (Call W)) (created written : Call W) : Prop where
  calls_eq : ∃ rest, visible cs = asked ++ created :: written :: rest
  questions : ∀ c ∈ asked, c.effect.isQuestion = true
  created_effect : created.effect = .createFile path
  created_succeeded : created.succeeded = true
  succeeded : written.succeeded = true

/-- Two lists that begin alike also agree in the first elements without a property, and in those
after them. -/
theorem eq_of_prefix {α : Type} {p : α → Bool} {xs ys rest rest' : List α} {x x' y y' : α}
    (h : xs ++ x :: x' :: rest <+: ys ++ y :: y' :: rest') (hxs : ∀ a ∈ xs, p a = true)
    (hys : ∀ a ∈ ys, p a = true) (hx : p x = false) (hy : p y = false) :
    xs = ys ∧ x' = y' ∧ rest <+: rest' := by
  obtain ⟨more, h⟩ := h
  have hfirst := congrArg (List.takeWhile p) h
  rw [List.append_assoc, List.takeWhile_append_of_pos hxs, List.takeWhile_append_of_pos hys,
    List.cons_append, List.takeWhile_cons_of_neg (by simp [hx]),
    List.takeWhile_cons_of_neg (by simp [hy]), List.append_nil, List.append_nil] at hfirst
  subst hfirst
  rw [List.append_assoc] at h
  have hlater := List.append_cancel_left h
  rw [List.cons_append, List.cons_append] at hlater
  obtain ⟨-, hlater⟩ := List.cons.inj hlater
  obtain ⟨hx', hrest⟩ := List.cons.inj hlater
  exact ⟨rfl, hx', more, hrest⟩

section

variable {s : Live (Traced W)} {path : Path} {acceptances : List (Acceptance W)}

omit [Platform W] in
/-- Each file is asked about once. -/
theorem filterMap_questions (acceptances : List (Acceptance W)) :
    (questions (acceptances.map Acceptance.file)).filterMap Step.effect? =
      acceptances.map Acceptance.question := by
  induction acceptances with
  | nil => rfl
  | cons a acceptances ih =>
      rw [List.map_cons, questions_cons_of_some rfl, List.filterMap_append, ih]
      rfl

/-- The calls of a session that writes its resolutions. -/
theorem effects_script (hpath : s.session.options.resolutionFile = some path)
    (hfiles : s.session.registry.files = acceptances.map Acceptance.file) (cs : List (Call W)) :
    (script s.session cs).filterMap Step.effect? =
      acceptances.map Acceptance.question ++ .createFile path :: .appendFile path
        (ResolutionFile.render ⟨enterAll (acceptances.map Acceptance.file) (answers cs)⟩) ::
          (fileScript s.session (takeIn (launched cs))).filterMap Step.effect? := by
  rw [script, resolutionScript, hpath, hfiles, List.filterMap_append, List.filterMap_append,
    filterMap_questions, List.append_assoc]
  rfl

omit [Platform W] in
/-- After the questions there are no more of them. -/
theorem not_question_of_mem_fileScript {session : Session} {process : Option Process} {step : Step}
    {effect : Effect} (hstep : step ∈ fileScript session (takeIn process))
    (heffect : step.effect? = some effect) : effect.isQuestion = false := by
  obtain rfl : step = .call effect := by
    cases step <;> cases heffect
    rfl
  cases effect with
  | getSymbols handle symbols => exact absurd hstep (question_not_mem_fileScript _ _ _ _)
  | _ => rfl

/-- **A session asks about its files and writes what it was told.** -/
theorem yields_resolution_file (hpath : s.session.options.resolutionFile = some path)
    (hfiles : s.session.registry.files = acceptances.map Acceptance.file)
    (hholds : ∀ a ∈ acceptances, a.Holds) (hne : acceptances ≠ []) :
    allSymbolsRead.Yields s fun r cs _ =>
      (r.isOk = true → ∃ asked created written, Writes path cs asked created written) ∧
      ∀ asked created written, Writes path cs asked created written →
        asked.map (·.effect) = acceptances.map Acceptance.question ∧
        written.effect = .appendFile path (resolutionText acceptances asked) := by
  have hsome : s.session.registry.files ≠ [] := by simpa [hfiles] using hne
  have hquestions : ∀ e ∈ acceptances.map Acceptance.question, e.isQuestion = true := by
    intro e he
    obtain ⟨a, -, rfl⟩ := List.mem_map.1 he
    rfl
  refine (yields_allSymbolsRead hsome).mono ?_
  rintro r cs s' ⟨hfollows, -⟩
  refine ⟨fun hr => ?_, ?_⟩
  · obtain ⟨heffects, hsucceeded, -⟩ := hfollows.succeeds_iff.1 hr
    rw [effects_script hpath hfiles] at heffects
    obtain ⟨asked, later, hcalls, hasked, hlater⟩ := List.map_eq_append_iff.1 heffects
    obtain ⟨created, later, rfl, hcreated, hlater⟩ := List.map_eq_cons_iff.1 hlater
    obtain ⟨written, rest, rfl, -, -⟩ := List.map_eq_cons_iff.1 hlater
    refine ⟨asked, created, written, ⟨rest, hcalls⟩, fun c hc => ?_, hcreated,
      hsucceeded created (by rw [hcalls]; simp), hsucceeded written (by rw [hcalls]; simp)⟩
    exact hquestions _ (hasked ▸ List.mem_map_of_mem hc)
  · rintro asked created written ⟨⟨rest, hcalls⟩, hasked, hcreated, -, -⟩
    have hprefix := hfollows.isPrefix
    rw [hcalls, effects_script hpath hfiles, List.map_append, List.map_cons,
      List.map_cons] at hprefix
    obtain ⟨heffects, hwritten, hrest⟩ := eq_of_prefix (p := Effect.isQuestion) hprefix
      (by simpa using hasked) hquestions (by rw [hcreated]; rfl) rfl
    have hanswers : answers cs = answers asked := by
      -- nobody is asked anything once the file has been made
      have hlater : answers (created :: written :: rest) = [] := by
        refine List.filterMap_eq_nil_iff.2 fun c hc => Call.entered?_of_not_question ?_
        obtain rfl | rfl | hc : c = created ∨ c = written ∨ c ∈ rest := by simpa using hc
        · rw [hcreated]
          rfl
        · rw [hwritten]
          rfl
        · have hmem := hrest.subset (List.mem_map_of_mem hc)
          obtain ⟨step, hstep, heffect⟩ := List.mem_filterMap.1 hmem
          exact not_question_of_mem_fileScript hstep heffect
      rw [← answers_visible, hcalls, answers_append, hlater, List.append_nil]
    rw [hanswers, render_eq_resolutionText hholds heffects] at hwritten
    exact ⟨heffects, hwritten⟩

end

/-- **Every symbol gets the resolution that was meant for it.**  After any offers, when all
symbols have been read and something was claimed, the resolution file has one part for each offer
that was accepted, in their order, and in it one line for each record of the section that was
read: the slot of that record, and what the linker decided about the symbol at that position when
it was asked about this file, with the symbols that were announced for it.  Nothing is known about
the symbols of a file that the linker did not load, which a linker behind its raw interface makes
sure of; and on a machine the file holds that text. -/
theorem every_symbol_gets_its_resolution :
    (∀ (W : Type) [Platform W] (options : Options) (directory : Path) (w : W)
      (inputs : List InputFile) (path : Path), options.resolutionFile = some path →
      ∃ acceptances : List (Acceptance W),
        Accounts (begun options directory w) inputs acceptances ∧
        (acceptances ≠ [] →
          allSymbolsRead.Yields (run (begun options directory w) (inputs.map .offer)) fun r cs _ =>
            (r.isOk = true → ∃ asked created written, Writes path cs asked created written) ∧
            ∀ asked created written, Writes path cs asked created written →
              asked.map (·.effect) = acceptances.map Acceptance.question ∧
              written.effect = .appendFile path (resolutionText acceptances asked) ∧
              (LeavesUnloaded W →
                ∀ c ∈ asked, c.NotLoaded → ∀ index, c.resolutionAt index = .unknown))) ∧
    (∀ (R : Type) [RawLinker R], LeavesUnloaded (Machine (BoundLinker R))) ∧
    (∀ (L : Type) [Linker L] (t t' : Traced (Machine L)) (cs asked : List (Call (Machine L)))
      (created written : Call (Machine L)) (path : Path) (text : Bytes),
      t.Extends cs t' → Writes path cs asked created written →
      written.effect = .appendFile path text → created.before.disk.isWritable path = true →
      written.after.disk.read path = .ok text) := by
  refine ⟨?_, leavesUnloaded_machine, ?_⟩
  · intro W _ options directory w inputs path hpath
    obtain ⟨acceptances, haccounts, hoptions, hfiles⟩ :=
      exists_acceptances inputs (begun options directory w)
    refine ⟨acceptances, haccounts, fun hne => ?_⟩
    have hsame := (congrArg Options.resolutionFile hoptions).trans hpath
    have hyields := yields_resolution_file hsame hfiles haccounts.holds hne
    refine hyields.mono fun r cs s' ⟨hok, hwrites⟩ => ⟨hok, fun asked created written h => ?_⟩
    obtain ⟨hquestions, htext⟩ := hwrites asked created written h
    exact ⟨hquestions, htext, fun hpromise c _ hc => hpromise.resolutionAt_eq_unknown hc⟩
  · intro L _ t t' cs asked created written path text hext hwrites htext hpath
    obtain ⟨rest, hcalls⟩ := hwrites.calls_eq
    exact Machine.read_of_written hext hcalls hwrites.created_effect htext hwrites.created_succeeded
      hwrites.succeeded hpath

/-- The data that a call adds to a file. -/
def appended? : Effect → Option Bytes
  | .appendFile _ data => some data
  | _ => none

theorem every_symbol_gets_its_resolution_sample :
    ∃ acceptances asked, ∃ written : Call (Machine (BoundLinker (Watched RecordedLinker))),
      acceptances.length = 1 ∧
      Accounts (begun sampleOptions [47] sampleMachine) [sampleInput] acceptances ∧
      asked.map (·.effect) = acceptances.map Acceptance.question ∧
      written.after.disk.read [47, 114] = .ok (resolutionText acceptances asked) ∧
      resolutionText acceptances asked =
        Bytes.ofString "1\na 2\n7 PREVAILING_DEF\n9 UNKNOWN\n" := by
  obtain ⟨acceptances, haccounts, hyields⟩ := every_symbol_gets_its_resolution.1 _ sampleOptions
    [47] sampleMachine [sampleInput] [47, 114] rfl
  have hlength : acceptances.length = 1 := by
    have haccepted :
        (accepted (begun sampleOptions [47] sampleMachine) [sampleInput]).length = 1 := by
      decide +kernel
    rwa [← haccounts.offers, List.length_map] at haccepted
  generalize hs :
    run (begun sampleOptions [47] sampleMachine) ([sampleInput].map .offer) = s at hyields
  obtain ⟨cs, hext, hok, hwrites⟩ := hyields (by rintro rfl; cases hlength)
  have hwritable : ∀ c ∈ (allSymbolsRead s).2.world.calls,
      c.before.disk.isWritable [47, 114] = true := by
    rw [← hs]
    decide +kernel
  have happended : ∀ e ∈ (allSymbolsRead s).2.world.calls.map (·.effect), ∀ text ∈ appended? e,
      text = Bytes.ofString "1\na 2\n7 PREVAILING_DEF\n9 UNKNOWN\n" := by
    rw [← hs]
    decide +kernel
  obtain ⟨asked, created, written, h⟩ := hok (by rw [← hs]; decide +kernel)
  obtain ⟨hquestions, htext, -⟩ := hwrites asked created written h
  obtain ⟨rest, hcalls⟩ := h.calls_eq
  have hmem : ∀ c ∈ visible cs, c ∈ (allSymbolsRead s).2.world.calls :=
    fun c hc => hext.subset (List.mem_filter.1 hc).1
  have hpath := hwritable created (hmem created (by rw [hcalls]; simp))
  have heffect := List.mem_map_of_mem (f := (·.effect)) (hmem written (by rw [hcalls]; simp))
  exact ⟨acceptances, asked, written, hlength, haccounts, hquestions,
    every_symbol_gets_its_resolution.2.2 _ _ _ cs asked created written [47, 114] _ hext h htext
      hpath, happended _ heffect _ (by rw [htext]; rfl)⟩

end Session

end LtoBridge
