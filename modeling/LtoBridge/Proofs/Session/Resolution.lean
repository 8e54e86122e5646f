/-
**Asking for resolutions.**

The linker is asked once about each claimed file that still has its symbols, in the order of the
files.  Whatever it enters goes to the symbols of that file, and to no others.

Main definitions:

* `LtoBridge.answers`: what the linker entered, question by question;
* `LtoBridge.enterAll`: files with the answers to the questions about them;
* `LtoBridge.Session.questions`: the script of the questions.

Main results:

* `LtoBridge.Session.performs_resolve`: **the questions are asked in order, and the answers are
  entered in order**.
-/

import LtoBridge.Proofs.Session.Basic

set_option autoImplicit false

namespace LtoBridge

/-- Is a call a question for resolutions? -/
def Effect.isQuestion : Effect → Bool
  | getSymbols _ _ => true
  | _ => false

variable {W : Type} [Platform W]

/-! ### Answers -/

/-- The linker's answer to a call that asks for resolutions. -/
def Call.answer? (c : Call W) : Option ResolutionAnswer :=
  match c.effect with
  | .getSymbols handle symbols => some (Platform.getSymbols handle symbols c.before).1
  | _ => none

/-- The resolutions that the linker entered when it got a call. -/
def Call.entered? (c : Call W) : Option (List (Option Resolution)) := c.answer?.map (·.entered)

theorem Call.entered?_of_not_question {c : Call W} (hc : c.effect.isQuestion = false) :
    c.entered? = none := by
  obtain ⟨effect, w⟩ := c
  cases effect with
  | getSymbols handle symbols => cases hc
  | _ => rfl

/-- **What the linker entered**, question by question. -/
def answers (cs : List (Call W)) : List (List (Option Resolution)) := cs.filterMap Call.entered?

@[simp] theorem answers_nil : answers ([] : List (Call W)) = [] := rfl

@[simp] theorem answers_append (cs cs' : List (Call W)) :
    answers (cs ++ cs') = answers cs ++ answers cs' := List.filterMap_append ..

/-- Answers are among what can be noticed. -/
theorem answers_visible (cs : List (Call W)) : answers (visible cs) = answers cs := by
  induction cs with
  | nil => rfl
  | cons c cs ih =>
      have hhead : answers (visible [c]) = answers [c] := by
        cases hvisible : c.effect.visible with
        | true => rw [visible_single hvisible]
        | false =>
            rw [hidden_single hvisible]
            obtain ⟨effect, w⟩ := c
            cases effect with
            | getSymbols handle symbols => cases hvisible
            | _ => rfl
      rw [← List.singleton_append, visible_append, answers_append, answers_append, hhead, ih]

/-- **Files with the answers to the questions about them**, as far as there are answers.  No
question is asked about a file without symbols. -/
def enterAll : List ClaimedFile → List (List (Option Resolution)) → List ClaimedFile
  | [], _ => []
  | f :: fs, [] => f :: fs
  | f :: fs, a :: as =>
      match f.symbols with
      | none => f :: enterAll fs (a :: as)
      | some _ => f.assign a :: enterAll fs as

@[simp] theorem enterAll_nil (fs : List ClaimedFile) : enterAll fs [] = fs := by
  cases fs <;> rfl

theorem enterAll_cons_of_none {f : ClaimedFile} (h : f.symbols = none) (fs : List ClaimedFile)
    (as : List (List (Option Resolution))) : enterAll (f :: fs) as = f :: enterAll fs as := by
  cases as with
  | nil => simp
  | cons a as => simp [enterAll, h]

theorem enterAll_cons_of_some {f : ClaimedFile} {t : SymbolTable} (h : f.symbols = some t)
    (fs : List ClaimedFile) (a : List (Option Resolution)) (as : List (List (Option Resolution))) :
    enterAll (f :: fs) (a :: as) = f.assign a :: enterAll fs as := by
  simp [enterAll, h]

/-- Answers do not change which files have been claimed. -/
theorem identities_enterAll (fs : List ClaimedFile) (as : List (List (Option Resolution))) :
    (enterAll fs as).map (·.identity) = fs.map (·.identity) := by
  induction fs generalizing as with
  | nil => rfl
  | cons f fs ih =>
      cases as with
      | nil => rfl
      | cons a as =>
          cases h : f.symbols with
          | none => rw [enterAll_cons_of_none h, List.map_cons, List.map_cons, ih]
          | some t =>
              rw [enterAll_cons_of_some h, List.map_cons, List.map_cons, ih,
                ClaimedFile.identity_assign]

namespace Session

/-! ### The questions -/

/-- The questions about some files. -/
def questions (files : List ClaimedFile) : List Step :=
  files.filterMap fun f => f.symbols.map fun t => .call (.getSymbols f.handle t.symbols)

theorem questions_cons_of_none {f : ClaimedFile} (h : f.symbols = none) (fs : List ClaimedFile) :
    questions (f :: fs) = questions fs := by
  simp [questions, h]

theorem questions_cons_of_some {f : ClaimedFile} {t : SymbolTable} (h : f.symbols = some t)
    (fs : List ClaimedFile) :
    questions (f :: fs) = [.call (.getSymbols f.handle t.symbols)] ++ questions fs := by
  simp [questions, h]

/-- Resolutions are entered for the file at the given position. -/
theorem assign_of_files_eq {r : Registry} {done fs : List ClaimedFile} {f : ClaimedFile}
    (h : r.files = done ++ f :: fs) (a : List (Option Resolution)) :
    r.assign done.length a = ⟨done ++ f.assign a :: fs⟩ := by
  simp only [Registry.assign, h, Registry.mk.injEq]
  clear h
  induction done with
  | nil => rfl
  | cons d ds ih => simp [ih]

/-- A question to the linker, whose answer is entered whether or not it says that it failed. -/
theorem performs_ask (span : Span) {done fs : List ClaimedFile} {f : ClaimedFile} {t : SymbolTable}
    {s : Live (Traced W)} (hsymbols : f.symbols = some t)
    (hfiles : s.session.registry.files = done ++ f :: fs) :
    (ask span done.length f).Performs s [.call (.getSymbols f.handle t.symbols)] fun _ cs s' =>
      ∃ a, answers cs = [a] ∧
        s'.session = { s.session with registry := ⟨done ++ f.assign a :: fs⟩ } := by
  let call : Call W := ⟨.getSymbols f.handle t.symbols, s.world.world⟩
  let answer := (Platform.getSymbols f.handle t.symbols s.world.world).1
  have hquestion : Follows [.call call.effect] [call] answer.loaded.isOk := .single call
  have hanswers : answers [call] = [answer.entered] := rfl
  simp only [ask, hsymbols]
  refine Act.Yields.bind (Q := fun r cs s' => r = .ok answer ∧ cs = [call] ∧
    s' = { s with world := s.world.record call.effect }) ?_ ?_ ?_
  · exact ⟨[call], .single _ _, rfl, rfl, rfl⟩
  · rintro _ _ _ ⟨⟨⟩, rfl, rfl⟩
    rw [yields_update_bind_iff]
    simp only [assign_of_files_eq hfiles]
    refine .check ?_ ?_
    · intro loaded hloaded
      rw [hloaded] at hquestion
      -- a report that the file was not loaded makes no difference
      split
      · exact .pure ⟨hquestion, _, hanswers, rfl⟩
      · exact ⟨[_], .single _ _, hquestion, _, hanswers, rfl⟩
    · intro failure hloaded
      rw [hloaded] at hquestion
      exact ⟨hquestion, _, hanswers, rfl⟩
  · rintro _ _ _ ⟨⟨⟩, -, -⟩

/-- **The questions are asked in order, and the answers are entered in order**, also the answer to a
question that failed. -/
theorem performs_resolve (span : Span) (files : List ClaimedFile) {done : List ClaimedFile}
    {s : Live (Traced W)} (hfiles : s.session.registry.files = done ++ files) :
    (resolve span done.length files).Performs s (questions files) fun _ cs s' =>
      s'.session = { s.session with registry := ⟨done ++ enterAll files (answers cs)⟩ } := by
  induction files generalizing done s with
  | nil =>
      refine .pure ?_
      rw [answers_nil, enterAll_nil, ← hfiles]
  | cons f fs ih =>
      unfold resolve
      cases hsymbols : f.symbols with
      | none =>
          have hrest := @ih (done ++ [f]) s (by
            rw [hfiles, List.append_assoc, List.singleton_append])
          rw [List.length_append] at hrest
          rw [questions_cons_of_none hsymbols]
          have hask : ask (W := Traced W) span done.length f = pure () := by
            simp only [ask, hsymbols]
          rw [hask]
          refine Act.Performs.mono hrest fun _ cs s' hs' => ?_
          rw [hs', enterAll_cons_of_none hsymbols, List.append_assoc, List.singleton_append]
      | some t =>
          rw [questions_cons_of_some hsymbols]
          refine (performs_ask span hsymbols hfiles).bind ?_ ?_
          · rintro _ cs s' ⟨a, ha, hs'⟩
            have hrest := @ih (done ++ [f.assign a]) s' (by
              rw [hs', List.append_assoc, List.singleton_append])
            rw [List.length_append] at hrest
            refine hrest.mono fun _ cs' s'' hs'' => ?_
            rw [hs'', hs', answers_append, ha, List.singleton_append,
              enterAll_cons_of_some hsymbols, List.append_assoc, List.singleton_append]
          · rintro _ cs s' ⟨a, ha, hs'⟩
            rw [hs', ha, enterAll_cons_of_some hsymbols, enterAll_nil]

end Session

end LtoBridge
