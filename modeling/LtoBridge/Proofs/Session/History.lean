/-
**Runs of a session.**

The linker may offer files, say that all symbols have been read, have the symbols released and
have the session cleaned up, in any order and as often as it likes.  Whatever happens, a question
for resolutions is about a file that was announced with the same symbols, and the symbols have not
been released since.

Main definitions:

* `LtoBridge.Session.Operation`, `LtoBridge.Session.run`: what can be done with a session;
* `LtoBridge.Session.MadeBy`: which operation made a call;
* `LtoBridge.Session.Announced`: the symbols of a claimed file were announced and not released
  since.

Main results:

* `LtoBridge.Session.keeps_after`: what one operation does to announced symbols;
* `LtoBridge.Session.sound_run`: **every question is about announced symbols**.
-/

import LtoBridge.Proofs.Linker.Pinned
import LtoBridge.Proofs.Session.Cleanup
import Mathlib.Data.List.Induction

set_option autoImplicit false

namespace LtoBridge

/-! ### What stays the same about claimed files -/

/-- What the linker knows about a claimed file. -/
def ClaimedFile.announcement (f : ClaimedFile) :
    Handle × Option (List (NulFree × Option NulFree × SymbolKind × Visibility × UInt64)) :=
  (f.handle, f.symbols.map SymbolTable.identities)

theorem ClaimedFile.announcement_assign (f : ClaimedFile) (a : List (Option Resolution)) :
    (f.assign a).announcement = f.announcement := by
  cases h : f.symbols <;> simp [announcement, assign, h]

/-- Answers do not change what the linker knows. -/
theorem announcements_enterAll (fs : List ClaimedFile) (as : List (List (Option Resolution))) :
    (enterAll fs as).map (·.announcement) = fs.map (·.announcement) := by
  induction fs generalizing as with
  | nil => rfl
  | cons f fs ih =>
      cases as with
      | nil => rfl
      | cons a as =>
          cases h : f.symbols with
          | none => rw [enterAll_cons_of_none h, List.map_cons, List.map_cons, ih]
          | some t =>
              rw [enterAll_cons_of_some h, List.map_cons, List.map_cons, ih,
                ClaimedFile.announcement_assign]

namespace Session

/-! ### Operations -/

/-- What can be done with a session. -/
inductive Operation
  | offer (input : InputFile)
  | allSymbolsRead
  | release
  | cleanup

variable {W : Type} [Platform W]

/-- The session after an operation, whether or not that failed. -/
def Operation.after : Operation → Live W → Live W
  | offer input, s => (claimFile input s).2
  | allSymbolsRead, s => (Session.allSymbolsRead s).2
  | release, s => (releaseSymbols s).2
  | cleanup, s => (Session.cleanup s).2

/-- **The session after some operations.** -/
def run (s : Live W) (ops : List Operation) : Live W := ops.foldl (fun s op => op.after s) s

theorem run_concat (s : Live W) (ops : List Operation) (op : Operation) :
    run s (ops ++ [op]) = op.after (run s ops) := by
  simp [run]

/-- The calls that an operation makes. -/
def Operation.calls (op : Operation) (s : Live (Traced W)) : List (Call W) :=
  (op.after s).world.calls.drop s.world.calls.length

theorem Operation.calls_eq (op : Operation) {s : Live (Traced W)} {cs : List (Call W)}
    (h : s.world.Extends cs (op.after s).world) : op.calls s = cs := by
  rw [calls, h.calls_eq, List.drop_left]

/-- A session that has just begun. -/
def begun (options : Options) (directory : Path) (w : W) : Live (Traced W) where
  session := { options, temporaryDirectory := some directory }
  world := { world := w }

/-! ### Who made a call -/

variable {s₀ : Live (Traced W)} {ops : List Operation}

/-- The call with a number was made by an operation that had a property where it began. -/
def MadeBy (s₀ : Live (Traced W)) (ops : List Operation) (number : Nat)
    (P : Operation → Live (Traced W) → Prop) : Prop :=
  ∃ earlier op later, ops = earlier ++ op :: later ∧ P op (run s₀ earlier) ∧
    (run s₀ earlier).world.calls.length ≤ number ∧
    number < (run s₀ (earlier ++ [op])).world.calls.length

theorem MadeBy.concat {number : Nat} {P : Operation → Live (Traced W) → Prop}
    (h : MadeBy s₀ ops number P) (op : Operation) : MadeBy s₀ (ops ++ [op]) number P := by
  obtain ⟨earlier, op', later, rfl, hmade⟩ := h
  exact ⟨earlier, op', later ++ [op], by simp, hmade⟩

/-- The operation claims a file: it becomes the one at position `k` of the registry, with the given
handle and symbols. -/
def Claims (k : Nat) (handle : Handle) (symbols : List Symbol) (op : Operation)
    (s : Live (Traced W)) : Prop :=
  ∃ input file table, op = .offer input ∧ (claimFile input s).1 = .ok true ∧
    s.session.registry.size = k ∧
    (op.after s).session.registry = s.session.registry.push file ∧
    file.handle = handle ∧ file.symbols = some table ∧ table.symbols = symbols

/-- The operation collects resolutions, and the file at position `k` of the registry has the given
handle and symbols. -/
def Asks (k : Nat) (handle : Handle) (symbols : List Symbol) (op : Operation)
    (s : Live (Traced W)) : Prop :=
  op = .allSymbolsRead ∧ ∃ file table, s.session.registry.files[k]? = some file ∧
    file.handle = handle ∧ file.symbols = some table ∧ table.symbols = symbols

/-- **The symbols of the file at position `k` were announced and not released since**: among the
given first calls of a run there is the one by which the file was claimed, the linker accepted it,
it was about the same symbols, and it was not followed by a release. -/
def Announced (s₀ : Live (Traced W)) (ops : List Operation) (calls : List (Call W)) (k : Nat)
    (handle : Handle) (symbols : List Symbol) (added : Call W) : Prop :=
  ∃ before between announced, calls = before ++ added :: between ∧
    added.effect = .addSymbols handle announced ∧ added.succeeded = true ∧
    announced.map Symbol.identity = symbols.map Symbol.identity ∧
    released between = false ∧ MadeBy s₀ ops before.length (Claims k handle announced)

/-! ### One operation -/

/-- What an operation does to announced symbols: it asks about files that still have them, before it
releases any, and what has symbols afterwards had them before or has just been announced. -/
structure Keeps (op : Operation) (s : Live (Traced W)) (cs : List (Call W)) (s' : Live (Traced W)) :
    Prop where
  questions : ∀ pre asked post handle symbols, cs = pre ++ asked :: post →
    asked.effect = .getSymbols handle symbols →
      released pre = false ∧ ∃ k, Asks k handle symbols op s
  entries : ∀ (k : Nat) (file : ClaimedFile) (table : SymbolTable),
    s'.session.registry.files[k]? = some file → file.symbols = some table →
      (released cs = false ∧ ∃ file₀, s.session.registry.files[k]? = some file₀ ∧
        file₀.announcement = file.announcement) ∨
      ∃ pre added post, cs = pre ++ added :: post ∧
        added.effect = .addSymbols file.handle table.symbols ∧ added.succeeded = true ∧
        released post = false ∧ Claims k file.handle table.symbols op s

omit [Platform W] in
theorem not_question_of_offers {cs : List (Call W)} (hcs : ∀ c ∈ cs, c.effect.IsOffer) :
    ∀ c ∈ cs, ∀ handle symbols, c.effect ≠ .getSymbols handle symbols := by
  intro c hc handle symbols hasked
  have hoffer := hcs c hc
  rw [hasked] at hoffer
  obtain ⟨⟨⟩⟩ | ⟨_, _, ⟨⟩⟩ := hoffer

omit [Platform W] in
theorem released_of_offers {cs : List (Call W)} (hcs : ∀ c ∈ cs, c.effect.IsOffer) :
    released cs = false := by
  refine released_eq_false_iff.2 fun c hc hrelease => ?_
  have hoffer := hcs c hc
  rw [hrelease] at hoffer
  obtain ⟨⟨⟩⟩ | ⟨_, _, ⟨⟩⟩ := hoffer

/-- An offer asks nothing, and adds what it announced. -/
theorem keeps_offer (input : InputFile) (s : Live (Traced W)) :
    ∃ cs, s.world.Extends cs (claimFile input s).2.world ∧
      Keeps (.offer input) s cs (claimFile input s).2 := by
  obtain ⟨cs, hext, ⟨hr, table, haccepts⟩ | ⟨-, hdeclines⟩⟩ := yields_claimFile (s := s) input
  · have hoffers := haccepts.announces.offers
    have hregistry : (claimFile input s).2.session.registry = s.session.registry.push
        ⟨keptPath s.session input, input.handle, input.isMember, some table⟩ := by
      rw [haccepts.session_eq]
    refine ⟨cs, hext, ?_, ?_⟩
    · intro pre asked post handle symbols hsplit hasked
      exact absurd hasked (not_question_of_offers hoffers _ (by rw [hsplit]; simp) _ _)
    · intro k file table' hfile hsymbols
      have hfile' := hfile
      rw [hregistry, Registry.push] at hfile'
      -- the file was there before, or it is the one that has been claimed
      obtain hlt | hge := Nat.lt_or_ge k s.session.registry.files.length
      · rw [List.getElem?_append_left hlt] at hfile'
        exact .inl ⟨released_of_offers hoffers, file, hfile', rfl⟩
      · rw [List.getElem?_append_right hge, List.getElem?_singleton] at hfile'
        split at hfile'
        · rename_i hk
          obtain rfl := Option.some.inj hfile'
          obtain rfl := Option.some.inj hsymbols
          obtain ⟨before, added, after, rfl, hadded, hsucceeded, -, hafter⟩ := haccepts.announces
          refine .inr ⟨before, added, after, rfl, hadded, hsucceeded, released_of_own hafter, ?_⟩
          have hsize : s.session.registry.size = k := by unfold Registry.size; omega
          exact ⟨input, _, table, rfl, hr, hsize, hregistry, rfl, rfl, rfl⟩
        · cases hfile'
  · refine ⟨cs, hext, ?_, ?_⟩
    · intro pre asked post handle symbols hsplit hasked
      exact absurd hasked (not_question_of_offers hdeclines.offers _ (by rw [hsplit]; simp) _ _)
    · intro k file table hfile hsymbols
      refine .inl ⟨released_of_offers hdeclines.offers, file, ?_, rfl⟩
      rw [hdeclines.session_eq] at hfile
      exact hfile

theorem keeps_release (s : Live (Traced W)) :
    releaseSymbols.Yields s fun _ cs s' => Keeps .release s cs s' := by
  refine yields_releaseSymbols.mono ?_
  rintro _ _ s' ⟨-, rfl, hs'⟩
  refine ⟨?_, ?_⟩
  · intro pre asked post handle symbols hsplit
    have hmem : asked ∈ pre ++ asked :: post := by simp
    rw [← hsplit, List.mem_singleton] at hmem
    rw [hmem]
    exact nofun
  · intro k file table hfile hsymbols
    rw [hs', Registry.release, List.getElem?_map, Option.map_eq_some_iff] at hfile
    obtain ⟨file₀, -, rfl⟩ := hfile
    cases hsymbols

theorem keeps_cleanup (s : Live (Traced W)) :
    cleanup.Yields s fun _ cs s' => Keeps .cleanup s cs s' := by
  refine yields_cleanup.mono ?_
  rintro _ cs s' ⟨hcs, hregistry⟩
  refine ⟨?_, ?_⟩
  · intro pre asked post handle symbols hsplit hasked
    have hrelease := hcs asked (by rw [hsplit]; simp)
    rw [hasked] at hrelease
    obtain ⟨⟨⟩⟩ | ⟨⟨⟩⟩ := hrelease
  · intro k file table hfile hsymbols
    obtain hempty | ⟨hsame, hreleased⟩ := hregistry
    · rw [hempty] at hfile
      cases hfile
    · exact .inl ⟨hreleased, file, by rw [← hsame]; exact hfile, rfl⟩

theorem keeps_allSymbolsRead (s : Live (Traced W)) :
    allSymbolsRead.Yields s fun _ cs s' => Keeps .allSymbolsRead s cs s' := by
  by_cases hfiles : s.session.registry.files = []
  · refine yields_view_bind_iff.2 ?_
    rw [if_pos hfiles]
    refine (yields_tell _ _).mono ?_
    rintro r cs s' ⟨-, hcs, hs'⟩
    refine ⟨?_, ?_⟩
    · intro pre asked post handle symbols hsplit hasked
      have hown := hcs asked (by rw [hsplit]; simp)
      rw [hasked] at hown
      cases hown
    · intro k file table hfile hsymbols
      rw [hs', hfiles] at hfile
      cases hfile
  · refine (yields_allSymbolsRead hfiles).mono ?_
    rintro r cs s' ⟨hfollows, registry, outputs, passThrough, rfl, hs'⟩
    refine ⟨?_, ?_⟩
    · intro pre asked post handle symbols hsplit hasked
      have hvisible : visible cs = visible pre ++ asked :: visible post := by
        have hseen : asked.effect.visible = true := by rw [hasked]; rfl
        rw [hsplit, visible_append, ← List.singleton_append, visible_append, visible_single hseen]
        rfl
      have hnot : Step.call asked.effect ∉ fileScript s.session (takeIn (launched cs)) := by
        rw [hasked]
        exact question_not_mem_fileScript _ _ _ _
      rw [hvisible] at hfollows
      refine ⟨released_eq_false_iff.2 fun c hc hrelease => ?_, ?_⟩
      · have hmem : c ∈ visible pre := List.mem_filter.2 ⟨hc, by rw [hrelease]; rfl⟩
        have hstep := hfollows.mem_of_append hnot c hmem
        rw [hrelease] at hstep
        exact release_not_mem_resolutionScript _ _ hstep
      · have hstep := hfollows.effect_mem (c := asked) (by simp)
        rw [script, List.mem_append] at hstep
        have hquestion := hstep.resolve_right hnot
        rw [hasked] at hquestion
        obtain ⟨file, hfile, table, hquestion⟩ := exists_of_question_mem_resolutionScript hquestion
        obtain ⟨k, hk⟩ := List.getElem?_of_mem hfile
        exact ⟨k, rfl, file, table, hk, hquestion⟩
    · intro k file table hfile hsymbols
      rw [hs'] at hfile
      cases hreleased : released cs with
      | true =>
          simp only [hreleased, if_true, Registry.release, List.getElem?_map,
            Option.map_eq_some_iff] at hfile
          obtain ⟨file₀, -, rfl⟩ := hfile
          cases hsymbols
      | false =>
          simp only [hreleased, Bool.false_eq_true, if_false] at hfile
          have hannouncement := congrArg (·[k]?)
            (announcements_enterAll s.session.registry.files (answers cs))
          simp only [List.getElem?_map, hfile, Option.map_some] at hannouncement
          obtain ⟨file₀, hfile₀, hsame⟩ := Option.map_eq_some_iff.1 hannouncement.symm
          exact .inl ⟨rfl, file₀, hfile₀, hsame⟩

/-- What every operation does to announced symbols. -/
theorem keeps_after (op : Operation) (s : Live (Traced W)) :
    ∃ cs, s.world.Extends cs (op.after s).world ∧ Keeps op s cs (op.after s) :=
  match op with
  | .offer input => keeps_offer input s
  | .allSymbolsRead => keeps_allSymbolsRead s
  | .release => keeps_release s
  | .cleanup => keeps_cleanup s

/-! ### Runs -/

theorem extends_run (s : Live (Traced W)) (ops : List Operation) :
    ∃ cs, s.world.Extends cs (run s ops).world := by
  induction ops generalizing s with
  | nil => exact ⟨[], .refl _⟩
  | cons op ops ih =>
      obtain ⟨cs, hext, -⟩ := keeps_after op s
      obtain ⟨cs', hext'⟩ := ih (op.after s)
      exact ⟨cs ++ cs', hext.trans hext'⟩

section

variable {calls : List (Call W)} {k : Nat} {handle : Handle} {symbols symbols' : List Symbol}
  {added : Call W}

/-- What was announced stays so, as long as nothing is released. -/
theorem Announced.concat (h : Announced s₀ ops calls k handle symbols added) (op : Operation)
    {cs : List (Call W)} (hcs : released cs = false) :
    Announced s₀ (ops ++ [op]) (calls ++ cs) k handle symbols added := by
  obtain ⟨before, between, announced, rfl, hadded, hsucceeded, hsame, hreleased, hmade⟩ := h
  refine ⟨before, between ++ cs, announced, by simp, hadded, hsucceeded, hsame, ?_, hmade.concat op⟩
  rw [released_append, hreleased, hcs, Bool.or_false]

theorem Announced.congr (h : Announced s₀ ops calls k handle symbols added)
    (hsymbols : symbols.map Symbol.identity = symbols'.map Symbol.identity) :
    Announced s₀ ops calls k handle symbols' added := by
  obtain ⟨before, between, announced, hcalls, hadded, hsucceeded, hsame, hrest⟩ := h
  exact ⟨before, between, announced, hcalls, hadded, hsucceeded, hsame.trans hsymbols, hrest⟩

end

/-- The symbols that a run still has were announced, and so were those that it asked about. -/
structure Sound (s₀ : Live (Traced W)) (ops : List Operation) : Prop where
  entries : ∀ (k : Nat) (file : ClaimedFile) (table : SymbolTable),
    (run s₀ ops).session.registry.files[k]? = some file → file.symbols = some table →
      ∃ added, Announced s₀ ops (run s₀ ops).world.calls k file.handle table.symbols added
  questions : ∀ pre asked post handle symbols,
    (run s₀ ops).world.calls = pre ++ asked :: post → asked.effect = .getSymbols handle symbols →
      ∃ k added, Announced s₀ ops pre k handle symbols added ∧
        MadeBy s₀ ops pre.length (Asks k handle symbols)

/-- Files with the same announcement have symbols or not, and have the same ones. -/
theorem exists_symbols_of_announcement_eq {f f₀ : ClaimedFile} {t : SymbolTable}
    (h : f₀.announcement = f.announcement) (ht : f.symbols = some t) :
    ∃ t₀, f₀.symbols = some t₀ ∧ f₀.handle = f.handle ∧
      t₀.symbols.map Symbol.identity = t.symbols.map Symbol.identity := by
  obtain ⟨hhandle, hsymbols⟩ := Prod.mk.inj h
  rw [ht, Option.map_some, Option.map_eq_some_iff] at hsymbols
  obtain ⟨t₀, ht₀, hsame⟩ := hsymbols
  exact ⟨t₀, ht₀, hhandle, hsame⟩

/-- An element of a list in two parts is in the first part or in the second one. -/
theorem split_append {α : Type} {l l' pre post : List α} {a : α} (h : l ++ l' = pre ++ a :: post) :
    (∃ post', l = pre ++ a :: post') ∨ ∃ pre', pre = l ++ pre' ∧ l' = pre' ++ a :: post := by
  obtain ⟨pre', hpre, hl'⟩ | ⟨rest, hl, hpost⟩ := List.append_eq_append_iff.1 h
  · exact .inr ⟨pre', hpre, hl'⟩
  · obtain ⟨rfl, hl'⟩ | ⟨post', rfl, -⟩ := List.cons_eq_append_iff.1 hpost
    · exact .inr ⟨[], by rw [hl, List.append_nil, List.append_nil], hl'⟩
    · exact .inl ⟨post', hl⟩

/-- **Every run keeps its symbols announced**, by one operation after the other. -/
theorem sound_run (hfiles : s₀.session.registry.files = []) (hcalls : s₀.world.calls = [])
    (ops : List Operation) : Sound s₀ ops := by
  induction ops using List.reverseRecOn with
  | nil =>
      refine ⟨?_, ?_⟩
      · intro k file table hfile
        rw [run, List.foldl_nil, hfiles] at hfile
        cases hfile
      · intro pre asked post handle symbols hsplit
        rw [run, List.foldl_nil, hcalls] at hsplit
        simp at hsplit
  | append_singleton ops op ih =>
      obtain ⟨cs, hext, hkeeps⟩ := keeps_after op (run s₀ ops)
      rw [← run_concat] at hext hkeeps
      have hall := hext.calls_eq
      refine ⟨?_, ?_⟩
      · intro k file table hfile hsymbols
        obtain ⟨hreleased, file₀, hfile₀, hsame⟩ | hnew :=
          hkeeps.entries k file table hfile hsymbols
        · obtain ⟨table₀, htable₀, hhandle, hsame⟩ :=
            exists_symbols_of_announcement_eq hsame hsymbols
          obtain ⟨added, hadded⟩ := ih.entries k file₀ table₀ hfile₀ htable₀
          rw [hhandle] at hadded
          rw [hall]
          exact ⟨added, (hadded.concat op hreleased).congr hsame⟩
        · obtain ⟨pre, added, post, rfl, hadded, hsucceeded, hreleased, hclaims⟩ := hnew
          refine ⟨added, (run s₀ ops).world.calls ++ pre, post, table.symbols, ?_, hadded,
            hsucceeded, rfl, hreleased, ops, op, [], rfl, hclaims, ?_, ?_⟩
          · rw [hall, List.append_assoc]
          · simp
          · rw [hall]
            simp
      · intro pre asked post handle symbols hsplit hasked
        rw [hall] at hsplit
        obtain ⟨post', hold⟩ | ⟨pre', rfl, hnew⟩ := split_append hsplit
        · obtain ⟨k, added, hadded, hmade⟩ :=
            ih.questions pre asked post' handle symbols hold hasked
          have hadded' := hadded.concat op released_nil
          rw [List.append_nil] at hadded'
          exact ⟨k, added, hadded', hmade.concat op⟩
        · obtain ⟨hreleased, k, hasks⟩ :=
            hkeeps.questions pre' asked post handle symbols hnew hasked
          obtain ⟨-, file, table, hfile, rfl, htable, rfl⟩ := id hasks
          obtain ⟨added, hadded⟩ := ih.entries k file table hfile htable
          refine ⟨k, added, hadded.concat op hreleased, ops, op, [], rfl, hasks, ?_, ?_⟩
          · simp
          · rw [hall, hnew]
            simp

/-! ### What a raw linker gets -/

section

variable {R : Type} [RawLinker R]

/-- **The two calls hand the same records to a raw linker**, without resolutions, and the records
that were handed over by the first one are kept until the second one, which may not come to the
point where it hands over any. -/
def SameRecords (handle : Handle) (added asked : Call (Machine (BoundLinker (Watched R)))) : Prop :=
  ∃ array : List RawSymbol,
    (∀ record ∈ array, record.resolution = Resolution.unknown.code) ∧
    added.after.linker.raw.calls = added.before.linker.raw.calls ++ [.addSymbols handle array] ∧
    added.after.linker.pinned = added.before.linker.pinned ++ [array] ∧
    added.after.linker.pinned <+: asked.before.linker.pinned ∧
    (asked.after.linker.raw.calls = asked.before.linker.raw.calls ∨
      ∃ version, asked.after.linker.raw.calls =
        asked.before.linker.raw.calls ++ [.getSymbols handle version array])

variable {s₀ : Live (Traced (Machine (BoundLinker (Watched R))))}

theorem sameRecords_of_announced {ops : List Operation} (hcalls : s₀.world.calls = [])
    {pre post : List (Call (Machine (BoundLinker (Watched R))))}
    {added asked : Call (Machine (BoundLinker (Watched R)))} {k : Nat} {handle : Handle}
    {symbols : List Symbol} (hsplit : (run s₀ ops).world.calls = pre ++ asked :: post)
    (hasked : asked.effect = .getSymbols handle symbols)
    (hannounced : Announced s₀ ops pre k handle symbols added) :
    SameRecords handle added asked := by
  obtain ⟨before, between, announced, rfl, hadded, hsucceeded, hsame, hreleased, -⟩ := hannounced
  obtain ⟨cs, hext⟩ := extends_run s₀ ops
  obtain rfl : cs = before ++ added :: (between ++ asked :: post) := by
    have hall := hext.calls_eq
    rw [hcalls, List.nil_append, hsplit] at hall
    simpa using hall.symm
  obtain ⟨u, -, hbefore, hrest⟩ := hext.split
  obtain ⟨u', hbetween, hasked', -⟩ := hrest.split
  obtain ⟨hhanded, hpinned⟩ := Machine.handed_over_of_announced hadded hsucceeded
  have hafter : (u.record added.effect).world = added.after := by
    rw [Call.after, hbefore]
    rfl
  have hkept : added.after.linker.pinned <+: u'.world.linker.pinned := by
    -- every call in between keeps what it finds
    refine hbetween.invariant (P := fun m => added.after.linker.pinned <+: m.linker.pinned)
      (fun c hc hpre => hpre.trans (Machine.pinned_after ?_)) ?_
    · exact released_eq_false_iff.1 hreleased c hc
    · exact hafter ▸ List.prefix_rfl
  have hrecords := map_raw_eq_of_map_identity_eq hsame
  refine ⟨announced.map Symbol.raw, ?_, hhanded, hpinned, ?_, ?_⟩
  · intro record hrecord
    obtain ⟨symbol, -, rfl⟩ := List.mem_map.1 hrecord
    exact resolution_raw symbol
  · rw [hasked']
    exact hkept
  · rw [hrecords]
    exact Machine.handed_over_of_asked hasked

end

/-- **Every question is about announced symbols, which are alive.**  Whatever is done with a
session, a question for resolutions is about a file of the registry that was claimed by an
announcement with the same handle and, up to their resolutions, the same symbols; and nothing has
been released in between.  A raw linker gets the same records with both calls, and those of the
announcement are still kept when it gets the question. -/
theorem questions_about_announced_symbols :
    (∀ (W : Type) [Platform W] (options : Options) (directory : Path) (w : W)
      (ops : List Operation) (pre post : List (Call W)) (asked : Call W) (handle : Handle)
      (symbols : List Symbol),
      (run (begun options directory w) ops).world.calls = pre ++ asked :: post →
      asked.effect = .getSymbols handle symbols →
      ∃ k added, Announced (begun options directory w) ops pre k handle symbols added ∧
        MadeBy (begun options directory w) ops pre.length (Asks k handle symbols)) ∧
    (∀ (R : Type) [RawLinker R] (options : Options) (directory : Path)
      (m : Machine (BoundLinker (Watched R))) (ops : List Operation)
      (pre post : List (Call (Machine (BoundLinker (Watched R)))))
      (added asked : Call (Machine (BoundLinker (Watched R)))) (k : Nat) (handle : Handle)
      (symbols : List Symbol),
      (run (begun options directory m) ops).world.calls = pre ++ asked :: post →
      asked.effect = .getSymbols handle symbols →
      Announced (begun options directory m) ops pre k handle symbols added →
      SameRecords handle added asked) := by
  refine ⟨?_, ?_⟩
  · intro W _ options directory w ops pre post asked handle symbols hsplit hasked
    exact (sound_run rfl rfl ops).questions pre asked post handle symbols hsplit hasked
  · intro R _ options directory m ops pre post added asked k handle symbols hsplit hasked
    exact sameRecords_of_announced rfl hsplit hasked

/-! ### A small run -/

open Elf in
/-- A small object with the given symbol table. -/
def sampleObject (stored : Bytes) : Bytes :=
  let format : Format := ⟨.bits32, .little⟩
  let names : Bytes := 0 :: symbolTableName ++ [0]
  let headerSize := 52
  let table := headerSize + names.length + stored.length
  magic ++ [1, 1, 1] ++ List.replicate 9 0 ++
    format.row [(2, 1), (2, 3), (4, 1), (4, 0), (4, 0), (4, table), (4, 0), (2, headerSize), (2, 0),
      (2, 0), (2, 40), (2, 3), (2, 1)] ++
    names ++ stored ++ List.replicate 40 0 ++
    format.row [(4, 0), (4, Section.stringsType), (4, 0), (4, 0), (4, headerSize),
      (4, names.length), (4, 0), (4, 0), (4, 1), (4, 0)] ++
    format.row [(4, 1), (4, 1), (4, 0), (4, 0), (4, headerSize + names.length),
      (4, stored.length), (4, 0), (4, 0), (4, 1), (4, 0)]

/-- A table of two symbols, one of which is defined elsewhere. -/
def sampleTable : SymbolTable :=
  ⟨[⟨⟨.upToZero [102], none, .definition, .default, 0, .unknown⟩, 7⟩,
    ⟨⟨.upToZero [103], none, .undefined, .default, 0, .unknown⟩, 9⟩]⟩

/-- An offer of a file that is open as number 3. -/
def sampleInput : InputFile where
  path := [97]
  file := 3
  offset := 0
  size := (sampleObject sampleTable.encode).length
  handle := 5

/-- A machine on which this file is open. -/
def sampleMachine : Machine (BoundLinker (Watched RecordedLinker)) where
  disk := ⟨⟨[([[97]], .file (sampleObject sampleTable.encode) false)]⟩, []⟩
  opened := [(3, [[97]])]
  launcher disk _ _ := (.error .noEntry, disk)
  linker :=
    { raw := { raw := { resolutions := [(5, [2])] } }
      bindings := { address := fun _ => some 1 } }
  journal := { subscriber := .nobody }

/-- Resolutions go to the file `/r`, and claimed files go back to the linker. -/
def sampleOptions : Options := { bypassBackend := true, resolutionFile := some [47, 114] }

/-- The file is offered, and it is the only one. -/
def sampleOperations : List Operation := [.offer sampleInput, .allSymbolsRead]

theorem questions_about_announced_symbols_sample :
    ∃ pre post asked k added,
      (run (begun sampleOptions [47] sampleMachine) sampleOperations).world.calls =
        pre ++ asked :: post ∧
      asked.effect = .getSymbols 5 sampleTable.symbols ∧
      Announced (begun sampleOptions [47] sampleMachine) sampleOperations pre k 5
        sampleTable.symbols added ∧
      SameRecords 5 added asked := by
  have hmem : .getSymbols 5 sampleTable.symbols ∈
      (run (begun sampleOptions [47] sampleMachine) sampleOperations).world.calls.map
        (·.effect) := by
    decide +kernel
  obtain ⟨asked, hasked, heffect⟩ := List.mem_map.1 hmem
  obtain ⟨pre, post, hsplit⟩ := List.append_of_mem hasked
  obtain ⟨k, added, hadded, -⟩ := questions_about_announced_symbols.1 _ sampleOptions [47]
    sampleMachine sampleOperations pre post asked 5 sampleTable.symbols hsplit heffect
  have hrecords := questions_about_announced_symbols.2 _ sampleOptions [47] sampleMachine
    sampleOperations pre post added asked k 5 sampleTable.symbols hsplit heffect hadded
  exact ⟨pre, post, asked, k, added, hsplit, heffect, hadded, hrecords⟩

end Session

end LtoBridge
