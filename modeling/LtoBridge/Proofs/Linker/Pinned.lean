/-
**Records that stay alive.**

A linker behind its raw interface may go on using the records that it was handed when symbols were
announced.  They are kept until all symbols are released, and the records that it gets with a
question are the same ones again.

Main definitions:

* `LtoBridge.Watched`: a raw linker, the calls that it got and its answers.

Main results:

* `LtoBridge.Machine.pinned_after`: **only a release lets go of records**;
* `LtoBridge.Machine.handed_over_of_announced`, `LtoBridge.Machine.handed_over_of_asked`: the
  records of the two calls that are about symbols.
-/

import LtoBridge.Linker.Bound
import LtoBridge.Linker.Recorded
import LtoBridge.Machine
import LtoBridge.Proofs.Act

set_option autoImplicit false

namespace LtoBridge

/-! ### Watching a raw linker -/

/-- A call that a raw linker got, and the status that it returned, if it returned one. -/
structure Answer where
  call : RecordedLinker.Call
  status : Option Int
  deriving DecidableEq

/-- A raw linker, the calls that it got and its answers, in order. -/
structure Watched (R : Type) where
  raw : R
  answers : List Answer := []

namespace Watched

variable {R α : Type}

/-- The calls that the linker got. -/
def calls (w : Watched R) : List RecordedLinker.Call := w.answers.map Answer.call

/-- Pass on a call, and write it down with its status. -/
def pass (call : RecordedLinker.Call) (status : α → Int) (f : R → α × R) (w : Watched R) :
    α × Watched R :=
  match f w.raw with
  | (a, raw) => (a, ⟨raw, w.answers ++ [⟨call, some (status a)⟩]⟩)

instance [RawLinker R] : RawLinker (Watched R) where
  registerHook function hook := pass (.register hook) id (RawLinker.registerHook function hook)
  addSymbols function handle symbols :=
    pass (.addSymbols handle symbols) id (RawLinker.addSymbols function handle symbols)
  getSymbols function handle symbols :=
    pass (.getSymbols handle (RecordedLinker.getSymbolsVersion function) symbols) Prod.fst
      (RawLinker.getSymbols function handle symbols)
  addInputFile function path := pass (.addInputFile path) id (RawLinker.addInputFile function path)
  addInputLibrary function name :=
    pass (.addInputLibrary name) id (RawLinker.addInputLibrary function name)
  message function level format text w :=
    ⟨RawLinker.message function level format text w.raw,
      w.answers ++ [⟨.message level format text, none⟩]⟩

theorem calls_eq {w w' : Watched R} {call : RecordedLinker.Call} {status : Option Int}
    (h : w'.answers = w.answers ++ [⟨call, status⟩]) : w'.calls = w.calls ++ [call] := by
  rw [calls, calls, h, List.map_append, List.map_singleton]

end Watched

/-! ### Records of symbols -/

/-- Records do not depend on resolutions. -/
theorem map_raw_eq_of_map_identity_eq {symbols symbols' : List Symbol}
    (h : symbols.map Symbol.identity = symbols'.map Symbol.identity) :
    symbols.map Symbol.raw = symbols'.map Symbol.raw := by
  induction symbols generalizing symbols' with
  | nil =>
      obtain rfl : symbols' = [] := by simpa using h.symm
      rfl
  | cons s symbols ih =>
      cases symbols' with
      | nil => cases h
      | cons s' symbols' =>
          obtain ⟨hhead, htail⟩ := List.cons.inj h
          simp only [Symbol.identity, Prod.mk.injEq] at hhead
          obtain ⟨hname, hkey, hkind, hvisibility, hsize⟩ := hhead
          rw [List.map_cons, List.map_cons, ih htail]
          simp [Symbol.raw, *]

theorem resolution_raw (s : Symbol) : s.raw.resolution = Resolution.unknown.code := rfl

namespace BoundLinker

variable {R : Type} [RawLinker R] {handle : Handle} {symbols : List Symbol}

theorem records_eq_ok {call : LinkerCall} {array : List RawSymbol}
    (h : records call symbols = .ok array) : array = symbols.map Symbol.raw := by
  unfold records at h
  split at h
  · exact (Except.ok.inj h).symm
  · cases h

/-- The records of announced symbols are kept, and nothing else is let go of. -/
theorem pinned_addSymbols (l : BoundLinker R) :
    l.pinned <+: (addSymbols handle symbols l).2.pinned := by
  unfold addSymbols
  split
  · exact List.prefix_rfl
  · split
    · exact List.prefix_rfl
    · exact List.prefix_append _ _

theorem pinned_getSymbols (l : BoundLinker R) :
    (getSymbols handle symbols l).2.pinned = l.pinned := by
  unfold getSymbols
  split
  · rfl
  · split
    · rfl
    · dsimp only [onRaw]
      split
      · rfl
      · split
        · rfl
        · rfl

omit [RawLinker R] in
theorem pinned_handOver (call : LinkerCall) (preparing calling : Context) (bs : Bytes)
    (f : Address → NulFree → R → Int × R) (l : BoundLinker R) :
    (handOver call preparing calling bs f l).2.pinned = l.pinned := by
  unfold handOver
  split
  · rfl
  · split
    · rfl
    · rfl

/-- Symbols that the linker accepted were handed over, and their records are kept. -/
theorem handed_over_addSymbols {l : BoundLinker (Watched R)}
    (h : (addSymbols handle symbols l).1.isOk = true) :
    (addSymbols handle symbols l).2.raw.calls =
        l.raw.calls ++ [.addSymbols handle (symbols.map Symbol.raw)] ∧
      (addSymbols handle symbols l).2.pinned = l.pinned ++ [symbols.map Symbol.raw] := by
  unfold addSymbols at h ⊢
  split at h
  · cases h
  · split at h
    · cases h
    · rename_i array hrecords
      obtain rfl := records_eq_ok hrecords
      exact ⟨Watched.calls_eq rfl, rfl⟩

/-- A question hands over the records of the symbols that it is about, if it reaches the linker. -/
theorem handed_over_getSymbols (l : BoundLinker (Watched R)) :
    (getSymbols handle symbols l).2.raw.calls = l.raw.calls ∨
      ∃ version, (getSymbols handle symbols l).2.raw.calls =
        l.raw.calls ++ [.getSymbols handle version (symbols.map Symbol.raw)] := by
  unfold getSymbols
  split
  · exact .inl rfl
  · rename_i function _
    split
    · exact .inl rfl
    · rename_i array hrecords
      obtain rfl := records_eq_ok hrecords
      refine .inr ⟨RecordedLinker.getSymbolsVersion function, ?_⟩
      have hcalls : (RawLinker.getSymbols function handle (symbols.map Symbol.raw) l.raw).2.calls =
          l.raw.calls ++ [.getSymbols handle (RecordedLinker.getSymbolsVersion function)
            (symbols.map Symbol.raw)] := Watched.calls_eq rfl
      dsimp only [onRaw]
      split
      · exact hcalls
      · split
        · exact hcalls
        · exact hcalls

end BoundLinker

/-! ### The linker of a machine -/

namespace Machine

section

variable {L : Type} [Linker L]

omit [Linker L] in
theorem linker_onDisk (f : Disk → Except OsError Disk) (m : Machine L) :
    (onDisk f m).2.linker = m.linker := by
  unfold onDisk
  split <;> rfl

omit [Linker L] in
theorem linker_openFile {m m' : Machine L} {path : Path} {file : Descriptor}
    (h : m.openFile path = .ok (file, m')) : m'.linker = m.linker := by
  unfold openFile at h
  cases hfind : m.disk.find path with
  | error error =>
      rw [hfind] at h
      cases h
  | ok found =>
      rw [hfind] at h
      cases h
      rfl

/-- Only calls to the linker change it. -/
theorem linker_outcome_of_own {e : Effect} (m : Machine L) (he : e.IsOwn) :
    (e.outcome m).2.linker = m.linker := by
  cases e with
  | addSymbols | getSymbols | addInputFile | addInputLibrary | releaseSymbols => cases he
  | removeTree path => exact linker_onDisk (·.removeTree path) m
  | createFile path => exact linker_onDisk (·.create path) m
  | appendFile path data => exact linker_onDisk (·.append path data) m
  | removeFile path => exact linker_onDisk (·.remove path) m
  | makeTemporaryDirectory parent stem =>
      simp only [Effect.outcome, Platform.makeTemporaryDirectory, Prod.map_snd, id]
      split <;> rfl
  | openFile path =>
      simp only [Effect.outcome, Platform.openFile, Prod.map_snd, id]
      split
      · rename_i hopen
        exact linker_openFile hopen
      · rfl
  | _ => rfl

end

variable {R : Type} [RawLinker R]

/-- **Only a release lets go of records.** -/
theorem pinned_after {c : Call (Machine (BoundLinker R))} (hc : c.effect ≠ .releaseSymbols) :
    c.before.linker.pinned <+: c.after.linker.pinned := by
  obtain ⟨effect, m⟩ := c
  cases hown : effect.isLinker with
  | false =>
      have hsame : (Call.after ⟨effect, m⟩).linker = m.linker := linker_outcome_of_own m hown
      exact hsame.symm ▸ List.prefix_rfl
  | true =>
      cases effect with
      | addSymbols handle symbols => exact BoundLinker.pinned_addSymbols m.linker
      | getSymbols handle symbols =>
          exact (BoundLinker.pinned_getSymbols m.linker).symm ▸ List.prefix_rfl
      | addInputFile path =>
          exact (BoundLinker.pinned_handOver _ _ _ _ _ m.linker).symm ▸ List.prefix_rfl
      | addInputLibrary name =>
          exact (BoundLinker.pinned_handOver _ _ _ _ _ m.linker).symm ▸ List.prefix_rfl
      | releaseSymbols => exact absurd rfl hc
      | _ => cases hown

variable {c : Call (Machine (BoundLinker (Watched R)))} {handle : Handle} {symbols : List Symbol}

/-- An announcement that succeeded hands over records, which are kept. -/
theorem handed_over_of_announced (hc : c.effect = .addSymbols handle symbols)
    (hsucceeded : c.succeeded = true) :
    c.after.linker.raw.calls =
        c.before.linker.raw.calls ++ [.addSymbols handle (symbols.map Symbol.raw)] ∧
      c.after.linker.pinned = c.before.linker.pinned ++ [symbols.map Symbol.raw] := by
  unfold Call.succeeded at hsucceeded
  unfold Call.after
  rw [hc] at hsucceeded ⊢
  exact BoundLinker.handed_over_addSymbols hsucceeded

/-- A question hands over the same records, if it reaches the linker. -/
theorem handed_over_of_asked (hc : c.effect = .getSymbols handle symbols) :
    c.after.linker.raw.calls = c.before.linker.raw.calls ∨
      ∃ version, c.after.linker.raw.calls = c.before.linker.raw.calls ++
        [.getSymbols handle version (symbols.map Symbol.raw)] := by
  unfold Call.after
  rw [hc]
  exact BoundLinker.handed_over_getSymbols c.before.linker

end Machine

end LtoBridge
