/-
**The transfer vector.**

When a linker loads the bridge, it hands over a list of tagged values: its functions, the options
of the user and facts that the bridge does not need.

Main definitions:

* `LtoBridge.Entry`, `LtoBridge.Meaning`: a tagged value and what its tag means;
* `LtoBridge.Bindings`: the functions of the linker;
* `LtoBridge.TransferVector.read`: what a list of entries offers.
-/

import LtoBridge.Log

set_option autoImplicit false

namespace LtoBridge

/-- Where a function of the linker is.  No function is at 0. -/
abbrev Address := UInt64

/-- A value in a transfer vector: a word, or where a text is. -/
inductive EntryValue
  | word (n : UInt64)
  | text (s : NulFree)
  deriving DecidableEq

/-- The function that a value stands for, unless it is null. -/
def EntryValue.function? : EntryValue → Option Address
  | word n => if n = 0 then none else some n
  | text _ => none

/-- The text that a value stands for, unless it is null. -/
def EntryValue.text? : EntryValue → Option NulFree
  | word _ => none
  | text s => some s

/-- A tagged value. -/
structure Entry where
  tag : UInt32
  value : EntryValue
  deriving DecidableEq

/-! ### Tags -/

/-- What a tag means. -/
inductive Meaning
  /-- There are no more entries. -/
  | ends
  | option
  /-- The value is a function of the linker.  A later entry replaces an earlier one. -/
  | provides (call : LinkerCall)
  /-- The value is the function for resolutions, in one of its versions. -/
  | providesGetSymbols (version : Nat)
  /-- The tag is known, but of no use. -/
  | ignored (name : String)
  | unknown
  deriving DecidableEq

/-- The meanings of the tags, from 0 on. -/
def tagMeanings : List Meaning :=
  [.ends, .ignored "ApiVersion", .ignored "GoldVersion", .ignored "LinkerOutput", .option,
    .provides .registerClaimFile, .provides .registerAllSymbolsRead, .provides .registerCleanup,
    .provides .addSymbols, .providesGetSymbols 1, .provides .addInputFile, .provides .message,
    .ignored "GetInputFile", .ignored "ReleaseInputFile", .provides .addInputLibrary,
    .ignored "OutputName", .ignored "SetExtraLibraryPath", .ignored "GnuLdVersion",
    .ignored "GetView", .ignored "GetInputSectionCount", .ignored "GetInputSectionType",
    .ignored "GetInputSectionName", .ignored "GetInputSectionContents",
    .ignored "UpdateSectionOrder", .ignored "AllowSectionOrdering", .providesGetSymbols 2,
    .ignored "AllowUniqueSegmentForSections", .ignored "UniqueSegmentForSections",
    .providesGetSymbols 3, .ignored "GetInputSectionAlignment", .ignored "GetInputSectionSize",
    .ignored "RegisterNewInputHook", .ignored "GetWrapSymbols", .ignored "AddSymbolsV2",
    .ignored "GetApiVersion"]

/-- What the tag of an entry means. -/
def Entry.meaning (e : Entry) : Meaning := tagMeanings.getD e.tag.toNat .unknown

/-- What is reported about an entry of no use. -/
def Entry.notice? (e : Entry) : Option Notice :=
  match e.meaning with
  | .ignored name => some (.ignoredEntry name)
  | .unknown => some (.ignoredTag e.tag.toNat)
  | _ => none

/-! ### Functions of the linker -/

/-- Where the functions of the linker are, as far as it offers them, and which version of the
function for resolutions is meant. -/
structure Bindings where
  address : LinkerCall → Option Address := fun _ => none
  getSymbolsVersion : Nat := 0

namespace Bindings

/-- The bindings with a function in place of what was there. -/
def bind (b : Bindings) (call : LinkerCall) (function : Option Address) : Bindings :=
  { b with address := fun c => if c = call then function else b.address c }

@[simp] theorem address_bind (b : Bindings) (call c : LinkerCall) (function : Option Address) :
    (b.bind call function).address c = if c = call then function else b.address c := rfl

/-- The bindings with a version of the function for resolutions, if it is newer than the one that
is there.  All versions are called in the same way; the newest one can give the most answers. -/
def offerGetSymbols (b : Bindings) (version : Nat) (function : Option Address) : Bindings :=
  if version > b.getSymbolsVersion ∧ function.isSome then
    { b.bind .getSymbols function with getSymbolsVersion := version }
  else b

end Bindings

/-! ### The vector -/

/-- What a transfer vector offers. -/
structure TransferVector where
  bindings : Bindings := {}
  options : List NulFree := []

namespace TransferVector

/-- The vector with one more entry. -/
def add (t : TransferVector) (e : Entry) : TransferVector :=
  match e.meaning with
  | .option => { t with options := t.options ++ e.value.text?.toList }
  | .provides call => { t with bindings := t.bindings.bind call e.value.function? }
  | .providesGetSymbols version =>
      { t with bindings := t.bindings.offerGetSymbols version e.value.function? }
  | .ends | .ignored _ | .unknown => t

/-- The entries before the one that ends the vector. -/
def relevant (entries : List Entry) : List Entry := entries.takeWhile fun e => e.tag != 0

/-- **What a list of entries offers.** -/
def read (entries : List Entry) : TransferVector := (relevant entries).foldl add {}

end TransferVector

end LtoBridge
