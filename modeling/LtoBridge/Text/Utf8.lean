/-
**Reading bytes as text.**

A byte string falls into *pieces*: the characters that it encodes in UTF-8 and, between them, the
parts that encode nothing.  Such a part is as long as possible: it is the beginning of a character
up to the first byte that cannot continue it, or a single byte that cannot begin one.

Main definitions:

* `LtoBridge.Utf8.pieces`: the pieces of a byte string, from left to right;
* `LtoBridge.Utf8.lossy`: the text with a replacement character for each part that is not one;
* `LtoBridge.Utf8.decode`: the text, or where it stops being one.
-/

import LtoBridge.Bytes

set_option autoImplicit false

namespace LtoBridge.Utf8

/-- A piece of a byte string: a character, a part that no character can begin with, or the
beginning of a character that the end of the data cuts off. -/
inductive Piece
  | char (c : Char)
  | broken (bytes : Bytes)
  | cut (bytes : Bytes)
  deriving DecidableEq

/-- A character of which some bytes have been seen: how many are still to come, the range that the
next one has to be in, the value so far and the bytes, last one first. -/
structure Begun where
  missing : Nat
  least : UInt8
  greatest : UInt8
  value : Nat
  seen : Bytes

/-- What a byte between characters does: it is a character, begins one, or is broken. -/
def begin (b : UInt8) : Piece ⊕ Begun :=
  if b < 0x80 then .inl (.char (Char.ofNat b.toNat))
  else if b < 0xC2 then .inl (.broken [b])
  else if b < 0xE0 then .inr ⟨1, 0x80, 0xBF, b.toNat - 0xC0, [b]⟩
  else if b = 0xE0 then .inr ⟨2, 0xA0, 0xBF, 0, [b]⟩
  else if b = 0xED then .inr ⟨2, 0x80, 0x9F, 0xD, [b]⟩
  else if b < 0xF0 then .inr ⟨2, 0x80, 0xBF, b.toNat - 0xE0, [b]⟩
  else if b = 0xF0 then .inr ⟨3, 0x90, 0xBF, 0, [b]⟩
  else if b < 0xF4 then .inr ⟨3, 0x80, 0xBF, b.toNat - 0xF0, [b]⟩
  else if b = 0xF4 then .inr ⟨3, 0x80, 0x8F, 4, [b]⟩
  else .inl (.broken [b])

/-- The pieces found so far, last one first, and the character that has been begun. -/
structure Progress where
  found : List Piece
  begun : Option Begun

/-- A byte between characters. -/
def Progress.fresh (found : List Piece) (b : UInt8) : Progress :=
  match begin b with
  | .inl piece => ⟨piece :: found, none⟩
  | .inr begun => ⟨found, some begun⟩

/-- The next byte continues the character that has been begun, completes it, or leaves it broken
and stands between characters. -/
def Progress.feed (p : Progress) (b : UInt8) : Progress :=
  match p.begun with
  | none => .fresh p.found b
  | some g =>
      if g.least ≤ b ∧ b ≤ g.greatest then
        let value := g.value * 64 + (b.toNat - 0x80)
        if g.missing ≤ 1 then ⟨.char (Char.ofNat value) :: p.found, none⟩
        else ⟨p.found, some ⟨g.missing - 1, 0x80, 0xBF, value, b :: g.seen⟩⟩
      else .fresh (.broken g.seen.reverse :: p.found) b

/-- All pieces, in order, once the data have ended. -/
def Progress.finish (p : Progress) : List Piece :=
  match p.begun with
  | none => p.found.reverse
  | some g => (.cut g.seen.reverse :: p.found).reverse

/-- **The pieces of a byte string.** -/
def pieces (bs : Bytes) : List Piece :=
  (bs.foldl Progress.feed ⟨[], none⟩).finish

/-- A character, or the replacement character for anything else. -/
def Piece.shown : Piece → Char
  | .char c => c
  | _ => '\uFFFD'

/-- The text of a byte string, with one replacement character for each part that is not text. -/
def lossy (bs : Bytes) : String :=
  String.ofList ((pieces bs).map Piece.shown)

/-! ### Strict decoding -/

/-- Where and how a byte string stops being text: `length` bytes from `index` on are broken, or
the data end within a character. -/
structure Fault where
  index : Nat
  broken : Option Nat
  deriving DecidableEq

/-- The characters of the pieces, or the first fault; `index` is where the pieces begin. -/
def characters (index : Nat) : List Piece → Except Fault (List Char)
  | [] => .ok []
  | .char c :: rest => (characters (index + c.utf8Size) rest).map (c :: ·)
  | .broken bytes :: _ => .error ⟨index, some bytes.length⟩
  | .cut _ :: _ => .error ⟨index, none⟩

/-- The text that a byte string encodes. -/
def decode (bs : Bytes) : Except Fault String :=
  (characters 0 (pieces bs)).map String.ofList

/-- The wording of a fault. -/
def Fault.message (f : Fault) : String :=
  match f.broken with
  | some n => s!"invalid utf-8 sequence of {n} bytes from index {f.index}"
  | none => s!"incomplete utf-8 byte sequence from index {f.index}"

end LtoBridge.Utf8
