/-
**Numbers that sum up a file.**

A digest takes a message in blocks of 64 bytes.  The message is filled up to whole blocks: a bit,
zeros and its length come after it.

Main definitions:

* `LtoBridge.Programs.Digest`: how a message is summed up;
* `LtoBridge.Programs.Digest.md5`, `LtoBridge.Programs.Digest.sha1`,
  `LtoBridge.Programs.Digest.sha256`;
* `LtoBridge.Programs.sums`: show digests of files;
* `LtoBridge.Programs.cksum`, `LtoBridge.Programs.base64`.
-/

import LtoBridge.Programs.Extract

set_option autoImplicit false

namespace LtoBridge.Programs

/-- How a message is summed up: words that blocks change one after the other. -/
structure Digest where
  /-- Does the first byte of a word count most? -/
  bigFirst : Bool
  start : Array UInt32
  /-- The words after a block, which has 16 words. -/
  block : Array UInt32 → Array UInt32 → Array UInt32

namespace Digest

/-- A word turned by some bits to the left. -/
def turn (x : UInt32) (n : UInt32) : UInt32 := (x <<< n) ||| (x >>> (32 - n))

/-- The word with four bytes. -/
def wordOf (bigFirst : Bool) (bytes : List UInt8) : UInt32 :=
  (if bigFirst then bytes else bytes.reverse).foldl (fun n b => (n <<< 8) ||| b.toUInt32) 0

/-- The four bytes of a word. -/
def bytesOf (bigFirst : Bool) (x : UInt32) : List UInt8 :=
  let bytes := [(x >>> 24).toUInt8, (x >>> 16).toUInt8, (x >>> 8).toUInt8, x.toUInt8]
  if bigFirst then bytes else bytes.reverse

/-- A message filled up to whole blocks. -/
def padded (bigFirst : Bool) (message : List UInt8) : List UInt8 :=
  let bits := 8 * message.length
  let length := (List.range 8).map fun i => UInt8.ofNat (bits >>> (8 * i))
  let zeros := (64 - (message.length + 9) % 64) % 64
  message ++ 0x80 :: List.replicate zeros 0 ++ (if bigFirst then length.reverse else length)

/-- The words of a message after those of blocks, each of which takes 64 bytes. -/
def blocks (d : Digest) : (fuel : Nat) → (state : Array UInt32) → List UInt8 → Array UInt32
  | 0, state, _ => state
  | fuel + 1, state, bytes =>
      if bytes.isEmpty then state
      else
        let words := (List.range 16).map fun i => wordOf d.bigFirst ((bytes.drop (4 * i)).take 4)
        blocks d fuel (d.block state words.toArray) (bytes.drop 64)

/-- The digest of a message. -/
def of (d : Digest) (message : List UInt8) : List UInt8 :=
  let bytes := padded d.bigFirst message
  (d.blocks (bytes.length / 64 + 1) d.start bytes).toList.flatMap (bytesOf d.bigFirst)

/-- Words added one by one. -/
def added (a b : Array UInt32) : Array UInt32 := (a.zip b).map fun (x, y) => x + y

/-- The fractional parts of sines. -/
def sines : Array UInt32 :=
  #[0xd76aa478, 0xe8c7b756, 0x242070db, 0xc1bdceee, 0xf57c0faf, 0x4787c62a, 0xa8304613, 0xfd469501,
    0x698098d8, 0x8b44f7af, 0xffff5bb1, 0x895cd7be, 0x6b901122, 0xfd987193, 0xa679438e, 0x49b40821,
    0xf61e2562, 0xc040b340, 0x265e5a51, 0xe9b6c7aa, 0xd62f105d, 0x02441453, 0xd8a1e681, 0xe7d3fbc8,
    0x21e1cde6, 0xc33707d6, 0xf4d50d87, 0x455a14ed, 0xa9e3e905, 0xfcefa3f8, 0x676f02d9, 0x8d2a4c8a,
    0xfffa3942, 0x8771f681, 0x6d9d6122, 0xfde5380c, 0xa4beea44, 0x4bdecfa9, 0xf6bb4b60, 0xbebfbc70,
    0x289b7ec6, 0xeaa127fa, 0xd4ef3085, 0x04881d05, 0xd9d4d039, 0xe6db99e5, 0x1fa27cf8, 0xc4ac5665,
    0xf4292244, 0x432aff97, 0xab9423a7, 0xfc93a039, 0x655b59c3, 0x8f0ccc92, 0xffeff47d, 0x85845dd1,
    0x6fa87e4f, 0xfe2ce6e0, 0xa3014314, 0x4e0811a1, 0xf7537e82, 0xbd3af235, 0x2ad7d2bb, 0xeb86d391]

/-- The turns of the rounds of `md5`. -/
def md5Turns : Array (Array UInt32) :=
  #[#[7, 12, 17, 22], #[5, 9, 14, 20], #[4, 11, 16, 23], #[6, 10, 15, 21]]

/-- The digest of 128 bits. -/
def md5 : Digest where
  bigFirst := false
  start := #[0x67452301, 0xefcdab89, 0x98badcfe, 0x10325476]
  block state words :=
    let step (s : UInt32 × UInt32 × UInt32 × UInt32) (i : Nat) :
        UInt32 × UInt32 × UInt32 × UInt32 :=
      let (a, b, c, d) := s
      let (f, g) : UInt32 × Nat :=
        if i < 16 then ((b &&& c) ||| (~~~b &&& d), i)
        else if i < 32 then ((d &&& b) ||| (~~~d &&& c), (5 * i + 1) % 16)
        else if i < 48 then (b ^^^ c ^^^ d, (3 * i + 5) % 16)
        else (c ^^^ (b ||| ~~~d), (7 * i) % 16)
      let sum := a + f + sines.getD i 0 + words.getD g 0
      let n := (md5Turns.getD (i / 16) #[]).getD (i % 4) 0
      (d, b + turn sum n, b, c)
    let (a, b, c, d) := (List.range 64).foldl step
      (state.getD 0 0, state.getD 1 0, state.getD 2 0, state.getD 3 0)
    added state #[a, b, c, d]

/-- The digest of 160 bits. -/
def sha1 : Digest where
  bigFirst := true
  start := #[0x67452301, 0xefcdab89, 0x98badcfe, 0x10325476, 0xc3d2e1f0]
  block state words :=
    let words := (List.range 64).foldl (fun (w : Array UInt32) i =>
      let at_ (n : Nat) : UInt32 := w.getD (i + 16 - n) 0
      w.push (turn (at_ 3 ^^^ at_ 8 ^^^ at_ 14 ^^^ at_ 16) 1)) words
    let step (s : Array UInt32) (i : Nat) : Array UInt32 :=
      let at_ (n : Nat) : UInt32 := s.getD n 0
      let b := at_ 1
      let c := at_ 2
      let d := at_ 3
      let (f, k) : UInt32 × UInt32 :=
        if i < 20 then ((b &&& c) ||| (~~~b &&& d), 0x5a827999)
        else if i < 40 then (b ^^^ c ^^^ d, 0x6ed9eba1)
        else if i < 60 then ((b &&& c) ||| (b &&& d) ||| (c &&& d), 0x8f1bbcdc)
        else (b ^^^ c ^^^ d, 0xca62c1d6)
      #[turn (at_ 0) 5 + f + at_ 4 + k + words.getD i 0, at_ 0, turn b 30, c, d]
    added state ((List.range 80).foldl step state)

/-- The fractional parts of cube roots. -/
def cubeRoots : Array UInt32 :=
  #[0x428a2f98, 0x71374491, 0xb5c0fbcf, 0xe9b5dba5, 0x3956c25b, 0x59f111f1, 0x923f82a4, 0xab1c5ed5,
    0xd807aa98, 0x12835b01, 0x243185be, 0x550c7dc3, 0x72be5d74, 0x80deb1fe, 0x9bdc06a7, 0xc19bf174,
    0xe49b69c1, 0xefbe4786, 0x0fc19dc6, 0x240ca1cc, 0x2de92c6f, 0x4a7484aa, 0x5cb0a9dc, 0x76f988da,
    0x983e5152, 0xa831c66d, 0xb00327c8, 0xbf597fc7, 0xc6e00bf3, 0xd5a79147, 0x06ca6351, 0x14292967,
    0x27b70a85, 0x2e1b2138, 0x4d2c6dfc, 0x53380d13, 0x650a7354, 0x766a0abb, 0x81c2c92e, 0x92722c85,
    0xa2bfe8a1, 0xa81a664b, 0xc24b8b70, 0xc76c51a3, 0xd192e819, 0xd6990624, 0xf40e3585, 0x106aa070,
    0x19a4c116, 0x1e376c08, 0x2748774c, 0x34b0bcb5, 0x391c0cb3, 0x4ed8aa4a, 0x5b9cca4f, 0x682e6ff3,
    0x748f82ee, 0x78a5636f, 0x84c87814, 0x8cc70208, 0x90befffa, 0xa4506ceb, 0xbef9a3f7, 0xc67178f2]

/-- The digest of 256 bits. -/
def sha256 : Digest where
  bigFirst := true
  start := #[0x6a09e667, 0xbb67ae85, 0x3c6ef372, 0xa54ff53a, 0x510e527f, 0x9b05688c, 0x1f83d9ab,
    0x5be0cd19]
  block state words :=
    let words := (List.range 48).foldl (fun (w : Array UInt32) i =>
      let at_ (n : Nat) : UInt32 := w.getD (i + 16 - n) 0
      let x := at_ 15
      let y := at_ 2
      let s := turn x 25 ^^^ turn x 14 ^^^ (x >>> 3)
      let t := turn y 15 ^^^ turn y 13 ^^^ (y >>> 10)
      w.push (at_ 16 + s + at_ 7 + t)) words
    let step (s : Array UInt32) (i : Nat) : Array UInt32 :=
      let at_ (n : Nat) : UInt32 := s.getD n 0
      let a := at_ 0
      let e := at_ 4
      let s1 := turn e 26 ^^^ turn e 21 ^^^ turn e 7
      let choice := (e &&& at_ 5) ^^^ (~~~e &&& at_ 6)
      let first := at_ 7 + s1 + choice + cubeRoots.getD i 0 + words.getD i 0
      let s0 := turn a 30 ^^^ turn a 19 ^^^ turn a 10
      let majority := (a &&& at_ 1) ^^^ (a &&& at_ 2) ^^^ (at_ 1 &&& at_ 2)
      #[first + s0 + majority, a, at_ 1, at_ 2, at_ 3 + first, e, at_ 5, at_ 6]
    added state ((List.range 64).foldl step state)

end Digest

/-! ### Programs -/

/-- The digest of a text in hexadecimal digits. -/
def Digest.shown (d : Digest) (text : Text) : Text :=
  (d.of (Text.bytes text)).flatMap fun b => Text.pad false '0' 2 (Nat.toDigits 16 b.toNat)

/-- The digest and the name in a line that tells both. -/
def listedDigest? (tag line : Text) : Option (Text × Text) :=
  let heading := tag ++ " (".toList
  if heading.isPrefixOf line then do
    let (name, digits) ← Text.cutAt? ") = ".toList (line.drop heading.length)
    some (digits, name)
  else
    let digits := line.takeWhile (· != ' ')
    match line.drop digits.length with
    | ' ' :: mark :: name =>
        if (mark = ' ' ∨ mark = '*') ∧ ¬ name.isEmpty then some (digits, name) else none
    | _ => none

/-- Compare digests of files with those that the lines of a text tell.  The level says how little is
shown: what is right is left out, or everything. -/
def checkDigests (program : String) (d : Digest) (tag : Text) (level : Nat) (text : Text)
    (j : Job) : Nat × Job :=
  let lines := (Text.lines text).map Text.chopped
  let size := 2 * (d.of []).length
  let entries := (lines.filterMap (listedDigest? tag)).filter fun entry => entry.1.length == size
  let say (wanted : Nat) (text : Text) (j : Job) : Job :=
    if level ≤ wanted then j.print (text ++ ['\n']) else j
  if entries.isEmpty then
    (1, j.complain (program.toList ++ ": no properly formatted checksum lines found".toList))
  else entries.foldl (fun (status, j) (digits, name) =>
    match j.fileText name with
    | (.error e, j) => (1, say 1 (name ++ ": FAILED open or read".toList) (j.blame program name e))
    | (.ok text, j) =>
        if d.shown text = digits.map Char.toLower then (status, say 0 (name ++ ": OK".toList) j)
        else (1, say 1 (name ++ ": FAILED".toList) j)) (0, j)

/-- Show digests of files, or check them. -/
def sums (program : String) (d : Digest) : Tool := fun arguments j =>
  let grammar : Grammar :=
    { letters := "bctTqswz"
      words := [("binary", 'b'), ("check", 'c'), ("text", 't'), ("tag", 'T'), ("quiet", 'q'),
        ("status", 's'), ("warn", 'w'), ("zero", 'z')] }
  let tag := (program.toList.dropLast.dropLast.dropLast).map Char.toUpper
  match grammar.read arguments with
  | none => misused program 1 j
  | some r =>
      if r.has 'c' then
        let (text, status, j) := allInputs program r.operands j
        let level := if r.has 's' then 2 else if r.has 'q' then 1 else 0
        let (checked, j) := checkDigests program d tag level text j
        (max status checked, j)
      else eachInput program r.operands j fun name text j =>
        let ending := if r.has 'z' then '\x00' else '\n'
        j.print (if r.has 'T' then
            tag ++ " (".toList ++ name ++ ") = ".toList ++ d.shown text ++ [ending]
          else d.shown text ++ [' ', if r.has 'b' then '*' else ' '] ++ name ++ [ending])

/-- A remainder with one more byte. -/
def checkByte (remainder : UInt32) (byte : UInt8) : UInt32 :=
  (List.range 8).foldl (fun r _ =>
    if r &&& 0x80000000 != 0 then (r <<< 1) ^^^ 0x04c11db7 else r <<< 1)
    (remainder ^^^ (byte.toUInt32 <<< 24))

/-- The bytes of a length, the least one first. -/
def lengthBytes : (fuel : Nat) → Nat → List UInt8
  | 0, _ => []
  | fuel + 1, n => if n = 0 then [] else UInt8.ofNat n :: lengthBytes fuel (n / 256)

/-- Show remainders and sizes of files. -/
def cksum : Tool := fun arguments j =>
  eachInput "cksum" arguments j fun name text j =>
    let bytes := Text.bytes text
    let remainder := (bytes ++ lengthBytes 20 bytes.length).foldl checkByte 0
    j.print (Text.decimal (~~~remainder).toNat ++ ' ' :: Text.decimal bytes.length ++
      (if arguments.isEmpty then [] else ' ' :: name) ++ ['\n'])

/-- The digits of base 64. -/
def digits64 : Array Char :=
  "ABCDEFGHIJKLMNOPQRSTUVWXYZabcdefghijklmnopqrstuvwxyz0123456789+/".toList.toArray

/-- A text in base 64. -/
def encoded64 : Text → Text
  | [] => []
  | [a] =>
      let n := a.toNat * 16
      [digits64.getD (n / 64) '=', digits64.getD (n % 64) '=', '=', '=']
  | [a, b] =>
      let n := (a.toNat * 256 + b.toNat) * 4
      [digits64.getD (n / 4096) '=', digits64.getD (n / 64 % 64) '=', digits64.getD (n % 64) '=',
        '=']
  | a :: b :: c :: rest =>
      let n := (a.toNat * 256 + b.toNat) * 256 + c.toNat
      [digits64.getD (n / 262144) '=', digits64.getD (n / 4096 % 64) '=',
        digits64.getD (n / 64 % 64) '=', digits64.getD (n % 64) '='] ++ encoded64 rest

/-- The text that has been written in base 64, as far as it has. -/
def decoded64 (bits size : Nat) : Text → Text × Bool
  | [] => ([], size = 0)
  | '\n' :: rest => decoded64 bits size rest
  | '=' :: rest => ([], rest.all fun c => c == '=' || c == '\n')
  | c :: rest =>
      match digits64.findIdx? (· == c) with
      | none => ([], false)
      | some n =>
          let bits := bits * 64 + n
          let size := size + 6
          if size < 8 then decoded64 bits size rest
          else
            let size := size - 8
            let (text, good) := decoded64 (bits % (1 <<< size)) size rest
            (Char.ofNat (bits >>> size) :: text, good)

/-- The lines of a text that is cut after some characters; each has at least one. -/
def cutLines (width : Nat) : (fuel : Nat) → Text → Text
  | 0, text => text
  | fuel + 1, text =>
      if text.isEmpty then [] else text.take width ++ '\n' :: cutLines width fuel (text.drop width)

/-- Write the input in base 64, or read it. -/
def base64 : Tool := fun arguments j =>
  let grammar : Grammar :=
    { letters := "diw:", words := [("decode", 'd'), ("ignore-garbage", 'i'), ("wrap", 'w')] }
  match grammar.read arguments with
  | none => misused "base64" 1 j
  | some r =>
      let (text, status, j) := allInputs "base64" r.operands j
      if status ≠ 0 then (status, j)
      else if r.has 'd' then
        let (text, good) := decoded64 0 0 text
        (if good then 0 else 1, j.print text)
      else
        let digits := encoded64 text
        let width := ((r.value? 'w').bind Text.number?).getD 76
        (0, j.print (if width = 0 then digits else cutLines width (digits.length + 1) digits))

end LtoBridge.Programs
