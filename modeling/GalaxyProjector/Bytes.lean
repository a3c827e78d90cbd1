/-!
Byte strings: the payloads of frames, segments and messages, as lists of
bytes, with big-endian numbers, search and splitting; and the two ways the
server turns text into bytes and back.

* UTF-8. A well-formed sequence is a lead byte and the continuation bytes its
  range allows (no overlong forms, no surrogates, nothing above U+10FFFF).
  Lossy decoding puts one U+FFFD for each maximal ill-formed part: a lead byte
  with the continuation bytes that still fitted, or one stray byte.
* Base64 with the standard alphabet and `=` padding (RFC 4648).
-/

namespace GalaxyProjector

abbrev Bytes := List UInt8

namespace Bytes

/-- The big-endian bytes of a number, `n` of them (higher bytes are cut off). -/
def bigEndian (n v : Nat) : Bytes := (List.range n).reverse.map fun i => UInt8.ofNat (v / Nat.pow 256 i % 256)

def ofBigEndian (b : Bytes) : Nat := b.foldl (fun acc x => acc * 256 + x.toNat) 0

def find? (pat b : Bytes) : Option Nat :=
  (List.range (b.length + 1)).find? fun i => pat.isPrefixOf (b.drop i)

/-- Split at every occurrence of a separator, given as its first byte `s` and
the rest `ss`; `cur` holds the current piece, reversed. -/
def split (s : UInt8) (ss : Bytes) (cur : Bytes) (b : Bytes) : List Bytes :=
  match b with
  | [] => [cur.reverse]
  | x :: xs =>
    if (s :: ss).isPrefixOf (x :: xs) then
      have : ((x :: xs).drop (ss.length + 1)).length < (x :: xs).length := by
        simp only [List.length_drop, List.length_cons]; omega
      cur.reverse :: split s ss [] ((x :: xs).drop (ss.length + 1))
    else split s ss (x :: cur) xs
  termination_by b.length

end Bytes

namespace Utf8

def lead (b : UInt8) : Option (Nat × UInt8 × UInt8 × Nat) :=
  let n := b.toNat
  if n < 0x80 then some (1, 0, 0, n)
  else if 0xC2 ≤ n && n ≤ 0xDF then some (2, 0x80, 0xBF, n &&& 0x1F)
  else if n == 0xE0 then some (3, 0xA0, 0xBF, n &&& 0x0F)
  else if n == 0xED then some (3, 0x80, 0x9F, n &&& 0x0F)
  else if 0xE1 ≤ n && n ≤ 0xEF then some (3, 0x80, 0xBF, n &&& 0x0F)
  else if n == 0xF0 then some (4, 0x90, 0xBF, n &&& 0x07)
  else if n == 0xF4 then some (4, 0x80, 0x8F, n &&& 0x07)
  else if 0xF1 ≤ n && n ≤ 0xF3 then some (4, 0x80, 0xBF, n &&& 0x07)
  else none

/-- Read continuation bytes: `k` more are needed, the first within `lo..hi`.
The result is the code point and the rest, or the number of bytes that fitted
and the rest after them. -/
def continuation (k : Nat) (lo hi : UInt8) (acc taken : Nat) : Bytes → Sum (Nat × Bytes) (Nat × Bytes)
  | [] => if k == 0 then .inl (acc, []) else .inr (taken, [])
  | b :: rest =>
    if k == 0 then .inl (acc, b :: rest)
    else if lo ≤ b && b ≤ hi then
      continuation (k - 1) 0x80 0xBF (acc * 64 + (b.toNat &&& 0x3F)) (taken + 1) rest
    else .inr (taken, b :: rest)

/-- Decode one character from the front, or say how many bytes form an
ill-formed part (at least one). -/
def next : Bytes → Option (Sum (Char × Bytes) Bytes)
  | [] => none
  | b :: rest =>
    match lead b with
    | none => some (.inr rest)
    | some (len, lo, hi, bits) =>
      match continuation (len - 1) lo hi bits 1 rest with
      | .inl (cp, rest') => some (.inl (Char.ofNat cp, rest'))
      | .inr (_, rest') => some (.inr rest')

def pieces (fuel : Nat) (b : Bytes) : List (Option Char) :=
  match fuel with
  | 0 => []
  | fuel + 1 =>
    match next b with
    | none => []
    | some (.inl (c, rest)) => some c :: pieces fuel rest
    | some (.inr rest) => none :: pieces fuel rest

def valid (b : Bytes) : Bool := (pieces (b.length + 1) b).all Option.isSome

/-- Decode, replacing each ill-formed part with U+FFFD. -/
def decodeLossy (b : Bytes) : String :=
  String.ofList ((pieces (b.length + 1) b).map fun c => c.getD '�')

def encode (s : String) : Bytes := s.toUTF8.toList

end Utf8

namespace Base64

def alphabet : List Char :=
  "ABCDEFGHIJKLMNOPQRSTUVWXYZabcdefghijklmnopqrstuvwxyz0123456789+/".toList

def digit (n : Nat) : Char := alphabet.getD (n % 64) '='

def encode : Bytes → String
  | a :: b :: c :: rest =>
    let n := (a.toNat <<< 16) ||| (b.toNat <<< 8) ||| c.toNat
    String.ofList [digit (n >>> 18), digit (n >>> 12), digit (n >>> 6), digit n] ++ encode rest
  | [a, b] =>
    let n := (a.toNat <<< 16) ||| (b.toNat <<< 8)
    String.ofList [digit (n >>> 18), digit (n >>> 12), digit (n >>> 6), '=']
  | [a] =>
    let n := a.toNat <<< 16
    String.ofList [digit (n >>> 18), digit (n >>> 12), '=', '=']
  | [] => ""

end Base64

end GalaxyProjector
