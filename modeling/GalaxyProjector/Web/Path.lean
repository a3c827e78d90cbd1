import GalaxyProjector.Bytes

/-!
A request path read as percent-encoded UTF-8, one character at a time, and
matched against a route.

Each byte is taken as written or from a `%` and two hex digits. The first byte
of a character has `n` leading one bits: with none it is the character itself;
otherwise its other bits and the low six bits of each of the `n - 1` bytes
after it, each of which must start with the bits `10`, make up the code point
(kept to 32 bits). Overlong forms are not refused, so `%C1%B7` reads as `w`.
A broken escape, a missing or wrong continuation byte, or a code point that is
not a character leaves the path unreadable from there on. The decoder keeps a
first byte's other bits by shifting it left and back right by `n`; a byte of
eight one bits makes that shift overflow, and the firmware panics (see
`shiftPanic`).

A route matches a path when the route's characters, read in turn from the
path, all agree and nothing of the path is left. Reading stops at the first
disagreement, so only the characters up to it are decoded.
-/

namespace GalaxyProjector

namespace Web

def hexValue (b : UInt8) : Option Nat :=
  if 48 ≤ b && b ≤ 57 then some (b.toNat - 48)
  else if 65 ≤ b && b ≤ 70 then some (b.toNat - 55)
  else if 97 ≤ b && b ≤ 102 then some (b.toNat - 87)
  else none

def shiftPanic : String := "attempt to shift left with overflow"

/-- The next byte of a path, written as it is or as `%` and two hex digits,
and the rest; nothing at the end or at a broken escape. -/
def pathByte : Bytes → Option (UInt8 × Bytes)
  | 37 :: h :: l :: rest =>
    match hexValue h, hexValue l with
    | some x, some y => some (UInt8.ofNat (x * 16 + y), rest)
    | _, _ => none
  | 37 :: _ => none
  | b :: rest => some (b, rest)
  | [] => none

def leadingOnes (b : UInt8) : Nat :=
  ((List.range 8).map fun i => b.toNat.testBit (7 - i)).takeWhile id |>.length

/-- Read `k` continuation bytes onto the code point `acc`: the code point and
the rest, or nothing if one is missing or does not start with the bits `10`. -/
def continueChar (acc : Nat) : Nat → Bytes → Option (Nat × Bytes)
  | 0, rest => some (acc, rest)
  | k + 1, rest =>
    match pathByte rest with
    | some (b, rest) =>
      if b &&& 0xC0 == 0x80 then continueChar ((acc * 64 + (b &&& 0x3F).toNat) % Nat.pow 2 32) k rest
      else none
    | none => none

inductive PathRead where
  | done
  | char (c : Char) (rest : Bytes)
  | bad
  | overflow
  deriving DecidableEq, Repr, Inhabited

def readPathChar (p : Bytes) : PathRead :=
  match pathByte p with
  | none => if p.isEmpty then .done else .bad
  | some (b, rest) =>
    let n := leadingOnes b
    if n == 0 then .char (Char.ofNat b.toNat) rest
    else if n == 8 then .overflow
    else
      match continueChar (b.toNat % Nat.pow 2 (8 - n)) (n - 1) rest with
      | some (v, rest) => if v.isValidChar then .char (Char.ofNat v) rest else .bad
      | none => .bad

/-- Read a route's characters from the front of a path: the rest of the path
if all agree, nothing at the first disagreement or unreadable character, and
the panic text if reading panics. -/
def stripRoute : List Char → Bytes → Except String (Option Bytes)
  | [], p => .ok (some p)
  | c :: cs, p =>
    match readPathChar p with
    | .char d rest => if d == c then stripRoute cs rest else .ok none
    | .overflow => .error shiftPanic
    | _ => .ok none

def pathIs (route : String) (p : Bytes) : Except String Bool :=
  (stripRoute route.toList p).map (· == some [])

end Web

end GalaxyProjector
