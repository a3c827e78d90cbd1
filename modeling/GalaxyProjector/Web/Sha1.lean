import GalaxyProjector.Bytes

/-!
SHA-1 (FIPS 180-4), which the WebSocket handshake needs for its accept key.
The message is padded with a one bit, zeros and its length in bits to a
multiple of 64 bytes, and each 64-byte block is mixed into five 32-bit words
over eighty rounds.
-/

namespace GalaxyProjector

namespace Sha1

def rotl (x : UInt32) (n : UInt32) : UInt32 := (x <<< n) ||| (x >>> (32 - n))

def pad (msg : Bytes) : Bytes :=
  let zeros := (119 - msg.length % 64) % 64
  msg ++ [0x80] ++ List.replicate zeros 0 ++ Bytes.bigEndian 8 (msg.length * 8)

def words : Bytes → List UInt32
  | a :: b :: c :: d :: rest =>
    ((a.toUInt32 <<< 24) ||| (b.toUInt32 <<< 16) ||| (c.toUInt32 <<< 8) ||| d.toUInt32) :: words rest
  | _ => []

/-- The eighty round words from a block's sixteen. -/
def schedule (w : List UInt32) : Array UInt32 :=
  (List.range 64).foldl (fun (a : Array UInt32) i =>
    a.push (rotl (a[i + 13]! ^^^ a[i + 8]! ^^^ a[i + 2]! ^^^ a[i]!) 1)) w.toArray

def compress (h : UInt32 × UInt32 × UInt32 × UInt32 × UInt32) (block : Bytes) :
    UInt32 × UInt32 × UInt32 × UInt32 × UInt32 :=
  let w := schedule (words block)
  let (h0, h1, h2, h3, h4) := h
  let (a, b, c, d, e) := (List.range 80).foldl (fun (s : UInt32 × UInt32 × UInt32 × UInt32 × UInt32) i =>
    let (a, b, c, d, e) := s
    let (f, k) : UInt32 × UInt32 :=
      if i < 20 then ((b &&& c) ||| (~~~b &&& d), 0x5A827999)
      else if i < 40 then (b ^^^ c ^^^ d, 0x6ED9EBA1)
      else if i < 60 then ((b &&& c) ||| (b &&& d) ||| (c &&& d), 0x8F1BBCDC)
      else (b ^^^ c ^^^ d, 0xCA62C1D6)
    (rotl a 5 + f + e + k + w[i]!, a, rotl b 30, c, d)) h
  (h0 + a, h1 + b, h2 + c, h3 + d, h4 + e)

def blocks (b : Bytes) : List Bytes :=
  if h : b.length ≤ 64 then [b]
  else
    have : (b.drop 64).length < b.length := by simp only [List.length_drop]; omega
    b.take 64 :: blocks (b.drop 64)
  termination_by b.length

/-- The digest of a message: twenty bytes. -/
def digest (msg : Bytes) : Bytes :=
  let (h0, h1, h2, h3, h4) := (blocks (pad msg)).foldl compress
    (0x67452301, 0xEFCDAB89, 0x98BADCFE, 0x10325476, 0xC3D2E1F0)
  [h0, h1, h2, h3, h4].flatMap fun x => Bytes.bigEndian 4 x.toNat

end Sha1

end GalaxyProjector
