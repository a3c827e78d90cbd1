import GalaxyProjector.Bytes

/-!
WebSocket frames (RFC 6455). A frame is a byte with FIN and the opcode, a
byte with the mask bit and a 7-bit length (126 and 127 announce a 16- or
64-bit length), the mask key if masked, and the payload.

The server reads a message frame by frame, each piece with an exact read:
the two header bytes, the extended length, the mask, the payload. Before the
payload it checks that the message still fits its 256-byte buffer (otherwise
1002); after it, that the opcode is known (otherwise 1003). A message is a
first frame of any kind, control frames included, followed while FIN is clear
by continuation frames; a continuation with nothing to continue, or another
kind inside a message, is 1002. A text message must be UTF-8, and so must the
reason of a close (otherwise 1007).
-/

namespace GalaxyProjector

namespace WebSocket

def clientMask : Bytes := [0x11, 0x22, 0x33, 0x44]

def applyMask (mask payload : Bytes) : Bytes :=
  payload.mapIdx fun i b => b ^^^ mask.getD (i % 4) 0

/-- A final frame with opcode `op`, masked with `mask` if given. -/
def encode (op : Nat) (payload : Bytes) (mask : Option Bytes) : Bytes :=
  let n := payload.length
  let m : UInt8 := if mask.isSome then 0x80 else 0
  let len : Bytes :=
    if n < 126 then [m ||| UInt8.ofNat n]
    else if n < 65536 then (m ||| 126) :: Bytes.bigEndian 2 n
    else (m ||| 127) :: Bytes.bigEndian 8 n
  let b0 : UInt8 := 0x80 ||| UInt8.ofNat op
  match mask with
  | some k => b0 :: len ++ k ++ applyMask k payload
  | none => b0 :: len ++ payload

/-- The name of an opcode; the reserved ones are all `other`. -/
def opName (op : Nat) : String :=
  match op with
  | 0 => "continuation"
  | 1 => "text"
  | 2 => "binary"
  | 8 => "close"
  | 9 => "ping"
  | 10 => "pong"
  | _ => "other"

def knownOp (op : Nat) : Bool := [0, 1, 2, 8, 9, 10].contains op

inductive Message where
  | text (s : String)
  | binary (b : Bytes)
  | ping (b : Bytes)
  | pong (b : Bytes)
  | close (b : Bytes)
  | failed (code : Nat)
  deriving DecidableEq, Repr, Inhabited

inductive Piece where
  | header
  | length16 (b0 b1 : UInt8)
  | length64 (b0 b1 : UInt8)
  | maskKey (b0 : UInt8) (len : Nat)
  | payload (b0 : UInt8) (len : Nat) (mask : Option Bytes)
  deriving DecidableEq, Repr, Inhabited

def Piece.size : Piece → Nat
  | .header => 2
  | .length16 .. => 2
  | .length64 .. => 8
  | .maskKey .. => 4
  | .payload _ len _ => len

structure Reader where
  piece : Piece := .header
  got : Bytes := []
  data : Bytes := []
  kind : Option Nat := none
  deriving DecidableEq, Repr, Inhabited

namespace Reader

def missing (r : Reader) : Nat := r.piece.size - r.got.length

def enter (r : Reader) (p : Piece) : Reader := { r with piece := p, got := [] }

/-- The length is known: read the mask, or the payload if it still fits the
message buffer (otherwise 1002). -/
def lengthKnown (r : Reader) (b0 b1 : UInt8) (len : Nat) : Sum Message Reader :=
  if b1 &&& 0x80 != 0 then .inr (r.enter (.maskKey b0 len))
  else if r.data.length + len > 256 then .inl (.failed 1002)
  else .inr (r.enter (.payload b0 len none))

def complete (kind : Nat) (data : Bytes) : Message :=
  if kind == 1 then
    if Utf8.valid data then .text (Utf8.decodeLossy data) else .failed 1007
  else if kind == 8 then
    if data.length ≥ 2 && !Utf8.valid (data.drop 2) then .failed 1007 else .close data
  else if kind == 9 then .ping data
  else if kind == 10 then .pong data
  else .binary data

/-- The current piece is complete: the message, or the reader going on. -/
def advance (r : Reader) : Sum Message Reader :=
  match r.piece with
  | .header =>
    let b0 := r.got.getD 0 0
    let b1 := r.got.getD 1 0
    let len := (b1 &&& 0x7F).toNat
    if len == 126 then .inr (r.enter (.length16 b0 b1))
    else if len == 127 then .inr (r.enter (.length64 b0 b1))
    else r.lengthKnown b0 b1 len
  | .length16 b0 b1 => r.lengthKnown b0 b1 (Bytes.ofBigEndian r.got)
  | .length64 b0 b1 => r.lengthKnown b0 b1 (Bytes.ofBigEndian r.got)
  | .maskKey b0 len =>
    if r.data.length + len > 256 then .inl (.failed 1002)
    else .inr (r.enter (.payload b0 len (some r.got)))
  | .payload b0 _ mask =>
    let pl := match mask with
      | some k => applyMask k r.got
      | none => r.got
    let op := (b0 &&& 0x0F).toNat
    if !knownOp op then .inl (.failed 1003)
    else
      let kind : Option Nat := match r.kind with
        | none => if op == 0 then none else some op
        | some k => if op == 0 then some k else none
      match kind with
      | none => .inl (.failed 1002)
      | some k =>
        let data := r.data ++ pl
        if b0 &&& 0x80 == 0 then .inr { piece := .header, got := [], data, kind := some k }
        else .inl (complete k data)

end Reader

end WebSocket

end GalaxyProjector
