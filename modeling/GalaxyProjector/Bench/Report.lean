import GalaxyProjector.Bench.Session
import GalaxyProjector.Web.Http

/-!
What a session reports. Every session says when it connected, or why it
could not; when the server closed or reset the connection; and when a write
last failed. A raw HTTP session adds everything it received, as text. A
WebSocket session splits what it received at the first blank line: the
response head before it, and the frames after it, each with the millisecond
its last byte arrived; with no blank line there is no head, and frames are cut
from the start. Bytes after the last whole frame are reported as they are.
Text is decoded as UTF-8, with U+FFFD for what is not. A session still running when the run ends, or when
the firmware panics, reports no data.
-/

namespace GalaxyProjector

inductive FrameData where
  | text (s : String)
  | bytes (b : Bytes)
  | close (code : Nat) (reason : String)
  deriving DecidableEq, Repr, Inhabited

structure SeenFrame where
  time : Nat
  op : String
  fin : Bool
  data : FrameData
  deriving DecidableEq, Repr, Inhabited

structure SocketSeen where
  head : Option String
  frames : List SeenFrame
  trailing : Option Bytes
  deriving DecidableEq, Repr, Inhabited

structure SessionReport where
  connectedAt : Option Nat := none
  connectError : Option String := none
  eofAt : Option Nat := none
  writeErrorAt : Option Nat := none
  response : Option String := none
  socket : Option SocketSeen := none
  deriving DecidableEq, Repr, Inhabited

/-- Cut received frames from the front of `b`, whose bytes arrived at the
times `ts`; the frames and the bytes left over. -/
def cutFrames : Nat → Bytes → List Nat → List SeenFrame × Bytes
  | 0, b, _ => ([], b)
  | fuel + 1, b, ts =>
    match b with
    | b0 :: b1 :: more =>
      let len7 := (b1 &&& 0x7F).toNat
      let ext := if len7 == 126 then 2 else if len7 == 127 then 8 else 0
      if more.length < ext then ([], b)
      else
        let len := if ext == 0 then len7 else Bytes.ofBigEndian (more.take ext)
        let q := 2 + ext + (if b1 &&& 0x80 != 0 then 4 else 0)
        if b.length < q + len then ([], b)
        else
          let pl := (b.drop q).take len
          let time := ts.getD (q + len - 1) 0
          let op := (b0 &&& 0x0F).toNat
          let data :=
            if op == 1 then FrameData.text (Utf8.decodeLossy pl)
            else if op == 8 && pl.length ≥ 2 then .close (Bytes.ofBigEndian (pl.take 2)) (Utf8.decodeLossy (pl.drop 2))
            else .bytes pl
          let f : SeenFrame := { time, op := WebSocket.opName op, fin := b0 &&& 0x80 != 0, data }
          let (fs, left) := cutFrames fuel (b.drop (q + len)) (ts.drop (q + len))
          (f :: fs, left)
    | _ => ([], b)

/-- The report of a session cut short by the end of the run or a firmware
panic: what it noted as it went (the connection, the server's close, a failed
write), without the data it received, which a session only reports when it
ends. -/
def Transcript.cutShort (t : Transcript) : SessionReport :=
  { connectedAt := t.connectedAt, connectError := t.connectError, eofAt := t.eofAt, writeErrorAt := t.writeErrorAt }

def Transcript.report (t : Transcript) (p : Play) : SessionReport :=
  let base := t.cutShort
  if t.connectedAt.isNone then base
  else
    let data := t.chunks.flatMap (·.2)
    match p with
    | .http _ => { base with response := some (Utf8.decodeLossy data) }
    | .websocket .. =>
      let times := t.chunks.flatMap fun (ms, d) => List.replicate d.length ms
      let (head, skip) := match Bytes.find? [13, 10, 13, 10] data with
        | none => (none, 0)
        | some i => (some (Utf8.decodeLossy (data.take i)), i + 4)
      let (frames, left) := cutFrames (data.length + 1) (data.drop skip) (times.drop skip)
      { base with socket := some { head, frames, trailing := if left.isEmpty then none else some left } }

end GalaxyProjector
