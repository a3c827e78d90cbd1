import GalaxyProjector.Net.Segment
import GalaxyProjector.Net.Rtt
import GalaxyProjector.Tasking.Task

/-!
A TCP socket on a LAN that keeps order but may lose frames. Times are in
microseconds.

The socket follows the usual state diagram. Data waits in a send buffer until
acknowledged; received data waits in a receive buffer until read. What goes
out is decided when the interface asks (`dispatch`): one segment per ask,
holding new data, a SYN or FIN, an acknowledgement or a window update, or a
reset once the socket was aborted.

* Small segments wait while data is unacknowledged (Nagle), unless a FIN is
  due.
* An acknowledgement of received data waits up to 10 ms, and goes at once when
  two full segments are unacknowledged or when reading has at least doubled
  the window the peer last heard of.
* A retransmission timer runs while sent data is unacknowledged; when it fires
  everything unacknowledged is sent again.
* A synchronized socket takes in only what falls in its receive window, trimmed
  to it, and only acknowledgements of data it sent; a FIN counts only on a
  segment starting at the window. A segment outside the window, or
  acknowledging more than was sent, is answered at once with a bare
  acknowledgement, at most one a second; an old acknowledgement drops the
  segment silently. Data arriving ahead of a gap is dropped and answered at
  once with a bare acknowledgement.
* TIME-WAIT lasts ten seconds.

A socket wakes its reader and its writer when its state changes, its reader
when data arrives and its writer when sent data is acknowledged. The wakes are
returned, in order, for the caller to carry out.
-/

namespace GalaxyProjector

inductive TcpState where
  | closed
  | listen
  | synSent
  | synReceived
  | established
  | finWait1
  | finWait2
  | closing
  | timeWait
  | closeWait
  | lastAck
  deriving DecidableEq, Repr, Inhabited

inductive TcpTimer where
  | idle
  | retransmit (due : Nat)
  | close (due : Nat)
  deriving DecidableEq, Repr, Inhabited

inductive AckDelay where
  | idle
  | waiting (due : Nat)
  | immediate
  deriving DecidableEq, Repr, Inhabited

/-- A connection's two ends (IP address and TCP number), seen from this side. -/
structure Quad where
  localIp : Ipv4
  localPort : Nat
  remoteIp : Ipv4
  remotePort : Nat
  deriving DecidableEq, Repr, Inhabited

inductive Received where
  | data (d : Bytes)
  | finished
  | invalid
  deriving DecidableEq, Repr, Inhabited

/-- A TCP socket. -/
structure Endpoint where
  state : TcpState := .closed
  rx : Bytes := []
  rxCap : Nat
  tx : Bytes := []
  txCap : Nat
  quad : Option Quad := none
  listenPort : Option Nat := none
  localSeq : Nat := 0
  sentUpTo : Nat := 0
  remoteSeq : Nat := 0
  lastAckSent : Option Nat := none
  lastWindowSent : Nat := 0
  peerWindow : Nat := 0
  peerMss : Nat := 536
  ackDelay : AckDelay := .idle
  timer : TcpTimer := .idle
  rtt : Rtt := {}
  lastSeen : Option Nat := none
  rxWaker : Option Task := none
  txWaker : Option Task := none
  finReceived : Bool := false
  challengeAt : Nat := 0
  deriving Repr, Inhabited

namespace Endpoint

def initialSeq : Nat := 100000

/-- How long TIME-WAIT lasts. -/
def closeDelay : Nat := 10000000

def ackDelayTime : Nat := 10000

def new (rxCap txCap : Nat) : Endpoint := { rxCap, txCap }

def wakeRx (e : Endpoint) : Endpoint × List Task :=
  match e.rxWaker with
  | some t => ({ e with rxWaker := none }, [t])
  | none => (e, [])

def wakeTx (e : Endpoint) : Endpoint × List Task :=
  match e.txWaker with
  | some t => ({ e with txWaker := none }, [t])
  | none => (e, [])

def setState (e : Endpoint) (s : TcpState) : Endpoint × List Task :=
  let (e, w1) := { e with state := s }.wakeRx
  let (e, w2) := e.wakeTx
  (e, w1 ++ w2)

/-- Forget the connection, keeping the buffers' sizes, the wakers and the
sequence numbers. -/
def reset (e : Endpoint) : Endpoint :=
  { e with state := .closed, timer := .idle, quad := none, listenPort := none, rx := [], tx := [],
           peerWindow := 0, peerMss := 536, lastSeen := none, ackDelay := .idle, rtt := {},
           lastAckSent := none, lastWindowSent := 0, finReceived := false, challengeAt := 0 }

def listen (e : Endpoint) (n : Nat) : Endpoint × List Task :=
  { e.reset with listenPort := some n }.setState .listen

def connect (e : Endpoint) (q : Quad) : Endpoint × List Task :=
  let (e, w) := { e.reset with quad := some q }.setState .synSent
  ({ e with localSeq := initialSeq, sentUpTo := initialSeq }, w)

def maySend (e : Endpoint) : Bool := e.state == .established || e.state == .closeWait

def mayRecv (e : Endpoint) : Bool :=
  e.state == .established || e.state == .finWait1 || e.state == .finWait2 || !e.rx.isEmpty

/-- Queue as much of `data` as fits; none when sending is not possible. -/
def sendSlice (e : Endpoint) (data : Bytes) : Option (Nat × Endpoint) :=
  if !e.maySend then none
  else
    let n := min data.length (e.txCap - e.tx.length)
    let e' := { e with tx := e.tx ++ data.take n }
    some (n, if n > 0 && e.tx.isEmpty then { e' with lastSeen := none } else e')

def recvSlice (e : Endpoint) (n : Nat) : Received × Endpoint :=
  if !e.mayRecv then (if e.finReceived then .finished else .invalid, e)
  else
    let d := e.rx.take n
    (.data d, { e with rx := e.rx.drop n, remoteSeq := e.remoteSeq + d.length })

def close (e : Endpoint) : Endpoint × List Task :=
  match e.state with
  | .listen | .synSent => e.setState .closed
  | .synReceived | .established => e.setState .finWait1
  | .closeWait => e.setState .lastAck
  | _ => (e, [])

def abort (e : Endpoint) : Endpoint × List Task := e.setState .closed

def window (e : Endpoint) : Nat := e.rxCap - e.rx.length

def scaledWindow (e : Endpoint) : Nat := min e.window 65535

def nextAck (e : Endpoint) : Nat := e.remoteSeq + e.rx.length

def ackToTransmit (e : Endpoint) : Bool :=
  match e.lastAckSent with
  | some a => a < e.nextAck
  | none => false

def windowToUpdate (e : Endpoint) : Bool :=
  match e.state with
  | .synSent | .synReceived | .established | .finWait1 | .finWait2 =>
    match e.lastAckSent with
    | some a =>
      let last := min (a + e.lastWindowSent - e.nextAck) 65535
      e.scaledWindow > 0 && e.scaledWindow / 2 ≥ last
    | none => false
  | _ => false

def delayedAckExpired (e : Endpoint) (now : Nat) : Bool :=
  match e.ackDelay with
  | .waiting due => due ≤ now
  | _ => true

def immediateAck (e : Endpoint) : Bool :=
  match e.lastAckSent with
  | some a => e.nextAck - a ≥ 2 * e.peerMss
  | none => false

def wantFin (e : Endpoint) : Bool :=
  e.state == .finWait1 || e.state == .closing || e.state == .lastAck

/-- Whether there is a SYN, data or a FIN to send, with segments of at most
`mss` bytes. -/
def seqToTransmit (e : Endpoint) (mss : Nat) : Bool :=
  let inFlight := e.sentUpTo != e.localSeq
  if (e.state == .synSent || e.state == .synReceived) && !inFlight then true
  else
    let maxSend := e.localSeq + min e.peerWindow e.tx.length - e.sentUpTo
    let canSend := maxSend != 0 && !(inFlight && maxSend < min mss e.peerMss && !e.wantFin)
    canSend || (e.wantFin && e.sentUpTo == e.localSeq + e.tx.length)

def TcpTimer.due? : TcpTimer → Option Nat
  | .idle => none
  | .retransmit d => some d
  | .close d => some d

/-- When the socket next wants to be asked to send, if ever. -/
def pollAt (e : Endpoint) (now mss : Nat) : Option Nat :=
  if e.quad.isNone then none
  else if e.lastSeen.isNone || e.seqToTransmit mss || e.windowToUpdate then some now
  else
    let ackAt : Option Nat :=
      if e.ackToTransmit then
        match e.ackDelay with
        | .waiting due => some due
        | _ => some now
      else none
    let cands := [TcpTimer.due? e.timer, ackAt].filterMap id ++ (if e.state == .closed then [now] else [])
    cands.foldl (fun acc x => some (match acc with | some a => min a x | none => x)) none

def accepts (e : Endpoint) (s : Segment) : Bool :=
  if e.state == .closed then false
  else if e.state == .listen && s.ack.isSome then false
  else
    match e.quad with
    | some q => q == ⟨s.dst, s.dstPort, s.src, s.srcPort⟩
    | none => e.listenPort == some s.dstPort

def finArrived (e : Endpoint) : Endpoint := { e with remoteSeq := e.remoteSeq + 1, finReceived := true }

def enterTimeWait (e : Endpoint) (now : Nat) : Endpoint × List Task :=
  let (e, w) := e.setState .timeWait
  ({ e with timer := .close (now + closeDelay) }, w)

def settle (e : Endpoint) (s : TcpState) : Endpoint × List Task :=
  let (e, w) := e.setState s
  ({ e with timer := .idle }, w)

/-- The state change an acceptable segment causes in a synchronized state. The
flag says the connection is over and nothing else is to be done. -/
def transition (e : Endpoint) (st : TcpState) (s : Segment) (now : Nat) (ackOfFin ackAll : Bool) :
    Endpoint × List Task × Bool :=
  match st with
  | .established =>
    if s.fin then let (e, w) := e.finArrived.settle .closeWait; (e, w, false)
    else
      match e.timer with
      | .retransmit _ => (if ackAll then { e with timer := .idle } else e, [], false)
      | _ => ({ e with timer := .idle }, [], false)
  | .finWait1 =>
    if s.fin then
      let (e, w) := if ackOfFin then e.finArrived.enterTimeWait now else e.finArrived.settle .closing
      (e, w, false)
    else
      let (e, w) := if ackOfFin then e.setState .finWait2 else (e, [])
      (if ackAll then { e with timer := .idle } else e, w, false)
  | .finWait2 =>
    if s.fin then let (e, w) := e.finArrived.enterTimeWait now; (e, w, false)
    else ({ e with timer := .idle }, [], false)
  | .closing =>
    if ackOfFin then let (e, w) := e.enterTimeWait now; (e, w, false)
    else ({ e with timer := .idle }, [], false)
  | .closeWait => ({ e with timer := .idle }, [], false)
  | .lastAck =>
    if ackOfFin then let (e, w) := e.setState .closed; ({ e with quad := none }, w, true)
    else ({ e with timer := .idle }, [], false)
  | .timeWait => ({ e with timer := .close (now + closeDelay) }, [], false)
  | _ => (e, [], false)

/-- Whether a segment of the peer's falls in the receive window. An empty
segment just before the window is a keep-alive probe and does not; with the
window closed only an empty segment at its edge does. -/
def inWindow (e : Endpoint) (s : Segment) : Bool :=
  let ws := e.nextAck
  let we := e.remoteSeq + e.rxCap
  let ss := s.seq
  let se := s.seq + s.payload.length
  if ss == se then
    if se + 1 == ws then false
    else if ws == we then ws == ss
    else ws ≤ ss && ss < we
  else if ws == we then false
  else (ws ≤ ss && ss < we) || (ws < se && se ≤ we)

/-- A bare acknowledgement answering `s`; it counts as the acknowledgement
last sent even if it cannot go out. -/
def ackReply (e : Endpoint) (s : Segment) : Endpoint × Segment :=
  let r : Segment := { src := s.dst, srcPort := s.dstPort, dst := s.src, dstPort := s.srcPort,
                       seq := e.sentUpTo, ack := some e.nextAck, window := e.scaledWindow }
  ({ e with lastAckSent := r.ack, lastWindowSent := r.window }, r)

def challengeAck (e : Endpoint) (s : Segment) (now : Nat) : Endpoint × Option Segment :=
  if now < e.challengeAt then (e, none)
  else
    let (e, r) := { e with challengeAt := now + 1000000 }.ackReply s
    (e, some r)

/-- What the acknowledgement number of a segment in a synchronized state
decides before anything else: nothing, or to stop with an answer (or
none). -/
def checkAck (e : Endpoint) (s : Segment) (now : Nat) : Option (Endpoint × Option Segment) :=
  if s.rst then none
  else
    match s.ack with
    | none => some (e, none)
    | some a =>
      if e.state == .synReceived then
        if a != e.localSeq + 1 then some (e, some s.resetFor) else none
      else if a < e.localSeq then some (e, none)
      else if a > e.localSeq + e.tx.length + (if e.wantFin then 1 else 0) then some (e.challengeAck s now)
      else none

def trim (e : Endpoint) (s : Segment) : Segment :=
  let lo := max e.nextAck s.seq
  let hi := min (e.remoteSeq + e.rxCap) (s.seq + s.payload.length)
  { s with seq := lo, payload := (s.payload.drop (lo - s.seq)).take (hi - lo) }

def processAccepted (e : Endpoint) (s : Segment) (now : Nat) : Endpoint × List Task :=
  let st := e.state
  if s.rst then let (e, w) := e.setState .closed; ({ e with quad := none }, w)
  else if s.syn && st != .synReceived then (e, [])
  else
    let sentFin := e.wantFin
    let (ackLen, ackOfFin, ackAll, rtt) : Nat × Bool × Bool × Rtt :=
      match s.ack with
      | none => (0, false, false, e.rtt)
      | some a =>
        let start := e.localSeq + (if st == .synReceived then 1 else 0)
        if a ≥ start then
          let len := a - start
          let ofFin := sentFin && e.tx.length + 1 == len
          ((if ofFin then len - 1 else len), ofFin, e.sentUpTo == a, e.rtt.onAck now a)
        else (0, false, false, e.rtt.onAck now a)
    let e := { e with rtt }
    let (e, w0, st) :=
      if st == .synReceived && s.ack.isSome then
        let (e, w) := e.settle .established
        (e, w, TcpState.established)
      else (e, [], st)
    let (e, w1, ended) := e.transition st s now ackOfFin ackAll
    if ended then (e, w0 ++ w1)
    else
      let e := { e with lastSeen := some now, peerWindow := s.window }
      let (e, w2) := if ackLen > 0 then { e with tx := e.tx.drop ackLen }.wakeTx else (e, [])
      let e := match s.ack with
        | some a => { e with localSeq := a, sentUpTo := max e.sentUpTo a }
        | none => e
      if s.payload.isEmpty then (e, w0 ++ w1 ++ w2)
      else
        let (e, w3) := { e with rx := e.rx ++ s.payload }.wakeRx
        let e :=
          if e.ackToTransmit || e.windowToUpdate then
            match e.ackDelay with
            | .idle => { e with ackDelay := .waiting (now + ackDelayTime) }
            | .waiting _ => if e.immediateAck then { e with ackDelay := .immediate } else e
            | .immediate => e
          else e
        (e, w0 ++ w1 ++ w2 ++ w3)

/-- Take in a segment in a synchronized state: the socket, the wakes, and an
answer to send at once, if any. -/
def processSynced (e : Endpoint) (s : Segment) (now : Nat) : Endpoint × List Task × Option Segment :=
  match e.checkAck s now with
  | some (e, r) => (e, [], r)
  | none =>
    if !e.inWindow s then
      let e := if e.state == .timeWait then { e with timer := .close (now + closeDelay) } else e
      let (e, r) := e.challengeAck s now
      (e, [], r)
    else
      let t := e.trim s
      if !t.payload.isEmpty && t.seq != e.nextAck then
        let (e, r) := e.ackReply s
        (e, [], some r)
      else
        let t := if s.seq != e.nextAck then { t with fin := false } else t
        let (e, w) := e.processAccepted t now
        (e, w, none)

def process (e : Endpoint) (s : Segment) (now : Nat) : Endpoint × List Task × Option Segment :=
  match e.state with
  | .closed => (e, [], none)
  | .listen =>
    if s.rst || !s.syn then (e, [], none)
    else
      let (e, w) :=
        { e with quad := some ⟨s.dst, s.dstPort, s.src, s.srcPort⟩, localSeq := initialSeq,
                 remoteSeq := s.seq + 1, sentUpTo := initialSeq, peerMss := s.mss.getD e.peerMss,
                 peerWindow := s.window, lastSeen := some now }.settle .synReceived
      (e, w, none)
  | .synSent =>
    if s.rst then
      if s.ack == some (e.localSeq + 1) then
        let (e, w) := e.setState .closed
        ({ e with quad := none }, w, none)
      else (e, [], none)
    else if s.syn && s.ack == some (e.localSeq + 1) then
      let (e, w) :=
        { e with peerMss := s.mss.getD e.peerMss, remoteSeq := s.seq + 1, sentUpTo := e.localSeq + 1,
                 lastAckSent := some s.seq, localSeq := e.localSeq + 1, peerWindow := s.window,
                 lastSeen := some now, rtt := e.rtt.onAck now (e.localSeq + 1) }.settle .established
      (e, w, none)
    else (e, [], none)
  | _ => e.processSynced s now

def outgoing (e : Endpoint) (q : Quad) (mss : Nat) : Option Segment :=
  let base : Segment :=
    { src := q.localIp, srcPort := q.localPort, dst := q.remoteIp, dstPort := q.remotePort,
      seq := e.sentUpTo, ack := some e.nextAck, window := e.scaledWindow }
  match e.state with
  | .closed => some { base with rst := true }
  | .listen => none
  | .synSent => some { base with syn := true, ack := none, mss := some mss }
  | .synReceived => some { base with syn := true, mss := some mss }
  | .established | .finWait1 | .closing | .closeWait | .lastAck =>
    let limit := e.localSeq + e.peerWindow - e.sentUpTo
    let size := min (min limit e.peerMss) mss
    let offset := e.sentUpTo - e.localSeq
    let payload := (e.tx.drop offset).take size
    let atEnd := offset + payload.length == e.tx.length
    let fin := atEnd && e.wantFin
    let psh := atEnd && !fin && (e.state == .established || e.state == .closeWait) && !payload.isEmpty
    some { base with payload, fin, psh }
  | .finWait2 | .timeWait => some base

def sent (e : Endpoint) (seg : Segment) (now mss : Nat) : Endpoint × List Task :=
  let e := { e with ackDelay := .idle, sentUpTo := seg.seq + seg.length, lastAckSent := seg.ack,
                    lastWindowSent := seg.window }
  let e := if seg.length > 0 then { e with rtt := e.rtt.onSend now (seg.seq + seg.length) } else e
  let running := match e.timer with | .retransmit _ => true | _ => false
  let e := if !e.seqToTransmit mss && seg.length > 0 && !running then
      { e with timer := .retransmit (now + e.rtt.timeout) } else e
  if e.state == .closed then { e with quad := none }.wakeTx else (e, [])

/-- Asked to send at `now`: the socket as it stands before sending, and the
segment to send with the socket and wakes once it has gone out. The caller
keeps the first socket if the segment cannot go out yet. -/
def dispatch (e : Endpoint) (now mss : Nat) : Endpoint × Option (Segment × Endpoint × List Task) :=
  match e.quad with
  | none => (e, none)
  | some q =>
    let e := if e.lastSeen.isNone then { e with lastSeen := some now } else e
    let e :=
      if e.seqToTransmit mss then e
      else match e.timer with
        | .retransmit due =>
          if due ≤ now then { e with sentUpTo := e.localSeq, timer := .idle, rtt := e.rtt.onRetransmit }
          else e
        | _ => e
    let go := e.seqToTransmit mss || (e.ackToTransmit && e.delayedAckExpired now) ||
      e.windowToUpdate || e.state == .closed
    if !go then
      match e.timer with
      | .close due => if due ≤ now then (e.reset, none) else (e, none)
      | _ => (e, none)
    else
      match e.outgoing q mss with
      | none => (e, none)
      | some seg =>
        let (e', w) := e.sent seg now mss
        (e, some (seg, e', w))

end Endpoint

end GalaxyProjector
