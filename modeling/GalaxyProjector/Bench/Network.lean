import GalaxyProjector.Bench.World

/-!
The network side of a run: the task that runs each host's stack, and the LAN.

Each time it is polled, a stack's runner registers as the stack's waker, polls
the interface, looks at the link (the device's follows the WiFi station and
registers for its changes; the client's is always up), and on the device runs
DHCP: a link that comes up restarts it, a link that goes down drops the
address. Setting or dropping the address empties the neighbour cache. Last it
asks the timer queue to wake it when the interface next wants polling. A time
already past is queued like any other, so the runner runs again once the
executor has come to rest and the queue is walked.

The LAN is a hub without loss or delay, run between the executor's batches.
The device's frames go nowhere while its station is not connected. Its DHCP
broadcasts go to the DHCP server, which records them and answers DISCOVER with
OFFER and REQUEST with ACK; its other frames go to the client when addressed to
it or broadcast. The client's frames reach the device the same way, while the
station is connected.
-/

namespace GalaxyProjector

/-- The device's DHCP client after a look at the link: the address to set, if it
changes (`some none` drops it). -/
def dhcpOnLink (i : Interface) (was up : Bool) : Interface × Option (Option Ipv4) :=
  if up then
    let i := if was != up then (i.withDhcp fun c => (c.reset, ())).1 else i
    let (i, ev) := i.withDhcp fun c => let (e, c) := c.poll; (c, e)
    match ev.join with
    | some .configured => (i, some (some Ipv4.device))
    | some .deconfigured => (i, some none)
    | none => (i, none)
  else if was then ((i.withDhcp fun c => (c.reset, ())).1, some none)
  else (i, none)

def runStack (w : World) (side : Side) (self : Task) : World :=
  let s := { w.stack side with runner := some self }
  let (iface, woken) := s.iface.poll w.now
  let w := (w.setStack side { s with iface }).wakeAll woken
  let (up, w) := match side with
    | .device => (w.station.connected, { w with station := { w.station with linkWaker := some self } })
    | .client => (true, w)
  let s := w.stack side
  let s := match side with
    | .device =>
      let (iface, addr) := dhcpOnLink s.iface s.linkUp up
      let iface := match addr with
        | some a => iface.setAddress a
        | none => iface
      { s with iface, linkUp := up }
    | .client => { s with linkUp := up }
  let w := w.setStack side s
  match s.iface.pollAt w.now with
  | some t => w.schedule t self
  | none => w

def dhcpAnswer (m : DhcpMessage) : Option DhcpMessage :=
  match m.kind with
  | .discover => some ⟨.offer, m.xid⟩
  | .request => some ⟨.ack, m.xid⟩
  | _ => none

def fromDevice (w : World) (f : Frame) : World :=
  if !w.station.connected then w
  else
    match f with
    | .ip _ _ _ (.dhcp m) =>
      let w := w.record (.dhcp m.kind.name)
      match dhcpAnswer m with
      | some a =>
        let s := w.stack .device
        let reply := Frame.ip Mac.router Mac.device Ipv4.broadcast (.dhcp a)
        (w.setStack .device { s with iface := { s.iface with inbox := s.iface.inbox ++ [reply] } }).wake .deviceNet
      | none => w
    | f =>
      if f.dst == Mac.client || f.dst == Mac.broadcast then
        { w with client := { w.client with iface := { w.client.iface with inbox := w.client.iface.inbox ++ [f] } } }.wake
          .clientNet
      else w

def fromClient (w : World) (f : Frame) : World :=
  match w.device with
  | some s =>
    if w.station.connected && (f.dst == Mac.device || f.dst == Mac.broadcast) then
      { w with device := some { s with iface := { s.iface with inbox := s.iface.inbox ++ [f] } } }.wake .deviceNet
    else w
  | none => w

def lanPending (w : World) : Bool :=
  !w.client.iface.outbox.isEmpty || (match w.device with
    | some s => !s.iface.outbox.isEmpty
    | none => false)

/-- Move every waiting frame across the LAN: the device's first, then the
client's. -/
def deliver (w : World) : World :=
  let (w, out) := match w.device with
    | some s => ({ w with device := some { s with iface := { s.iface with outbox := [] } } }, s.iface.outbox)
    | none => (w, [])
  let w := out.foldl fromDevice w
  let out := w.client.iface.outbox
  let w := { w with client := { w.client with iface := { w.client.iface with outbox := [] } } }
  out.foldl fromClient w

end GalaxyProjector
