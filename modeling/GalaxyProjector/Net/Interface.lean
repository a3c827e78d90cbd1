import GalaxyProjector.Net.Tcp
import GalaxyProjector.Net.Dhcp

/-!
A network interface: its addresses, its sockets in numbered slots, the
neighbour cache, and the frames it has received and is to send.

A poll takes in every received frame, then asks each socket in slot order
for one thing to send. An IP packet to a neighbour whose MAC is unknown is not
sent; an ARP request goes out instead (at most one a second) and the socket
stays quiet for a second unless the answer comes. Without an address the
interface has no route but for broadcasts: a packet to anyone else is not sent
and its socket stays quiet for a second. A change of address empties the
neighbour cache. An ARP frame aimed at the
interface's address teaches it the sender's MAC, and a request is answered. A
TCP segment no socket accepts is answered with a reset, unless it is one; an
answer a socket gives to a segment goes out at once, like the reset.
-/

namespace GalaxyProjector

inductive Socket where
  | tcp (e : Endpoint)
  | dhcp (c : DhcpClient)
  deriving Repr, Inhabited

/-- A slot in use: the socket and, while it waits for a neighbour, the address
and until when. -/
structure Slot where
  socket : Socket
  waiting : Option (Ipv4 × Nat) := none
  deriving Repr, Inhabited

def mtuMss : Nat := 1460

structure Interface where
  mac : Mac
  ip : Option Ipv4
  slots : List (Option Slot) := []
  neighbours : List (Ipv4 × Mac) := []
  arpQuietUntil : Nat := 0
  inbox : List Frame := []
  outbox : List Frame := []
  deriving Repr, Inhabited

namespace Interface

def add (i : Interface) (s : Socket) : Nat × Interface :=
  match i.slots.findIdx? Option.isNone with
  | some k => (k, { i with slots := i.slots.set k (some { socket := s }) })
  | none => (i.slots.length, { i with slots := i.slots ++ [some { socket := s }] })

def remove (i : Interface) (k : Nat) : Interface := { i with slots := i.slots.set k none }

def endpoint? (i : Interface) (k : Nat) : Option Endpoint :=
  match i.slots[k]? with
  | some (some ⟨.tcp e, _⟩) => some e
  | _ => none

def setEndpoint (i : Interface) (k : Nat) (e : Endpoint) : Interface :=
  match i.slots[k]? with
  | some (some s) => { i with slots := i.slots.set k (some { s with socket := .tcp e }) }
  | _ => i

def resolve (i : Interface) (ip : Ipv4) : Option Mac :=
  if ip == Ipv4.broadcast then some Mac.broadcast
  else (i.neighbours.find? (·.1 == ip)).map (·.2)

/-- Whether the interface has a route to `ip`: it has an address, or `ip` is
the broadcast address. -/
def routes (i : Interface) (ip : Ipv4) : Bool := i.ip.isSome || ip == Ipv4.broadcast

def setAddress (i : Interface) (ip : Option Ipv4) : Interface := { i with ip, neighbours := [] }

/-- Send a packet to `target`. Without a route, or when the neighbour is
unknown, the packet is not sent (false); in the second case an ARP request may
go out instead. -/
def sendIp (i : Interface) (now : Nat) (target : Ipv4) (p : Packet) : Interface × Bool :=
  if !i.routes target then (i, false) else
  match i.resolve target with
  | some m => ({ i with outbox := i.outbox ++ [.ip i.mac m target p] }, true)
  | none =>
    if now ≥ i.arpQuietUntil then
      ({ i with outbox := i.outbox ++ [.arp i.mac Mac.broadcast false i.ip (some target)],
                arpQuietUntil := now + 1000000 }, false)
    else (i, false)

def learn (i : Interface) (ip : Ipv4) (m : Mac) : Interface :=
  { i with neighbours := (i.neighbours.filter (·.1 != ip)) ++ [(ip, m)] }

def toDhcp (now : Nat) (m : DhcpMessage) : List (Option Slot) → List (Option Slot)
  | [] => []
  | some ⟨.dhcp c, w⟩ :: rest => some ⟨.dhcp (c.process m now), w⟩ :: toDhcp now m rest
  | s :: rest => s :: toDhcp now m rest

def acceptor? (i : Interface) (s : Segment) : Option (Nat × Endpoint) :=
  let rec go (k : Nat) : List (Option Slot) → Option (Nat × Endpoint)
    | [] => none
    | some ⟨.tcp e, _⟩ :: rest => if e.accepts s then some (k, e) else go (k + 1) rest
    | _ :: rest => go (k + 1) rest
  go 0 i.slots

def ingress (i : Interface) (now : Nat) (f : Frame) : Interface × List Task :=
  if f.dst != i.mac && f.dst != Mac.broadcast then (i, [])
  else
    match f with
    | .arp src _ reply spa tpa =>
      match i.ip with
      | none => (i, [])
      | some me =>
        if tpa != some me then (i, [])
        else
          let i := match spa with | some a => i.learn a src | none => i
          if reply then (i, [])
          else ({ i with outbox := i.outbox ++ [.arp i.mac src true i.ip spa] }, [])
    | .ip _ _ _ (.dhcp m) => ({ i with slots := toDhcp now m i.slots }, [])
    | .ip _ _ _ (.tcp s) =>
      if some s.dst != i.ip then (i, [])
      else
        match i.acceptor? s with
        | some (k, e) =>
          let (e, w, answer) := e.process s now
          let i := i.setEndpoint k e
          match answer with
          | some r => ((i.sendIp now r.dst (.tcp r)).1, w)
          | none => (i, w)
        | none => if s.rst then (i, []) else ((i.sendIp now s.src (.tcp s.resetFor)).1, [])

def knows (i : Interface) (ip : Ipv4) : Bool := i.routes ip && (i.resolve ip).isSome

/-- Let the socket in slot `k` send, if it has something and may. -/
def egressSlot (i : Interface) (now k : Nat) : Interface × List Task :=
  match i.slots[k]? with
  | some (some slot) =>
    let blocked := match slot.waiting with
      | some (ip, limit) => !i.knows ip && now < limit
      | none => false
    let slot := match slot.waiting with
      | some (ip, _) => if i.knows ip then { slot with waiting := none } else slot
      | none => slot
    if blocked then (i, [])
    else
      match slot.socket with
      | .tcp e =>
        let (pre, out) := e.dispatch now mtuMss
        match out with
        | none => ({ i with slots := i.slots.set k (some { slot with socket := .tcp pre }) }, [])
        | some (seg, post, w) =>
          let (i, ok) := i.sendIp now seg.dst (.tcp seg)
          if ok then ({ i with slots := i.slots.set k (some { slot with socket := .tcp post }) }, w)
          else
            ({ i with slots := i.slots.set k (some { socket := .tcp pre, waiting := some (seg.dst, now + 1000000) }) }, [])
      | .dhcp c =>
        match c.dispatch now with
        | none => ({ i with slots := i.slots.set k (some slot) }, [])
        | some (m, c) =>
          let i := (i.sendIp now Ipv4.broadcast (.dhcp m)).1
          ({ i with slots := i.slots.set k (some { slot with socket := .dhcp c }) }, [])
  | _ => (i, [])

/-- Take in every received frame, then let each socket send once. -/
def poll (i : Interface) (now : Nat) : Interface × List Task :=
  let (i, w1) := i.inbox.foldl (fun (acc : Interface × List Task) f =>
      let (i, w) := acc.1.ingress now f
      (i, acc.2 ++ w)) ({ i with inbox := [] }, [])
  (List.range i.slots.length).foldl (fun (acc : Interface × List Task) k =>
      let (i, w) := acc.1.egressSlot now k
      (i, acc.2 ++ w)) (i, w1)

def isDhcp : Option Slot → Bool
  | some ⟨.dhcp _, _⟩ => true
  | _ => false

def withDhcp {α : Type} (i : Interface) (f : DhcpClient → DhcpClient × α) : Interface × Option α :=
  match i.slots.findIdx? isDhcp with
  | some k =>
    match i.slots[k]? with
    | some (some ⟨.dhcp c, w⟩) =>
      let (c, a) := f c
      ({ i with slots := i.slots.set k (some ⟨.dhcp c, w⟩) }, some a)
    | _ => (i, none)
  | none => (i, none)

/-- When a socket next wants the interface polled, if ever. -/
def pollAt (i : Interface) (now : Nat) : Option Nat :=
  i.slots.foldl (fun acc s =>
    let t : Option Nat := match s with
      | some slot =>
        let own := match slot.socket with
          | .tcp e => e.pollAt now mtuMss
          | .dhcp c => some c.phase.due
        match slot.waiting with
        | some (ip, limit) => if i.knows ip then own else some limit
        | none => own
      | none => none
    match acc, t with
    | some a, some b => some (min a b)
    | none, t => t
    | a, none => a) none

end Interface

end GalaxyProjector
