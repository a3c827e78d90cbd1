import GalaxyProjector.Net.Segment

/-!
The device's DHCP client. It broadcasts a DISCOVER (again every ten seconds
while unanswered), takes the first OFFER with its transaction id, then
broadcasts a REQUEST (again every five seconds) until the ACK comes; with the
ACK the address is configured, and renewal is due in half the lease. A reset
starts over from DISCOVER, and marks the configuration as changed if it had
one. Times are in microseconds.
-/

namespace GalaxyProjector

/-- Where the DHCP exchange stands, with the time of the next send. -/
inductive DhcpPhase where
  | discovering (due : Nat)
  | requesting (due : Nat) (retry : Nat)
  | renewing (due : Nat)
  deriving DecidableEq, Repr, Inhabited

def DhcpPhase.due : DhcpPhase → Nat
  | .discovering d => d
  | .requesting d _ => d
  | .renewing d => d

inductive DhcpEvent where
  | configured
  | deconfigured
  deriving DecidableEq, Repr, Inhabited

structure DhcpClient where
  phase : DhcpPhase := .discovering 0
  xid : Nat := 0
  nextXid : Nat := 1
  changed : Bool := false
  deriving Repr, Inhabited

namespace DhcpClient

def reset (c : DhcpClient) : DhcpClient :=
  let changed := match c.phase with | .renewing _ => true | _ => c.changed
  { c with phase := .discovering 0, changed }

/-- The message to broadcast at `now`, if one is due, with the client after
sending it. -/
def dispatch (c : DhcpClient) (now : Nat) : Option (DhcpMessage × DhcpClient) :=
  if now < c.phase.due then none
  else
    match c.phase with
    | .discovering _ =>
      some (⟨.discover, c.nextXid⟩,
        { c with phase := .discovering (now + 10000000), xid := c.nextXid, nextXid := c.nextXid + 1 })
    | .requesting _ retry =>
      some (⟨.request, c.nextXid⟩,
        { c with phase := .requesting (now + 5000000) (retry + 1), xid := c.nextXid,
                 nextXid := c.nextXid + 1 })
    | .renewing _ => none

def process (c : DhcpClient) (m : DhcpMessage) (now : Nat) : DhcpClient :=
  if m.xid != c.xid then c
  else
    match c.phase, m.kind with
    | .discovering _, .offer => { c with phase := .requesting now 0 }
    | .requesting _ _, .ack => { c with phase := .renewing (now + 43200000000), changed := true }
    | _, _ => c

def poll (c : DhcpClient) : Option DhcpEvent × DhcpClient :=
  if c.changed then
    (some (match c.phase with | .renewing _ => .configured | _ => .deconfigured), { c with changed := false })
  else (none, c)

end DhcpClient

end GalaxyProjector
