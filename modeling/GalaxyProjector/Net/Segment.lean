import GalaxyProjector.Net.Address
import GalaxyProjector.Bytes

/-!
What travels on the LAN. A TCP segment carries absolute sequence numbers (the
bench never wraps them), the receive window, the flags and its data. A frame
is an ARP request or reply, or an IP packet holding a DHCP message or a TCP
segment.
-/

namespace GalaxyProjector

structure Segment where
  src : Ipv4
  srcPort : Nat
  dst : Ipv4
  dstPort : Nat
  seq : Nat := 0
  ack : Option Nat := none
  window : Nat := 0
  syn : Bool := false
  fin : Bool := false
  rst : Bool := false
  psh : Bool := false
  mss : Option Nat := none
  payload : Bytes := []
  deriving DecidableEq, Repr, Inhabited

namespace Segment

/-- The sequence space the segment takes: its data, and one each for SYN and
FIN. -/
def length (s : Segment) : Nat := s.payload.length + (if s.syn then 1 else 0) + (if s.fin then 1 else 0)

/-- The reset answering a segment that no socket takes. -/
def resetFor (s : Segment) : Segment :=
  match s.ack with
  | some a => { src := s.dst, srcPort := s.dstPort, dst := s.src, dstPort := s.srcPort, seq := a, rst := true }
  | none =>
    { src := s.dst, srcPort := s.dstPort, dst := s.src, dstPort := s.srcPort, seq := 0,
      ack := some (s.seq + s.length), rst := true }

end Segment

inductive DhcpKind where
  | discover
  | offer
  | request
  | ack
  deriving DecidableEq, Repr, Inhabited

def DhcpKind.name : DhcpKind → String
  | .discover => "Discover"
  | .offer => "Offer"
  | .request => "Request"
  | .ack => "Ack"

structure DhcpMessage where
  kind : DhcpKind
  xid : Nat
  deriving DecidableEq, Repr, Inhabited

inductive Packet where
  | dhcp (m : DhcpMessage)
  | tcp (s : Segment)
  deriving DecidableEq, Repr, Inhabited

inductive Frame where
  /-- An ARP request (`reply = false`) or reply, from `spa` asking about or
  answering for `tpa`. -/
  | arp (src dst : Mac) (reply : Bool) (spa tpa : Option Ipv4)
  | ip (src dst : Mac) (target : Ipv4) (p : Packet)
  deriving DecidableEq, Repr, Inhabited

def Frame.dst : Frame → Mac
  | .arp _ d _ _ _ => d
  | .ip _ d _ _ => d

end GalaxyProjector
