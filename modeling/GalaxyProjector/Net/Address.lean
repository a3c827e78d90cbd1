/-!
Addresses on the bench LAN: IPv4 addresses and Ethernet MAC addresses, with
the stations that use them. The device gets 192.168.1.50 from the DHCP server
at 192.168.1.1; the test client sits at 192.168.1.20.
-/

namespace GalaxyProjector

structure Ipv4 where
  bits : UInt32
  deriving DecidableEq, Repr, Inhabited

namespace Ipv4

def ofOctets (a b c d : Nat) : Ipv4 := ⟨UInt32.ofNat (((a * 256 + b) * 256 + c) * 256 + d)⟩

def broadcast : Ipv4 := ofOctets 255 255 255 255

/-- The address the DHCP server hands the device. -/
def device : Ipv4 := ofOctets 192 168 1 50

/-- The test client's fixed address. -/
def client : Ipv4 := ofOctets 192 168 1 20

def router : Ipv4 := ofOctets 192 168 1 1

end Ipv4

structure Mac where
  bits : UInt64
  deriving DecidableEq, Repr, Inhabited

namespace Mac

/-- The locally administered address `02:00:00:00:00:n`. -/
def ofHost (n : Nat) : Mac := ⟨UInt64.ofNat (0x020000000000 + n)⟩

def broadcast : Mac := ⟨0xFFFFFFFFFFFF⟩

def device : Mac := ofHost 0x50

def client : Mac := ofHost 0x20

def router : Mac := ofHost 0x01

end Mac

end GalaxyProjector
