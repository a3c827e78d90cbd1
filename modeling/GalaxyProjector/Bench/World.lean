import GalaxyProjector.Tasking.Timers
import GalaxyProjector.Tasking.Task
import GalaxyProjector.Tasking.Mailbox
import GalaxyProjector.Tasking.Broadcast
import GalaxyProjector.Net.Stack
import GalaxyProjector.Bench.Event
import GalaxyProjector.Bench.Scenario
import GalaxyProjector.Switch

/-!
The shared state of a bench run: the clock (in microseconds), the executor's
run queue and timers, the record of events, the switch lines, what the
firmware's tasks share (the command queue, the snapshot broadcast, the power
gate), the WiFi station, and the two network stacks.
-/

namespace GalaxyProjector

structure Station where
  connected : Bool := false
  linkWaker : Option Task := none
  eventWaker : Option Task := none
  /-- A drop not yet seen by the task waiting for it. -/
  dropped : Bool := false
  attempts : Nat := 0
  deriving Repr, Inhabited

inductive Side where
  | device
  | client
  deriving DecidableEq, Repr, Inhabited

structure World where
  now : Nat := 0
  ready : Ready := {}
  timers : Timers := {}
  log : Array Stamped := #[]
  /-- Switch lines set low or high so far; others are high. -/
  pins : List (Nat × Bool) := []
  mailbox : Mailbox := {}
  broadcast : Broadcast := {}
  gate : PowerGate := .new
  station : Station := {}
  accessPoint : AccessPoint := {}
  device : Option Stack := none
  client : Stack := { iface := { mac := Mac.client, ip := some Ipv4.client } }
  failure : Option String := none
  deriving Repr, Inhabited

namespace World

def wake (w : World) (t : Task) : World := { w with ready := w.ready.wake t }

def wakeAll (w : World) (ts : List Task) : World := { w with ready := w.ready.wakeAll ts }

def schedule (w : World) (due : Nat) (t : Task) : World := { w with timers := w.timers.schedule due t }

def record (w : World) (e : Event) : World := { w with log := w.log.push ⟨w.now / 1000, e⟩ }

def fail (w : World) (message : String) : World := { w with failure := some message }

def millis (w : World) : Nat := w.now / 1000

def pinLow (w : World) (gpio : Nat) : Bool := ((w.pins.find? (·.1 == gpio)).map (·.2)).getD false

def stack (w : World) : Side → Stack
  | .device => w.device.getD { iface := { mac := Mac.device, ip := none } }
  | .client => w.client

def setStack (w : World) : Side → Stack → World
  | .device, s => { w with device := some s }
  | .client, s => { w with client := s }

/-- Run a socket operation on a host's stack and carry out its wakes. -/
def net {α : Type} (w : World) (side : Side) (f : Stack → Stack × List Task × α) : World × α :=
  let (s, woken, a) := f (w.stack side)
  ((w.setStack side s).wakeAll woken, a)

def net_ (w : World) (side : Side) (f : Stack → Stack × List Task) : World :=
  (w.net side fun s => let (s, ts) := f s; (s, ts, ())).1

/-- Wait for a deadline, unless it has passed: true when it has. -/
def expired (w : World) (deadline : Nat) (t : Task) : World × Bool :=
  if deadline ≤ w.now then (w, true) else (w.schedule deadline t, false)

end World

end GalaxyProjector
