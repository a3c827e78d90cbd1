/-!
The round-trip estimator behind TCP's retransmission timeout (Jacobson and
Karels, times in milliseconds). The smoothed time starts at 300 ms and its
deviation at 100 ms; each sample moves the smoothed time 1/8 of the way to it
and the deviation 1/4 of the way to their difference, rounding up. The timeout
is the smoothed time plus four deviations (at least 5 ms more), held within
10 ms and 10 s. Every third retransmission in a row without a sample doubles
the smoothed time, so a lost link is retried ever more slowly. One segment at
a time is timed: the first sent past the highest sequence seen, until an
acknowledgement covers it.
-/

namespace GalaxyProjector

structure Rtt where
  /-- The smoothed round-trip time, in milliseconds. -/
  smoothed : Nat := 300
  deviation : Nat := 100
  retries : Nat := 0
  /-- When the timed segment left (µs) and the sequence number ending it. -/
  timing : Option (Nat × Nat) := none
  highest : Option Nat := none
  deriving DecidableEq, Repr, Inhabited

namespace Rtt

def rto (r : Rtt) : Nat := min (max (r.smoothed + max 5 (r.deviation * 4)) 10) 10000

def timeout (r : Rtt) : Nat := r.rto * 1000

def sample (r : Rtt) (ms : Nat) : Rtt :=
  let smoothed := (r.smoothed * 7 + ms + 7) / 8
  let diff := if smoothed ≥ ms then smoothed - ms else ms - smoothed
  { r with smoothed, deviation := (r.deviation * 3 + diff + 3) / 4, retries := 0 }

def onSend (r : Rtt) (now seq : Nat) : Rtt :=
  match r.highest with
  | some h => if seq > h then { r with highest := some seq, timing := r.timing.or (some (now, seq)) } else r
  | none => { r with highest := some seq, timing := r.timing.or (some (now, seq)) }

def onAck (r : Rtt) (now seq : Nat) : Rtt :=
  match r.timing with
  | some (sent, upTo) => if seq ≥ upTo then { r.sample ((now - sent) / 1000) with timing := none } else r
  | none => r

/-- A retransmission: stop timing, and on the third in a row double the
smoothed time. -/
def onRetransmit (r : Rtt) : Rtt :=
  if r.retries + 1 ≥ 3 then { r with timing := none, retries := 0, smoothed := min (r.smoothed * 2) 10000 }
  else { r with timing := none, retries := r.retries + 1 }

end Rtt

end GalaxyProjector
