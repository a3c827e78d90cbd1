import GalaxyProjector.Bench.World
import GalaxyProjector.Tasking.Task

/-!
The WiFi connection task. It configures the station and starts it (giving up
if either fails), then tries to connect up to ten times, 500 ms apart (the
wait follows every failed attempt, the last one too). Once connected it waits
for the station to be dropped and starts another round of attempts; a round
without success ends the task. The access point decides each attempt, counted
over the whole run.
-/

namespace GalaxyProjector

def wifiSsid : String := "MeinNetzwerk"

def wifiPassword : String := "geheim"

inductive WifiTask where
  | start
  /-- The `k`-th attempt of a round. -/
  | attempt (k : Nat)
  | pause (k due : Nat)
  | joined
  | watching
  deriving DecidableEq, Repr, Inhabited

def wifiAttempts : Nat := 10

/-- The wait after a failed attempt, in microseconds. -/
def wifiRetry : Nat := 500000

def WifiTask.step (w : World) : WifiTask → World × Step WifiTask
  | .start =>
    let w := w.record (.wifiConfig wifiSsid wifiPassword)
    if w.accessPoint.setConfigFails then (w, .done .start)
    else
      let w := w.record .wifiStart
      if w.accessPoint.startFails then (w, .done .start) else (w, .next (.attempt 0))
  | .attempt k =>
    if k ≥ wifiAttempts then (w, .done (.attempt k))
    else
      let n := w.station.attempts
      let ok := w.accessPoint.connects.getD n true
      let w := { w with station := { w.station with attempts := n + 1 } }.record (.wifiConnect ok)
      if ok then
        let w := { w with station := { w.station with connected := true } }
        let w := match w.station.linkWaker with
          | some t => w.wake t
          | none => w
        (w, .next .joined)
      else (w, .next (.pause (k + 1) (w.now + wifiRetry)))
  | .pause k due => if due > w.now then (w.schedule due .wifi, .wait (.pause k due)) else (w, .next (.attempt k))
  | .joined => ({ w with station := { w.station with dropped := false } }, .next .watching)
  | .watching =>
    if w.station.dropped then ({ w with station := { w.station with dropped := false } }, .next (.attempt 0))
    else ({ w with station := { w.station with eventWaker := some .wifi } }, .wait .watching)

end GalaxyProjector
