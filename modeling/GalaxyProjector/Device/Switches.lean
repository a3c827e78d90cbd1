import GalaxyProjector.Switch
import GalaxyProjector.Bench.World
import GalaxyProjector.Tasking.Task

/-!
The input task: every 10 ms it samples the four switch lines (GPIO 18 Power,
19 Brightness, 20 Colour, 21 Motor; low is pressed) through their debouncers,
with a quiet time of 100 ms. A press queues `Advance` for its channel if there
is room, and is dropped otherwise. Brightness, Colour and Motor presses count
only while the power gate is on.
-/

namespace GalaxyProjector

def switchPeriod : Nat := 10000

/-- The switches: line, channel, and whether the power gate guards it. -/
def switchLines : List (Nat × ChannelId × Bool) :=
  [(18, .power, false), (19, .brightness, true), (20, .colour, true), (21, .motor, true)]

structure InputTask where
  debouncers : List Debounce := List.replicate 4 {}
  wakeAt : Option Nat := none
  deriving Repr, Inhabited

/-- A switch's handler in the input task: queue `Advance` for its channel if
there is room, and drop the press otherwise; it never fails. -/
def commandPress (ch : ChannelId) (w : World) : World × Except Error Unit :=
  let (q, _, woken) := w.mailbox.trySend (.advance ch) none
  ({ w with mailbox := q }.wakeAll woken, .ok ())

def sampleSwitches (w : World) (ds : List Debounce) : World × List Debounce :=
  let (w, ds) := (switchLines.zip ds).foldl (fun (acc : World × List Debounce) ((gpio, ch, gated), d) =>
    let (w, ds) := acc
    let press := if gated then gatedPress w.gate.isOn (commandPress ch) else commandPress ch
    let (d, w, _) := d.update press w (some (w.pinLow gpio)) w.millis
    (w, d :: ds)) (w, [])
  (w, ds.reverse)

def InputTask.step (w : World) (s : InputTask) : World × Step InputTask :=
  match s.wakeAt with
  | some t => if t > w.now then (w.schedule t .input, .wait s) else (w, .next { s with wakeAt := none })
  | none =>
    let (w, ds) := sampleSwitches w s.debouncers
    (w, .next { debouncers := ds, wakeAt := some (w.now + switchPeriod) })

end GalaxyProjector
