import GalaxyProjector.Bench.World

/-!
The firmware's `main`. It sets up the chip (the CPU clock, two heap regions,
the RTOS), the LEDC PWM peripheral with one 8-bit 24 kHz timer and six
channels (GPIO 4, 5, 6, 7 for red, green, blue, white, 10 for the projector
lamp, 11 for the motor), and the four switch inputs with pull-ups, then starts
the output and input tasks. Built with WiFi credentials it also brings up the
radio and starts the WiFi task, the device's network stack (with its DHCP
client) and the four web server tasks. Then it sleeps for an hour.
-/

namespace GalaxyProjector

def setupEvents : List Event :=
  [.init 160, .heap 65536 "esp_hal::ram(reclaimed)", .heap 36864 "", .rtosStart, .ledc,
    .ledcClock "APBClk", .ledcTimer "Timer0" 8 "APBClk" 24000] ++
  ([(0, 4), (1, 5), (2, 6), (3, 7), (4, 10), (5, 11)].map fun (ch, gpio) => .ledcChannel ch gpio 0 "PushPull") ++
  ([18, 19, 20, 21].map fun gpio => .input gpio "Up")

def serverCount : Nat := 4

/-- How long `main` sleeps once it has started everything, in microseconds. -/
def mainSleep : Nat := 3600000000

def deviceStack : Stack := { iface := ({ mac := Mac.device, ip := none } : Interface).add (.dhcp {}) |>.2 }

/-- What `main` does when first polled; the time it then sleeps until. -/
def boot (w : World) (credentials : Bool) : World × Nat :=
  let w := setupEvents.foldl World.record w
  let w := { w with ready := (w.ready.spawn .output).spawn .input }
  let w := if credentials then
      let w := (w.record .radioInit).record .wifiNew
      let ready := [Task.wifi, .deviceNet].foldl Ready.spawn w.ready
      let ready := (List.range serverCount).foldl (fun r k => r.spawn (.server k)) ready
      { w with device := some deviceStack, ready }
    else w
  let due := w.now + mainSleep
  (w.schedule due .main, due)

end GalaxyProjector
