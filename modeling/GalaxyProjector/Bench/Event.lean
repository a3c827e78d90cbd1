/-!
What a bench run records: the calls the firmware makes on its hardware (and
the simulated network's DHCP server, and the runner itself), each with the
millisecond it happened.
-/

namespace GalaxyProjector

inductive Field where
  | num (n : Nat)
  | text (s : String)
  | flag (b : Bool)
  deriving DecidableEq, Repr, Inhabited

/-- Something that happened during a run. -/
inductive Event where
  | init (cpuMhz : Nat)
  | heap (size : Nat) (attrs : String)
  | rtosStart
  | ledc
  | ledcClock (source : String)
  | ledcTimer (timer : String) (dutyBits : Nat) (clock : String) (hz : Nat)
  | ledcChannel (channel gpio dutyPct : Nat) (drive : String)
  | input (gpio : Nat) (pull : String)
  | duty (channel duty : Nat)
  | pin (gpio : Nat) (low : Bool)
  | radioInit
  | wifiNew
  | wifiConfig (ssid password : String)
  | wifiStart
  | wifiConnect (ok : Bool)
  | wifiDisconnect
  | dhcp (message : String)
  | busy
  deriving DecidableEq, Repr, Inhabited

namespace Event

def kind : Event → String
  | .init .. => "init"
  | .heap .. => "heap"
  | .rtosStart => "rtos_start"
  | .ledc => "ledc"
  | .ledcClock .. => "ledc_clock"
  | .ledcTimer .. => "ledc_timer"
  | .ledcChannel .. => "ledc_channel"
  | .input .. => "input"
  | .duty .. => "duty"
  | .pin .. => "pin"
  | .radioInit => "radio_init"
  | .wifiNew => "wifi_new"
  | .wifiConfig .. => "wifi_config"
  | .wifiStart => "wifi_start"
  | .wifiConnect .. => "wifi_connect"
  | .wifiDisconnect => "wifi_disconnect"
  | .dhcp .. => "dhcp"
  | .busy => "busy"

def fields : Event → List (String × Field)
  | .init mhz => [("cpu_mhz", .num mhz)]
  | .heap size attrs => [("size", .num size), ("attrs", .text attrs)]
  | .ledcClock source => [("source", .text source)]
  | .ledcTimer timer bits clock hz =>
    [("timer", .text timer), ("duty_bits", .num bits), ("clock", .text clock), ("hz", .num hz)]
  | .ledcChannel ch gpio pct drive =>
    [("channel", .num ch), ("gpio", .num gpio), ("duty_pct", .num pct), ("drive", .text drive)]
  | .input gpio pull => [("gpio", .num gpio), ("pull", .text pull)]
  | .duty ch d => [("channel", .num ch), ("duty", .num d)]
  | .pin gpio low => [("gpio", .num gpio), ("low", .flag low)]
  | .wifiConfig ssid password => [("ssid", .text ssid), ("password", .text password)]
  | .wifiConnect ok => [("ok", .flag ok)]
  | .dhcp m => [("message", .text m)]
  | _ => []

end Event

/-- An event with the millisecond it happened. -/
structure Stamped where
  time : Nat
  event : Event
  deriving DecidableEq, Repr, Inhabited

end GalaxyProjector
