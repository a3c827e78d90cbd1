import GalaxyProjector.Device.Boot
import GalaxyProjector.Device.Output
import GalaxyProjector.Device.Switches
import GalaxyProjector.Device.Wifi
import GalaxyProjector.Device.Server
import GalaxyProjector.Bench.Network
import GalaxyProjector.Bench.Report

/-!
A bench run: the firmware and the client sessions on one simulated clock.

The runner first polls `main`, then everything that is ready until nothing
is. Each round polls `main` if it was woken, then one batch of the executor,
then moves the frames waiting on the LAN. When nothing is ready and the LAN is
quiet, it walks the timer queue: the tasks whose time has come are woken and the
rounds go on. Only when the walk wakes nobody is the instant at rest. If a
thousand rounds never reach rest, it records `busy`, walks the queue once and
moves on.

It then moves the clock to the earliest of the next timer, the next scripted
event and the end of the run. An instant with scripted events runs them (pin
changes, then dropped stations, each in the order given) and leaves the timers
due then to the walk at rest, so the tasks the events woke run first. Any other
instant starts with a walk of the timers. The run ends after the round at its
end time.
-/

namespace GalaxyProjector

structure Tasks where
  booted : Bool := false
  mainDue : Nat := 0
  output : OutputTask := {}
  input : InputTask := {}
  wifi : WifiTask := .start
  servers : List ServerTask := (List.range serverCount).map fun k => { index := k }
  sessions : List SessionTask := []
  deriving Repr, Inhabited

def pollFuel : Nat := 100000

def busyLimit : Nat := 1000

def World.finishIf (w : World) (t : Task) (finished : Bool) : World :=
  if finished then { w with ready := w.ready.finish t } else w

def pollTask (json : Wire.Codec) (w : World) (ts : Tasks) : Task → World × Tasks
  | .main => (w, ts)
  | .output =>
    let (w, o, fin) := drive OutputTask.step pollFuel w ts.output
    (w.finishIf .output fin, { ts with output := o })
  | .input =>
    let (w, i, fin) := drive InputTask.step pollFuel w ts.input
    (w.finishIf .input fin, { ts with input := i })
  | .wifi =>
    let (w, s, fin) := drive WifiTask.step pollFuel w ts.wifi
    (w.finishIf .wifi fin, { ts with wifi := s })
  | .deviceNet => (runStack w .device .deviceNet, ts)
  | .clientNet => (runStack w .client .clientNet, ts)
  | .server k =>
    match ts.servers[k]? with
    | some s =>
      let (w, s, fin) := drive (ServerTask.step json) pollFuel w s
      (w.finishIf (.server k) fin, { ts with servers := ts.servers.set k s })
    | none => (w, ts)
  | .session k =>
    match ts.sessions[k]? with
    | some s =>
      let (w, s, fin) := drive SessionTask.step pollFuel w s
      (w.finishIf (.session k) fin, { ts with sessions := ts.sessions.set k s })
    | none => (w, ts)

def pollMain (credentials : Bool) (w : World) (ts : Tasks) : World × Tasks :=
  if !ts.booted then
    let (w, due) := boot w credentials
    (w, { ts with booted := true, mainDue := due })
  else if ts.mainDue > w.now then (w.schedule ts.mainDue .main, ts)
  else (w, ts)

def runBatch (json : Wire.Codec) (w : World) (ts : Tasks) : World × Tasks :=
  let (batch, ready) := w.ready.takeBatch
  batch.foldl (fun (acc : World × Tasks) t =>
    let w := { acc.1 with ready := acc.1.ready.unqueue t }
    if w.failure.isSome then (w, acc.2)
    else if w.ready.live.contains t then pollTask json w acc.2 t else (w, acc.2)) ({ w with ready }, ts)

def World.atRest (w : World) : Bool := !(w.ready.busy || lanPending w)

/-- Wake the tasks whose timers are due now, in the order the walk meets them. -/
def World.walkTimers (w : World) : World :=
  let (timers, woken) := w.timers.expire w.now
  { w with timers }.wakeAll woken

/-- Poll until nothing is ready, the LAN is quiet and no timer is due, for at
most `rounds` rounds; past that, record `busy` and walk the timers once. -/
def settle (json : Wire.Codec) (credentials : Bool) : Nat → World → Tasks → World × Tasks
  | rounds, w, ts =>
    let w := if w.atRest then w.walkTimers else w
    if w.atRest || w.failure.isSome then (w, ts)
    else
      match rounds with
      | 0 => ((w.record .busy).walkTimers, ts)
      | rounds + 1 =>
        let (w, ts) :=
          if w.ready.mainWoken then pollMain credentials { w with ready := { w.ready with mainWoken := false } } ts
          else (w, ts)
        let (w, ts) := runBatch json w ts
        settle json credentials rounds (deliver w) ts

inductive Cue where
  | pin (gpio : Nat) (low : Bool)
  | disconnect
  deriving DecidableEq, Repr, Inhabited

/-- The scripted events in time order (µs): pin changes before dropped
stations at the same time, each in the order given. -/
def cues (sc : Scenario) : List (Nat × Cue) :=
  ((sc.pins.map fun (p : PinChange) => (p.time * 1000, Cue.pin p.gpio p.low)) ++
    sc.accessPoint.disconnects.map fun t => (t * 1000, Cue.disconnect)).mergeSort fun a b => a.1 ≤ b.1

def applyCue (w : World) : Cue → World
  | .pin gpio low => { w with pins := (gpio, low) :: w.pins.filter (·.1 != gpio) }.record (.pin gpio low)
  | .disconnect =>
    if !w.station.connected then w
    else
      let w := { w with station := { w.station with connected := false, dropped := true } }.record .wifiDisconnect
      let w := match w.station.eventWaker with
        | some t => w.wake t
        | none => w
      match w.station.linkWaker with
      | some t => w.wake t
      | none => w

def advance (json : Wire.Codec) (credentials : Bool) (stop : Nat) : Nat → World → Tasks → List (Nat × Cue) → World × Tasks
  | 0, w, ts, _ => (w, ts)
  | fuel + 1, w, ts, cs =>
    if w.failure.isSome then (w, ts)
    else
      let next := (w.timers.next?.toList ++ (cs.head?.map (·.1)).toList).foldl min stop
      let now := max next w.now
      if now > stop then (w, ts)
      else
        let w := { w with now }
        let w := match cs.takeWhile (·.1 ≤ now) with
          | [] => w.walkTimers
          | due => due.foldl (fun w c => applyCue w c.2) w
        let (w, ts) := settle json credentials busyLimit w ts
        if w.now ≥ stop then (w, ts) else advance json credentials stop fuel w ts (cs.dropWhile (·.1 ≤ now))

structure BenchResult where
  events : List Stamped
  sessions : List SessionReport
  failure : Option String
  deriving Repr, Inhabited

/-- Run a scenario with the server linked against the JSON library `json`. -/
def Scenario.run (json : Wire.Codec) (sc : Scenario) : BenchResult :=
  let ts : Tasks := { sessions := sc.sessions.mapIdx fun k s => { index := k, spec := s } }
  let ready := (List.range sc.sessions.length).foldl (fun r k => r.spawn (.session k)) (Ready.spawn {} .clientNet)
  let w : World := { accessPoint := sc.accessPoint, ready := { ready with mainWoken := true } }
  let (w, ts) := settle json sc.credentials busyLimit w ts
  let cs := cues sc
  let stop := sc.stop * 1000
  let (w, ts) := advance json sc.credentials stop (stop + cs.length + 2) w ts cs
  { events := w.log.toList,
    sessions := ts.sessions.map fun s =>
      if w.ready.live.contains s.task then s.seen.cutShort else s.seen.report s.spec.play,
    failure := w.failure }

end GalaxyProjector
