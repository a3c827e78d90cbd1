import GalaxyProjector.Channels
import GalaxyProjector.Preset

/-!
The projector: the four preset machines driving a rig.

* Power cycles Power Off, Power On, Project.
* Brightness cycles 20, 50, 150, 255, with a custom level.
* Colour cycles twelve solid mixes, the colour cycle and the pulse, with a custom
  colour.
* Motor cycles off, fast (255), slow (100), with a custom speed.
-/

namespace GalaxyProjector

def powerOffName : String := "Power Off"

/-- Power: off, on without an action, and the projector lamp. -/
def powerMachine : Machine Preset :=
  { label := "Power", current := some 0
    states := [⟨powerOffName, some .powerOff⟩, ⟨"Power On", none⟩, ⟨"Project", some .project⟩] }

def brightnessMachine : Machine Preset :=
  { label := "Brightness", current := some 0
    states := [⟨"Extra Low", some (.brightness 20)⟩, ⟨"Low", some (.brightness 50)⟩,
      ⟨"Medium", some (.brightness 150)⟩, ⟨"High", some (.brightness 255)⟩]
    custom := some ⟨"Custom Brightness", some .customBrightness⟩ }

def colourMachine : Machine Preset :=
  { label := "Colour", current := some 0
    states := [
      ⟨"Blue", some (.solid false false true false)⟩,
      ⟨"Red", some (.solid true false false false)⟩,
      ⟨"Green", some (.solid false true false false)⟩,
      ⟨"White", some (.solid false false false true)⟩,
      ⟨"Blue Red", some (.solid true false true false)⟩,
      ⟨"Blue Green", some (.solid false true true false)⟩,
      ⟨"Red Green", some (.solid true true false false)⟩,
      ⟨"Red White", some (.solid true false false true)⟩,
      ⟨"Green White", some (.solid false true false true)⟩,
      ⟨"Red Green Blue", some (.solid true true true false)⟩,
      ⟨"Blue Green White", some (.solid false true true true)⟩,
      ⟨"Blue Red Green White", some (.solid true true true true)⟩,
      ⟨"Cycle", some .cycle⟩,
      ⟨"Pulse", some .pulse⟩]
    custom := some ⟨"Custom Colour", some .customColour⟩ }

def motorMachine : Machine Preset :=
  { label := "Motor", current := some 0
    states := [⟨"Motor Off", some (.speed 0)⟩, ⟨"Motor Fast", some (.speed 255)⟩,
      ⟨"Motor Slow", some (.speed 100)⟩]
    custom := some ⟨"Custom Speed", some .customSpeed⟩ }

structure Projector where
  channels : Channels Preset
  rig : Rig
  deriving Repr, Inhabited

namespace Projector

/-- A projector on a rig, every channel at its first state; `hooked` says
whether changes are announced. -/
def new (rig : Rig) (hooked : Bool) : Projector :=
  { channels := (Channels.mk powerMachine brightnessMachine colourMachine motorMachine
      powerOffName).setHook hooked
    rig }

/-- Carry out a command; the flag says whether a change was announced. A
refused command is handed back as its error alone: the bank refuses a command
before it changes anything. -/
def apply (p : Projector) (cmd : Command) : Except Error (Projector × Bool) :=
  let r := p.channels.apply Rig.store p.rig cmd
  match r.result with
  | .error e => .error e
  | .ok () => .ok ({ channels := r.channels, rig := r.ctx }, !r.notes.isEmpty)

/-- Run one frame at time `now`; the flag says whether the projector is on. -/
def render (p : Projector) (now : Nat) : Except Trap (Projector × Bool) := do
  let rig ← p.channels.frameActions.foldlM (fun r a => a.run r) { p.rig with now }
  return ({ p with rig }, p.channels.isPowered)

def isPowered (p : Projector) : Bool := p.channels.isPowered

def snapshot (p : Projector) : Snapshot := p.channels.snapshot p.rig.customValue

def takeFault (p : Projector) : Option OutputError × Projector :=
  let (f, rig) := p.rig.takeFault
  (f, { p with rig })

def takeJournal (p : Projector) : List Write × Projector :=
  let (j, rig) := p.rig.takeJournal
  (j, { p with rig })

end Projector

end GalaxyProjector
