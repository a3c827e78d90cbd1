import GalaxyProjector.Command
import GalaxyProjector.Output

/-!
The rig: the six outputs of the projector with the values presets read —
the current brightness, the custom values clients installed and the time of
the frame. A write that fails inside a preset is kept as the rig's fault (the
last one wins) and the preset goes on with its other outputs. The rig keeps a
journal of the duties it wrote, in order, for whoever watches the lines.
-/

namespace GalaxyProjector

structure Brightness where
  rgbw : UInt8 := 0
  projector : UInt8 := 0
  deriving DecidableEq, Repr, Inhabited

/-- The outputs of the projector and the values its presets read. -/
structure Rig where
  rgbw : RgbwOut := {}
  projector : Pwm := {}
  motor : Pwm := {}
  brightness : Brightness := {}
  customBrightness : UInt8 := 0
  customColour : Rgbw := .off
  customSpeed : UInt8 := 0
  now : Nat := 0
  fault : Option OutputError := none
  journal : List Write := []
  deriving Repr, Inhabited

namespace Rig

/-- The outputs of a single line: the projector lamp and the motor. -/
inductive Single where
  | lamp
  | motor
  deriving DecidableEq, Repr, Inhabited

def Single.channel : Single → Nat
  | .lamp => 4
  | .motor => 5

def ofLines (lines : List PwmLine) : Rig :=
  let line := fun k => lines.getD k {}
  { rgbw := ⟨⟨line 0, 0⟩, ⟨line 1, 0⟩, ⟨line 2, 0⟩, ⟨line 3, 0⟩⟩
    projector := ⟨line 4, 0⟩, motor := ⟨line 5, 0⟩ }

def setBrightness (r : Rig) (v : UInt8) : Rig := { r with brightness := ⟨v, v⟩ }

def reportRgbw (r : Rig) (o : Outcome RgbwOut) : Rig :=
  { r with rgbw := o.state, journal := r.journal ++ o.writes, fault := o.error.or r.fault }

/-- Keep the result of a write to a single output. -/
def report (r : Rig) (channel : Nat) (put : Pwm → Rig)
    (res : Except OutputError (Pwm × Option Nat)) : Rig :=
  match res with
  | .error e => { r with fault := some e }
  | .ok (p, written) =>
    let r' := put p
    { r' with journal := r.journal ++ (written.map (⟨channel, ·⟩)).toList }

def single (r : Rig) : Single → Pwm
  | .lamp => r.projector
  | .motor => r.motor

def putSingle (r : Rig) : Single → Pwm → Rig
  | .lamp, p => { r with projector := p }
  | .motor, p => { r with motor := p }

def set (r : Rig) (o : Single) (v : UInt8) : Rig :=
  r.report o.channel (r.putSingle o) ((r.single o).set v)

/-- Install a custom value. Each channel takes its own kind of value; Power
takes none, and a refused value leaves the rig as it was. -/
def store (r : Rig) : ChannelId → CustomValue → Rig × Except CommandError Unit
  | .colour, .colour c => ({ r with customColour := c }, .ok ())
  | .brightness, .level v => ({ r with customBrightness := v }, .ok ())
  | .motor, .level v => ({ r with customSpeed := v }, .ok ())
  | .power, _ => (r, .error .noCustomState)
  | _, _ => (r, .error .valueMismatch)

def customValue (r : Rig) : ChannelId → Option CustomValue
  | .power => none
  | .brightness => some (.level r.customBrightness)
  | .colour => some (.colour r.customColour)
  | .motor => some (.level r.customSpeed)

def takeFault (r : Rig) : Option OutputError × Rig := (r.fault, { r with fault := none })

def takeJournal (r : Rig) : List Write × Rig := (r.journal, { r with journal := [] })

end Rig

end GalaxyProjector
