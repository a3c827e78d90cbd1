import GalaxyProjector.Rig
import GalaxyProjector.Wave

/-!
Presets: what the active state of each channel does to the rig in a frame.
Brightness presets only set the brightness the others read; colour presets
light the colour channels at that brightness; motor presets set the motor.
The colour cycle is the only preset that reads the clock in a way that can
trap (see `cycleLevels`).
-/

namespace GalaxyProjector

/-- The action of a preset state. -/
inductive Preset where
  /-- Everything dark: colour light, then projector lamp, then motor. -/
  | powerOff
  | project
  | brightness (level : UInt8)
  | customBrightness
  | solid (red green blue white : Bool)
  /-- Red, green and blue waves a third of a period apart; white dark. -/
  | cycle
  | pulse
  | customColour
  | speed (level : UInt8)
  | customSpeed
  deriving DecidableEq, Repr, Inhabited

namespace Preset

def run (p : Preset) (r : Rig) : Except Trap Rig :=
  let level := r.brightness.rgbw
  match p with
  | .powerOff => .ok ((r.reportRgbw r.rgbw.off).set .lamp 0 |>.set .motor 0)
  | .project => .ok (r.set .lamp r.brightness.projector)
  | .brightness v => .ok (r.setBrightness v)
  | .customBrightness => .ok (r.setBrightness r.customBrightness)
  | .solid red green blue white =>
    let on := fun (lit : Bool) => if lit then level else 0
    .ok (r.reportRgbw (r.rgbw.set (on red) (on green) (on blue) (on white)))
  | .cycle => do
    let ls ← cycleLevels r.now level
    let v := fun k => (ls.getD k 0).toNat
    return r.reportRgbw (r.rgbw.setLevels (v 0) (v 1) (v 2) 0)
  | .pulse => do
    let v ← pulseLevel r.now level
    return r.reportRgbw (r.rgbw.setLevels v.toNat v.toNat v.toNat v.toNat)
  | .customColour => .ok (r.reportRgbw (r.rgbw.setColour (r.customColour.scale level)))
  | .speed v => .ok (r.set .motor v)
  | .customSpeed => .ok (r.set .motor r.customSpeed)

end Preset

end GalaxyProjector
