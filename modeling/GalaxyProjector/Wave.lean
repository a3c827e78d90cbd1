import GalaxyProjector.Colour

/-!
The triangle wave behind the animated colour presets. Time is counted in
milliseconds on a 64-bit clock; adding a phase past the clock's range is a
trap (`Trap.addOverflow`), the only way a frame can abort. Over one period of
6283 ms the wave climbs from 0 to 255 and falls back.
-/

namespace GalaxyProjector

inductive Trap where
  | addOverflow
  deriving DecidableEq, Repr

def Trap.message : Trap → String
  | .addOverflow => "attempt to add with overflow"

/-- The largest value of the 64-bit millisecond clock, 2^64 - 1. -/
def clockMax : Nat := 18446744073709551615

/-- Length of one wave period in milliseconds. -/
def wavePeriod : Nat := 6283

def waveHalf : Nat := wavePeriod / 2

def waveAt (pos : Nat) : UInt8 :=
  let ramp := if pos < waveHalf then pos else wavePeriod - pos
  (min (ramp * 255 / waveHalf) 255).toUInt8

def wave (now phase : Nat) : Except Trap UInt8 :=
  if now + phase ≤ clockMax then .ok (waveAt ((now + phase) % wavePeriod))
  else .error .addOverflow

def cyclePhases : List Nat := [0, wavePeriod / 3, 2 * (wavePeriod / 3)]

/-- Red, green and blue of the colour cycle at `now`, each scaled by `level`.
The phases are taken in order, so the first that overflows traps. -/
def cycleLevels (now : Nat) (level : UInt8) : Except Trap (List UInt8) :=
  cyclePhases.mapM fun phase => (scale · level) <$> wave now phase

def pulseLevel (now : Nat) (level : UInt8) : Except Trap UInt8 :=
  (scale · level) <$> wave now 0

end GalaxyProjector
