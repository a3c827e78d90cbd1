import GalaxyProjector.Colour
import GalaxyProjector.Error

/-!
PWM outputs. An output remembers its level and writes to its line only when
a new level differs; a write that fails leaves the level as it was. A level is
written as the duty `level * maxDuty / 255`.

The RGBW group writes red, green, blue and white in that order and stops at
the first error: the channels before it keep what they were given.
-/

namespace GalaxyProjector

/-- A PWM line: the duty meaning fully on, and whether writes to it fail. -/
structure PwmLine where
  maxDuty : Nat := 255
  failing : Bool := false
  deriving DecidableEq, Repr, Inhabited

def PwmLine.duty (l : PwmLine) (v : UInt8) : Nat := v.toNat * l.maxDuty / 255

structure Write where
  channel : Nat
  duty : Nat
  deriving DecidableEq, Repr

structure Pwm where
  line : PwmLine := {}
  level : UInt8 := 0
  deriving DecidableEq, Repr, Inhabited

namespace Pwm

/-- Ask for a level: no write if it is the level already, else one write, which
may fail. The result carries the duty written, if any. -/
def set (o : Pwm) (v : UInt8) : Except OutputError (Pwm × Option Nat) :=
  if v = o.level then .ok (o, none)
  else if o.line.failing then .error .writeFailed
  else .ok ({ o with level := v }, some (o.line.duty v))

/-- Ask for a level given as a signed number; outside 0..=255 nothing is tried. -/
def setLevel (o : Pwm) (v : Int) : Except OutputError (Pwm × Option Nat) :=
  if 0 ≤ v ∧ v ≤ 255 then o.set v.toNat.toUInt8 else .error (.outOfRange v)

end Pwm

structure Outcome (σ : Type) where
  state : σ
  writes : List Write := []
  error : Option OutputError := none

structure RgbwOut where
  red : Pwm := {}
  green : Pwm := {}
  blue : Pwm := {}
  white : Pwm := {}
  deriving DecidableEq, Repr, Inhabited

namespace RgbwOut

def get (o : RgbwOut) : Fin 4 → Pwm
  | 0 => o.red
  | 1 => o.green
  | 2 => o.blue
  | 3 => o.white

def put (o : RgbwOut) : Fin 4 → Pwm → RgbwOut
  | 0, p => { o with red := p }
  | 1, p => { o with green := p }
  | 2, p => { o with blue := p }
  | 3, p => { o with white := p }

def colour (o : RgbwOut) : Rgbw := ⟨o.red.level, o.green.level, o.blue.level, o.white.level⟩

/-- Ask the channels for levels in the listed order, stopping at the first error. -/
def run (o : RgbwOut) : List (Fin 4 × Int) → Outcome RgbwOut
  | [] => ⟨o, [], none⟩
  | (k, v) :: rest =>
    match (o.get k).setLevel v with
    | .error e => ⟨o, [], some e⟩
    | .ok (p, written) =>
      let r := (o.put k p).run rest
      ⟨r.state, (written.map (⟨k.val, ·⟩)).toList ++ r.writes, r.error⟩

/-- Ask for four signed levels; each is range-checked just before its write. -/
def setLevels (o : RgbwOut) (r g b w : Int) : Outcome RgbwOut :=
  o.run [(0, r), (1, g), (2, b), (3, w)]

def set (o : RgbwOut) (r g b w : UInt8) : Outcome RgbwOut :=
  o.setLevels r.toNat g.toNat b.toNat w.toNat

def setColour (o : RgbwOut) (c : Rgbw) : Outcome RgbwOut := o.set c.r c.g c.b c.w

def off (o : RgbwOut) : Outcome RgbwOut := o.set 0 0 0 0

end RgbwOut

end GalaxyProjector
