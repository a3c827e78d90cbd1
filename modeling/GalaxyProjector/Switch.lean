import GalaxyProjector.Machine

/-!
Debounced push switches. A switch line is sampled now and then; a low sample
is a press unless the switch is still held. After the line goes high the
switch counts as held until a high sample comes more than the quiet time after
the first high one, or a low sample comes after that much time: a bounce
inside the quiet time is not a new press.

Polling a switch reads its line (a failed read changes nothing), takes the
sample, and on a new press runs the switch's handler once. The press is taken
before the handler runs, so a handler that fails still uses it up. A handler
is a step of its own state that may fail; a gated one drops presses while the
power gate is off.
-/

namespace GalaxyProjector

/-- The quiet time after a release, in milliseconds, unless set otherwise. -/
def defaultQuiet : Nat := 100

structure Debounce where
  pressed : Bool := false
  releasedAt : Option Nat := none
  quiet : Nat := defaultQuiet
  deriving DecidableEq, Repr, Inhabited

namespace Debounce

def quietElapsed (d : Debounce) (now : Nat) : Bool :=
  d.pressed && match d.releasedAt with
    | some since => decide (now - since > d.quiet)
    | none => false

/-- Take one sample of the line at time `now`. The flag says whether the sample
is a new press, on which the switch's handler runs. -/
def sample (d : Debounce) (low : Bool) (now : Nat) : Debounce × Bool :=
  if low then
    if d.pressed && !d.quietElapsed now then ({ d with releasedAt := none }, false)
    else ({ d with pressed := true, releasedAt := none }, true)
  else if d.pressed then
    match d.releasedAt with
    | none => ({ d with releasedAt := some now }, false)
    | some _ =>
      if d.quietElapsed now then ({ d with pressed := false, releasedAt := none }, false)
      else (d, false)
  else (d, false)

/-- Poll the switch at time `now`; `none` is a failed read of the line. The
result is the debounce state, the handler's state, and `true` for a new press
the handler took, the handler's error if it failed, or `false`. -/
def update {η : Type} (d : Debounce) (press : η → η × Except Error Unit) (h : η)
    (line : Option Bool) (now : Nat) : Debounce × η × Except Error Bool :=
  match line with
  | none => (d, h, .error (.input .readFailed))
  | some low =>
    let (d, pressed) := d.sample low now
    if pressed then
      let (h, r) := press h
      (d, h, r.map fun _ => true)
    else (d, h, .ok false)

end Debounce

/-- The flag "the projector is on": the output task sets it in every frame and
the gated switches read it. A new gate is off. -/
structure PowerGate where
  on : Bool := false
  deriving DecidableEq, Repr, Inhabited

namespace PowerGate

def new : PowerGate := {}

def set (_ : PowerGate) (on : Bool) : PowerGate := { on }

def isOn (g : PowerGate) : Bool := g.on

@[simp] theorem isOn_new : new.isOn = false := rfl

@[simp] theorem isOn_set (g : PowerGate) (on : Bool) : (g.set on).isOn = on := rfl

end PowerGate

/-- A handler behind the power gate: while the gate is off a press is dropped,
which is no error. -/
def gatedPress {η : Type} (on : Bool) (inner : η → η × Except Error Unit) (h : η) :
    η × Except Error Unit :=
  if on then inner h else (h, .ok ())

def Machine.press {α : Type} (m : Machine α) : Machine α × Except Error Unit :=
  let r := m.next
  (r.machine, r.result.mapError .fsm)

end GalaxyProjector
