import GalaxyProjector.Projector
import GalaxyProjector.Bench.World
import GalaxyProjector.Tasking.Task

/-!
The output task: every 5 ms it runs one frame.

1. Apply every queued command, in order. A change of state raises the
   "changed" signal through the projector's hook; a refresh asks for a
   snapshot.
2. Publish a snapshot if the state changed or a refresh came.
3. Set the power gate for the gated switches.
4. Render at the current millisecond; each PWM write is a `duty` event.
5. Take the fault of a failed write, if one was left; the firmware logs it
   and goes on.

Before the first frame it publishes the initial snapshot, which nobody can
have subscribed to yet. The frames follow a ticker: a late frame is followed at
once by the ones it missed.
-/

namespace GalaxyProjector

def framePeriod : Nat := 5000

/-- Apply the queued commands in order: the projector, the queue, whether a
change was announced, whether a refresh came, and the tasks to wake. -/
def drainQueue (p : Projector) (q : Mailbox) : Nat → Projector × Mailbox × Bool × Bool × List Task
  | 0 => (p, q, false, false, [])
  | fuel + 1 =>
    let (c?, q, woken) := q.tryReceive
    match c? with
    | none => (p, q, false, false, woken)
    | some c =>
      let (p, changed, refresh) := match p.apply c with
        | .ok (p, fired) => (p, fired, c == .refresh)
        | .error _ => (p, false, false)
      let (p, q, changed', refresh', woken') := drainQueue p q fuel
      (p, q, changed || changed', refresh || refresh', woken ++ woken')

def firmwareProjector : Projector := Projector.new (Rig.ofLines (List.replicate 6 { maxDuty := 256 })) true

/-- The first half of a frame: apply the queued commands, then publish a
snapshot if the state changed or a refresh came. The snapshot published, if
one was, comes last. -/
def frameCommands (w : World) (p : Projector) : World × Projector × Option Snapshot :=
  let (p, q, changed, refresh, woken) := drainQueue p w.mailbox (w.mailbox.items.length + 1)
  let w := { w with mailbox := q }.wakeAll woken
  if changed || refresh then
    let (b, woken) := w.broadcast.publish p.snapshot
    ({ w with broadcast := b }.wakeAll woken, p, some p.snapshot)
  else (w, p, none)

/-- The second half of a frame: set the power gate, render at the current
millisecond, then take the fault a failed write left, which the firmware only
logs. -/
def frameRender (w : World) (p : Projector) : World × Projector :=
  let w := { w with gate := w.gate.set p.isPowered }
  match p.render w.millis with
  | .ok (p, _) =>
    let (writes, p) := p.takeJournal
    let (_, p) := p.takeFault
    (writes.foldl (fun w x => w.record (.duty x.channel x.duty)) w, p)
  | .error t => (w.fail t.message, p)

def outputFrame (w : World) (p : Projector) : World × Projector :=
  let (w, p, _) := frameCommands w p
  frameRender w p

inductive OutputPhase where
  | start
  | frame
  | tick
  deriving DecidableEq, Repr, Inhabited

structure OutputTask where
  projector : Projector := firmwareProjector
  expires : Nat := 0
  phase : OutputPhase := .start
  deriving Repr, Inhabited

def OutputTask.step (w : World) (o : OutputTask) : World × Step OutputTask :=
  match o.phase with
  | .start =>
    let (b, woken) := w.broadcast.publish o.projector.snapshot
    ({ w with broadcast := b }.wakeAll woken, .next { o with expires := w.now + framePeriod, phase := .frame })
  | .frame =>
    let (w, p) := outputFrame w o.projector
    let o := { o with projector := p, phase := .tick }
    (w, if w.failure.isSome then .done o else .next o)
  | .tick =>
    if o.expires ≤ w.now then (w, .next { o with expires := o.expires + framePeriod, phase := .frame })
    else (w.schedule o.expires .output, .wait o)

end GalaxyProjector
