/-!
The tasks of a bench run, how they step, and the executor's run queue.

The firmware's `main` is polled by the runner itself; the others run on the
executor: the output frame, the switch poller, the WiFi connection keeper,
the two network stacks (the device's and the test client's), the four web
server tasks and the scripted client sessions.

A task's state says where it stands; a step either goes on at once (the next
step runs in the same poll), waits (the poll ends and the task's wakers are
set), or finishes the task, keeping its last state for whoever reads its
results. A poll runs steps until the task waits or finishes, for at most
`fuel` steps.

Waking a task that is alive and not already queued pushes it on a stack; a
batch takes the whole stack at once and polls it from the task woken last to
the task woken first. A task's queued mark is cleared just before it is
polled, so a task woken during a batch before its own turn is polled only
once. Waking `main` raises a flag the runner looks at.
-/

namespace GalaxyProjector

inductive Task where
  | main
  | output
  | input
  | wifi
  | deviceNet
  | clientNet
  | server (k : Nat)
  | session (k : Nat)
  deriving DecidableEq, Repr, Inhabited

inductive Step (σ : Type) where
  | next (s : σ)
  | wait (s : σ)
  | done (s : σ)
  deriving Repr, Inhabited

/-- Poll a task: run steps until it waits or finishes. The result is the world,
the task's state, and whether it finished. A task still running when the fuel
is spent waits where it stands. -/
def drive {ω σ : Type} (step : ω → σ → ω × Step σ) : Nat → ω → σ → ω × σ × Bool
  | 0, w, s => (w, s, false)
  | fuel + 1, w, s =>
    match step w s with
    | (w, .next s) => drive step fuel w s
    | (w, .wait s) => (w, s, false)
    | (w, .done s) => (w, s, true)

structure Ready where
  /-- Woken tasks, the latest first. -/
  stack : List Task := []
  queued : List Task := []
  live : List Task := []
  mainWoken : Bool := false
  deriving Repr, Inhabited

namespace Ready

def wake (r : Ready) (t : Task) : Ready :=
  if t == .main then { r with mainWoken := true }
  else if r.live.contains t && !r.queued.contains t then
    { r with stack := t :: r.stack, queued := t :: r.queued }
  else r

def wakeAll (r : Ready) (ts : List Task) : Ready := ts.foldl wake r

def spawn (r : Ready) (t : Task) : Ready := { r with live := r.live ++ [t] }.wake t

/-- A task has finished; wakers pointing at it do nothing from now on. -/
def finish (r : Ready) (t : Task) : Ready := { r with live := r.live.filter (· != t) }

def takeBatch (r : Ready) : List Task × Ready := (r.stack, { r with stack := [] })

def unqueue (r : Ready) (t : Task) : Ready := { r with queued := r.queued.filter (· != t) }

def busy (r : Ready) : Bool := !r.stack.isEmpty || r.mainWoken

end Ready

end GalaxyProjector
