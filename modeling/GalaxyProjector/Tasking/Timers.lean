import GalaxyProjector.Tasking.Task

/-!
The timer queue: a list of `(deadline, task)` entries, one per task. Asking
again for a task that already waits lowers its deadline if the new one is
earlier. Expiry walks the list from the front; an entry that is due is taken
out by moving the last entry into its place, and the walk looks at that slot
again. So the tasks are woken in the order the walk meets them, which is not
the order of their deadlines.
-/

namespace GalaxyProjector

structure Timers where
  entries : List (Nat × Task) := []
  deriving Repr, Inhabited

namespace Timers

def schedule (q : Timers) (due : Nat) (t : Task) : Timers :=
  if q.entries.any (·.2 == t) then
    { entries := q.entries.map fun e => if e.2 == t then (min e.1 due, t) else e }
  else { entries := q.entries ++ [(due, t)] }

def next? (q : Timers) : Option Nat :=
  q.entries.foldl (fun acc e => some (match acc with | some a => min a e.1 | none => e.1)) none

/-- The walk of `expire`: `kept` are the slots passed over, `rest` the slots
still to look at. -/
def sweep (now : Nat) (kept : List (Nat × Task)) (woken : List Task) :
    List (Nat × Task) → List (Nat × Task) × List Task
  | [] => (kept, woken)
  | e :: rest =>
    if e.1 ≤ now then
      match h : rest.reverse with
      | [] => (kept, woken ++ [e.2])
      | last :: mid =>
        have : mid.length < rest.length := by
          have hl := congrArg List.length h
          simp only [List.length_reverse, List.length_cons] at hl
          omega
        sweep now kept (woken ++ [e.2]) (last :: mid.reverse)
    else sweep now (kept ++ [e]) woken rest
  termination_by l => l.length

/-- Take out every timer due at `now`; the tasks to wake, in waking order. -/
def expire (q : Timers) (now : Nat) : Timers × List Task :=
  let (entries, woken) := sweep now [] [] q.entries
  ({ entries }, woken)

end Timers

end GalaxyProjector
