import GalaxyProjector.Command
import GalaxyProjector.Tasking.Task

/-!
The command queue between the input and web tasks and the output frame: first
in, first out, eight commands at most. Senders that find it full share one
waker slot. A sender that takes the slot from another wakes the one it
displaces, so two blocked senders keep waking each other. Taking a command out
of a full queue wakes the waiting sender. The output frame only ever tries to
receive, so it never waits on the queue.
-/

namespace GalaxyProjector

structure Mailbox where
  items : List Command := []
  sender : Option Task := none
  deriving Repr, Inhabited

namespace Mailbox

def capacity : Nat := 8

/-- Try to queue a command. When the queue is full and the sender is given, it
takes the waker slot. The flag says whether the command went in; the tasks to
wake come last. -/
def trySend (q : Mailbox) (c : Command) (waiter : Option Task) : Mailbox × Bool × List Task :=
  if q.items.length < capacity then ({ q with items := q.items ++ [c] }, true, [])
  else
    match waiter with
    | none => (q, false, [])
    | some t =>
      match q.sender with
      | some old => if old == t then (q, false, []) else ({ q with sender := some t }, false, [old])
      | none => ({ q with sender := some t }, false, [])

/-- Take the oldest command, if any; from a full queue this wakes the waiting
sender. -/
def tryReceive (q : Mailbox) : Option Command × Mailbox × List Task :=
  let (q, woken) : Mailbox × List Task :=
    if q.items.length == capacity then
      match q.sender with
      | some t => ({ q with sender := none }, [t])
      | none => (q, [])
    else (q, [])
  match q.items with
  | [] => (none, q, woken)
  | c :: rest => (some c, { q with items := rest }, woken)

end Mailbox

end GalaxyProjector
