import GalaxyProjector.Snapshot
import GalaxyProjector.Tasking.Task

/-!
The snapshot broadcast: a queue of two messages, each with the number of
subscribers yet to read it, and at most eight subscribers. Every message has
an id, counting up; a subscriber keeps the id of the next message it wants.

Publishing drops the oldest message when the queue is full, and then adds the
new one only if someone subscribes. A subscriber whose next message was
dropped skips to the oldest one still held. The last reader of the oldest
message removes it. Waiting subscribers share up to eight waker slots, all
woken by a publish; a ninth waiter first wakes the eight.
-/

namespace GalaxyProjector

structure Broadcast where
  /-- Held messages, oldest first, with their readers still to come. -/
  queue : List (Snapshot × Nat) := []
  nextId : Nat := 0
  subscribers : Nat := 0
  waiters : List Task := []
  deriving Repr, Inhabited

namespace Broadcast

def capacity : Nat := 2

def maxSubscribers : Nat := 8

def firstId (b : Broadcast) : Nat := b.nextId - b.queue.length

def publish (b : Broadcast) (m : Snapshot) : Broadcast × List Task :=
  let b := if b.queue.length == capacity then { b with queue := b.queue.drop 1 } else b
  if b.subscribers == 0 then (b, [])
  else
    ({ b with queue := b.queue ++ [(m, b.subscribers)], nextId := b.nextId + 1, waiters := [] },
      b.waiters)

/-- A new subscriber, starting at the next message published; none when all
places are taken. -/
def subscribe (b : Broadcast) : Option (Nat × Broadcast) :=
  if b.subscribers ≥ maxSubscribers then none
  else some (b.nextId, { b with subscribers := b.subscribers + 1 })

def unread (i : Nat) (q : List (Snapshot × Nat)) : List (Snapshot × Nat) :=
  (q.take i) ++ (q.drop i).map fun (m, n) => (m, n - 1)

def dropRead : List (Snapshot × Nat) → List (Snapshot × Nat)
  | [] => []
  | (m, n) :: rest => if n == 0 then dropRead rest else (m, n) :: rest

/-- A subscriber whose next id is `next` leaves. -/
def unsubscribe (b : Broadcast) (next : Nat) : Broadcast :=
  let b := { b with subscribers := b.subscribers - 1 }
  if next ≥ b.firstId then
    { b with queue := dropRead (unread (next - b.firstId) b.queue) }
  else b

def await (b : Broadcast) (t : Task) : Broadcast × List Task :=
  if b.waiters.contains t then (b, [])
  else if b.waiters.length ≥ maxSubscribers then ({ b with waiters := [t] }, b.waiters)
  else ({ b with waiters := b.waiters ++ [t] }, [])

/-- Read the next message for a subscriber whose next id is `next`, skipping
dropped ones. Without a message the reader, if given, waits. The result is the
message, the subscriber's new next id, the channel, and the tasks to wake. -/
def take (b : Broadcast) (next : Nat) (reader : Option Task) :
    Option Snapshot × Nat × Broadcast × List Task :=
  let next := max next b.firstId
  let i := next - b.firstId
  match b.queue.drop i with
  | [] =>
    match reader with
    | some t => let (b, woken) := b.await t; (none, next, b, woken)
    | none => (none, next, b, [])
  | (m, n) :: _ =>
    let queue := if i == 0 && n == 1 then b.queue.drop 1
      else b.queue.take i ++ (b.queue.drop i).mapIdx fun j e => if j == 0 then (e.1, e.2 - 1) else e
    (some m, next + 1, { b with queue }, [])

end Broadcast

end GalaxyProjector
