import GalaxyProjector.Error
import GalaxyProjector.Text.Unicode

/-!
A channel's state machine: up to `maxStates` named states in a cycle, one of
them current, and optionally a custom state that can stand in for the current
one. Actions are data (`α`): the machine only says which action is active,
and whoever owns the machine performs it.

A change is announced to the machine's hook when the active state changes, or
when the owner announces a new custom value; with no hook nothing is announced.
A call hands back the machine as it leaves it, what the call returned, and the
labels the hook was called with; a refused call hands back the machine it was
given.
-/

namespace GalaxyProjector

structure State (α : Type) where
  name : String
  action : Option α := none
  deriving Repr, Inhabited

namespace State

variable {α : Type}

def hasAction (s : State α) : Bool := s.action.isSome

/-- States are the same state when their names agree; actions do not count. -/
def same (s t : State α) : Bool := s.name == t.name

def describe (s : State α) : String :=
  "State \x7b name: " ++ Text.quoted s.name ++ ", has_action: " ++
    (if s.hasAction then "true" else "false") ++ " \x7d"

end State

def maxStates : Nat := 16

structure Machine (α : Type) where
  label : String
  states : List (State α) := []
  current : Option Nat := none
  initial : Option String := none
  custom : Option (State α) := none
  customActive : Bool := false
  hooked : Bool := false
  deriving Repr, Inhabited

namespace Machine

variable {α : Type}

def empty (label : String) : Machine α := { label }

def indexOf (m : Machine α) (name : String) : Option Nat :=
  m.states.findIdx? (·.name == name)

def size (m : Machine α) : Nat := m.states.length

def currentState (m : Machine α) : Option (State α) :=
  m.current.bind (m.states[·]?)

/-- The state whose action runs: the custom state in custom mode, else the
current one. -/
def activeState (m : Machine α) : Option (State α) :=
  if m.customActive then m.custom else m.currentState

def activeAction (m : Machine α) : Option α :=
  m.activeState.bind (·.action)

def isIn (m : Machine α) (name : String) : Bool :=
  match m.currentState with
  | some s => s.name == name
  | none => false

/-- What one call on a machine leaves behind: the machine afterwards, what the
call returned, and the labels the hook was called with, in order. -/
structure Call (α : Type) where
  machine : Machine α
  result : Except FsmError Unit
  notes : List String

def announce (m : Machine α) : List String := if m.hooked then [m.label] else []

/-- Name the state to start in. If it is already registered it becomes
current now; otherwise it becomes current when it is added. -/
def withInitial (m : Machine α) (name : String) : Machine α :=
  { m with initial := some name, current := (m.indexOf name).or m.current }

def setHook (m : Machine α) (on : Bool) : Machine α := { m with hooked := on }

/-- Register a state at the end of the cycle. A repeated name is refused before
a full table. The first state, and the initial one, become current. -/
def add (m : Machine α) (s : State α) : Call α :=
  if (m.indexOf s.name).isSome then ⟨m, .error .duplicateState, []⟩
  else if m.size ≥ maxStates then ⟨m, .error .full, []⟩
  else
    let current :=
      if m.current.isNone || m.initial == some s.name then some m.size else m.current
    ⟨{ m with states := m.states ++ [s], current }, .ok (), []⟩

def next (m : Machine α) : Call α :=
  match m.current with
  | none => ⟨m, .error .empty, []⟩
  | some i =>
    let m' := { m with customActive := false, current := some ((i + 1) % m.size) }
    ⟨m', .ok (), m'.announce⟩

/-- Make the named state current and leave custom mode. Choosing the current
state outside custom mode changes nothing and announces nothing. -/
def set (m : Machine α) (name : String) : Call α :=
  match m.indexOf name with
  | none => ⟨m, .error .unknownState, []⟩
  | some i =>
    if m.current == some i && !m.customActive then ⟨m, .ok (), []⟩
    else
      let m' := { m with customActive := false, current := some i }
      ⟨m', .ok (), m'.announce⟩

def setAction (m : Machine α) (name : String) (a : α) : Call α :=
  match m.indexOf name with
  | none => ⟨m, .error .unknownState, []⟩
  | some i => ⟨{ m with states := m.states.modify i ({ · with action := some a }) }, .ok (), []⟩

def setCustom (m : Machine α) (s : State α) : Call α :=
  if s.hasAction then ⟨{ m with custom := some s }, .ok (), []⟩
  else ⟨m, .error .customStateWithoutAction, []⟩

def useCustom (m : Machine α) : Call α :=
  match m.custom with
  | none => ⟨m, .error .noCustomState, []⟩
  | some _ =>
    if m.customActive then ⟨m, .ok (), []⟩
    else
      let m' := { m with customActive := true }
      ⟨m', .ok (), m'.announce⟩

inductive Op (α : Type) where
  | add (s : State α)
  | next
  | set (name : String)
  | setAction (name : String) (a : α)
  | setCustom (s : State α)
  | useCustom
  | announce
  | setHook (on : Bool)
  | withInitial (name : String)
  deriving Repr

/-- Make a call. Announcing, setting the hook and naming the initial state
always succeed. -/
def exec (m : Machine α) : Op α → Call α
  | .add s => m.add s
  | .next => m.next
  | .set name => m.set name
  | .setAction name a => m.setAction name a
  | .setCustom s => m.setCustom s
  | .useCustom => m.useCustom
  | .announce => ⟨m, .ok (), m.announce⟩
  | .setHook on => ⟨m.setHook on, .ok (), []⟩
  | .withInitial name => ⟨m.withInitial name, .ok (), []⟩

/-- Calls made one after another: the machine after the last, what each
returned, and every label passed to the hook, in order. -/
structure Trace (α : Type) where
  machine : Machine α
  results : List (Except FsmError Unit)
  notes : List String

def run (m : Machine α) : List (Op α) → Trace α
  | [] => ⟨m, [], []⟩
  | op :: ops =>
    let c := m.exec op
    let t := c.machine.run ops
    ⟨t.machine, c.result :: t.results, c.notes ++ t.notes⟩

end Machine

end GalaxyProjector
