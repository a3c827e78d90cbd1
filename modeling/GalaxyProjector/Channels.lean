import GalaxyProjector.Command
import GalaxyProjector.Machine
import GalaxyProjector.Snapshot

/-!
The four channel machines of a projector, and what a frame and a command do
with them. A frame runs Power's active action, and the other channels' only
while Power is not in its off state. A command moves one machine, or installs
a custom value through the owner's store and switches that channel to custom
mode.
-/

namespace GalaxyProjector

structure Channels (α : Type) where
  power : Machine α
  brightness : Machine α
  colour : Machine α
  motor : Machine α
  powerOff : String
  deriving Repr, Inhabited

namespace Channels

variable {α σ : Type}

def machine (c : Channels α) : ChannelId → Machine α
  | .power => c.power
  | .brightness => c.brightness
  | .colour => c.colour
  | .motor => c.motor

def update (c : Channels α) : ChannelId → Machine α → Channels α
  | .power, m => { c with power := m }
  | .brightness, m => { c with brightness := m }
  | .colour, m => { c with colour := m }
  | .motor, m => { c with motor := m }

def setHook (c : Channels α) (on : Bool) : Channels α :=
  ⟨c.power.setHook on, c.brightness.setHook on, c.colour.setHook on, c.motor.setHook on,
    c.powerOff⟩

def isPowered (c : Channels α) : Bool := !c.power.isIn c.powerOff

def frameActions (c : Channels α) : List α :=
  c.power.activeAction.toList ++
    if c.isPowered then
      c.brightness.activeAction.toList ++ c.colour.activeAction.toList ++
        c.motor.activeAction.toList
    else []

/-- What a command leaves behind: the bank and the owner's state afterwards,
what the command returned, and the labels the hooks were called with, in order. -/
structure Applied (α σ : Type) where
  channels : Channels α
  ctx : σ
  result : Except Error Unit
  notes : List String

/-- Carry out a command. A custom value needs a custom state on its channel,
then a store that takes it, then the switch to custom mode; a channel already
in custom mode does not announce that switch, so it announces the new value. -/
def apply (store : σ → ChannelId → CustomValue → σ × Except CommandError Unit)
    (c : Channels α) (ctx : σ) : Command → Applied α σ
  | .advance id =>
    let r := (c.machine id).next
    ⟨c.update id r.machine, ctx, r.result.mapError .fsm, r.notes⟩
  | .custom id v =>
    let m := c.machine id
    if m.custom.isNone then ⟨c, ctx, .error (.fsm .noCustomState), []⟩
    else
      match store ctx id v with
      | (ctx', .error e) => ⟨c, ctx', .error (.command e), []⟩
      | (ctx', .ok ()) =>
        let r := m.useCustom
        match r.result with
        | .error e => ⟨c.update id r.machine, ctx', .error (.fsm e), r.notes⟩
        | .ok () =>
          ⟨c.update id r.machine, ctx', .ok (),
            r.notes ++ if m.customActive then r.machine.announce else []⟩
  | .refresh => ⟨c, ctx, .ok (), []⟩

/-- How clients see a channel: its custom value in custom mode, else its place
in the cycle. -/
def view (c : Channels α) (customValue : ChannelId → Option CustomValue) (id : ChannelId) :
    ChannelView :=
  let m := c.machine id
  if m.customActive then { custom := true, value := (customValue id).map CustomValue.packed }
  else { custom := false, index := m.current.bind fun i => if i < 256 then some i.toUInt8 else none }

def snapshot (c : Channels α) (customValue : ChannelId → Option CustomValue) : Snapshot :=
  Snapshot.ofViews (c.view customValue)

end Channels

end GalaxyProjector
