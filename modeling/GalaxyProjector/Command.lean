import GalaxyProjector.Channel
import GalaxyProjector.Colour
import GalaxyProjector.Error

/-!
Commands to the projector and how they are decoded. A client sends either a
bare word (a channel name, or `getStates`) or an envelope `{id, mode, value}`.
Mode 0 advances the channel; mode 1 installs a custom value, a packed colour
for Colour and a level up to 255 for Brightness and Motor.
-/

namespace GalaxyProjector

inductive CustomValue where
  | colour (c : Rgbw)
  | level (v : UInt8)
  deriving DecidableEq, Repr

def CustomValue.packed : CustomValue → UInt32
  | .colour c => c.packed
  | .level v => v.toUInt32

inductive Command where
  | advance (id : ChannelId)
  | custom (id : ChannelId) (value : CustomValue)
  | refresh
  deriving DecidableEq, Repr

/-- The fields of a structured request, before they are checked. -/
structure Envelope where
  id : ChannelId
  mode : UInt8
  value : Option UInt32 := none
  deriving DecidableEq, Repr

def ChannelId.parse (name : String) : Except CommandError ChannelId :=
  match ChannelId.ofName? name with
  | some id => .ok id
  | none => .error .unknownCommand

namespace Command

/-- The command an envelope asks for. Mode 1 needs a value first of all; Power
has no custom state, and a level must fit in 0..=255. -/
def ofEnvelope (id : ChannelId) (mode : UInt8) (value : Option UInt32) :
    Except CommandError Command :=
  if mode = 0 then .ok (.advance id)
  else if mode = 1 then
    match value with
    | none => .error .missingValue
    | some v =>
      match id with
      | .power => .error .noCustomState
      | .colour => .ok (.custom id (.colour (Rgbw.ofPacked v)))
      | _ => if v ≤ 255 then .ok (.custom id (.level v.toUInt8)) else .error (.outOfRange v)
  else .error (.unknownMode mode)

/-- The command a bare word asks for: `getStates` refreshes, a channel name
advances that channel. -/
def ofWord (text : String) : Except CommandError Command :=
  if text = "getStates" then .ok .refresh
  else .advance <$> ChannelId.parse text

end Command

def Envelope.command (e : Envelope) : Except CommandError Command :=
  Command.ofEnvelope e.id e.mode e.value

end GalaxyProjector
