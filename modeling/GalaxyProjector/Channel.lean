/-!
The four channels of the projector. A channel is named by one exact word;
`ChannelId.ofName?` reads back exactly what `ChannelId.name` writes.
-/

namespace GalaxyProjector

inductive ChannelId where
  | power
  | brightness
  | colour
  | motor
  deriving DecidableEq, Repr, Inhabited

namespace ChannelId

/-- Every channel, in the order a frame renders and a snapshot lists them. -/
def all : List ChannelId := [.power, .brightness, .colour, .motor]

def name : ChannelId → String
  | .power => "Power"
  | .brightness => "Brightness"
  | .colour => "Colour"
  | .motor => "Motor"

/-- The channel with this exact name: case-sensitive, nothing trimmed. -/
def ofName? : String → Option ChannelId
  | "Power" => some .power
  | "Brightness" => some .brightness
  | "Colour" => some .colour
  | "Motor" => some .motor
  | _ => none

theorem ofName?_name (c : ChannelId) : ofName? c.name = some c := by
  cases c <;> rfl

theorem mem_all (c : ChannelId) : c ∈ all := by
  cases c <;> simp [all]

end ChannelId

end GalaxyProjector
