import GalaxyProjector.Channel

/-!
What clients see of the projector: per channel, whether custom mode is on, and
either the position in the cycle or the packed custom value.
-/

namespace GalaxyProjector

/-- One channel as clients see it. -/
structure ChannelView where
  custom : Bool := false
  index : Option UInt8 := none
  value : Option UInt32 := none
  deriving DecidableEq, Repr, Inhabited

structure Snapshot where
  power : ChannelView := {}
  brightness : ChannelView := {}
  colour : ChannelView := {}
  motor : ChannelView := {}
  deriving DecidableEq, Repr, Inhabited

namespace Snapshot

def channel (s : Snapshot) : ChannelId → ChannelView
  | .power => s.power
  | .brightness => s.brightness
  | .colour => s.colour
  | .motor => s.motor

def ofViews (f : ChannelId → ChannelView) : Snapshot :=
  ⟨f .power, f .brightness, f .colour, f .motor⟩

theorem channel_ofViews (f : ChannelId → ChannelView) (c : ChannelId) :
    (ofViews f).channel c = f c := by
  cases c <;> rfl

end Snapshot

end GalaxyProjector
