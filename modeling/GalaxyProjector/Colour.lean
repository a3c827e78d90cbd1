/-!
Colours of the RGBW group and brightness scaling. A colour packs into one
word as `0xRRGGBBWW`; `Rgbw.ofPacked` and `Rgbw.packed` are inverse.
`scale v b = v * b / 255` never exceeds either argument.
-/

namespace GalaxyProjector

/-- A level scaled by a brightness: `v * b / 255`, rounded down. -/
def scale (v b : UInt8) : UInt8 :=
  (v.toNat * b.toNat / 255).toUInt8

structure Rgbw where
  r : UInt8
  g : UInt8
  b : UInt8
  w : UInt8
  deriving DecidableEq, Repr, Inhabited

namespace Rgbw

def off : Rgbw := ⟨0, 0, 0, 0⟩

/-- The colour of a word `0xRRGGBBWW`. -/
def ofPacked (x : UInt32) : Rgbw :=
  ⟨(x >>> 24).toUInt8, (x >>> 16).toUInt8, (x >>> 8).toUInt8, x.toUInt8⟩

def packed (c : Rgbw) : UInt32 :=
  (c.r.toUInt32 <<< 24) ||| (c.g.toUInt32 <<< 16) ||| (c.b.toUInt32 <<< 8) ||| c.w.toUInt32

def scale (c : Rgbw) (level : UInt8) : Rgbw :=
  ⟨GalaxyProjector.scale c.r level, GalaxyProjector.scale c.g level,
    GalaxyProjector.scale c.b level, GalaxyProjector.scale c.w level⟩

def toList (c : Rgbw) : List UInt8 := [c.r, c.g, c.b, c.w]

end Rgbw

end GalaxyProjector
