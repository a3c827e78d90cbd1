import GalaxyProjector.Wave

/-! The shape of the triangle wave. Over one period of 6283 ms the wave climbs
from 0 at the period's start to 255 at half a period (3141 ms), holds 255 one
millisecond more and falls back; the way down mirrors the way up, so a place
and its mirror `6283 - place` show one level. The climb is 255 levels over
3141 steps, less than a level a step, so neighbouring milliseconds differ by at
most one level, over the peak and across the end of the period too.

The level at a place is the place's distance from the nearer end of the period
(`waveRamp`), scaled; every fact below is a fact about that ramp and a floored
quotient. -/

namespace GalaxyProjector

/-- How far up the wave is at a place of the period: the place itself on the
way up, the way left to the period's end on the way down. -/
def waveRamp (pos : Nat) : Nat := if pos < waveHalf then pos else wavePeriod - pos

theorem waveHalf_eq : waveHalf = 3141 := rfl

theorem wavePeriod_eq : wavePeriod = 2 * waveHalf + 1 := rfl

theorem waveAt_toNat (pos : Nat) : (waveAt pos).toNat = min (waveRamp pos * 255 / waveHalf) 255 := by
  have h : min (waveRamp pos * 255 / waveHalf) 255 < 256 := by omega
  show (min (waveRamp pos * 255 / waveHalf) 255).toUInt8.toNat = _
  rw [Nat.toUInt8, UInt8.toNat_ofNat']
  exact Nat.mod_eq_of_lt h

/-! ### The two slopes and the peak -/

theorem waveAt_rise {pos : Nat} (h : pos < waveHalf) : (waveAt pos).toNat = pos * 255 / waveHalf := by
  have hle : pos * 255 / waveHalf ≤ 255 := by rw [waveHalf_eq] at *; omega
  rw [waveAt_toNat, waveRamp, if_pos h, Nat.min_eq_left hle]

theorem waveAt_fall {pos : Nat} (h : waveHalf < pos) :
    (waveAt pos).toNat = (wavePeriod - pos) * 255 / waveHalf := by
  have hle : (wavePeriod - pos) * 255 / waveHalf ≤ 255 := by
    rw [wavePeriod_eq, waveHalf_eq] at *; omega
  rw [waveAt_toNat, waveRamp, if_neg (Nat.not_lt_of_gt h), Nat.min_eq_left hle]

theorem waveAt_half : waveAt waveHalf = 255 := by
  apply UInt8.toNat_inj.mp
  rw [waveAt_toNat, waveRamp, if_neg (Nat.lt_irrefl _)]
  rfl

theorem waveAt_zero : waveAt 0 = 0 := by
  apply UInt8.toNat_inj.mp
  rw [waveAt_rise (by decide)]
  rfl

theorem waveAt_last : waveAt (wavePeriod - 1) = 0 := by
  apply UInt8.toNat_inj.mp
  rw [waveAt_fall (by decide)]
  rfl

/-! ### Monotone halves, the mirror and the peak -/

theorem waveAt_rise_mono {p q : Nat} (hpq : p ≤ q) (hq : q ≤ waveHalf) : waveAt p ≤ waveAt q := by
  rcases Nat.lt_or_eq_of_le hq with hq | rfl
  · rw [UInt8.le_iff_toNat_le, waveAt_rise (Nat.lt_of_le_of_lt hpq hq), waveAt_rise hq]
    exact Nat.div_le_div_right (Nat.mul_le_mul_right _ hpq)
  · rw [waveAt_half]
    exact UInt8.le_iff_toNat_le.mpr (Nat.le_of_lt_succ (waveAt p).toNat_lt)

theorem waveAt_fall_anti {p q : Nat} (hp : waveHalf ≤ p) (hpq : p ≤ q) : waveAt q ≤ waveAt p := by
  rcases Nat.lt_or_eq_of_le hp with hp | rfl
  · rw [UInt8.le_iff_toNat_le, waveAt_fall hp, waveAt_fall (Nat.lt_of_lt_of_le hp hpq)]
    exact Nat.div_le_div_right (Nat.mul_le_mul_right _ (Nat.sub_le_sub_left hpq _))
  · rw [waveAt_half]
    exact UInt8.le_iff_toNat_le.mpr (Nat.le_of_lt_succ (waveAt q).toNat_lt)

theorem waveAt_mirror {p : Nat} (h₁ : 1 ≤ p) (h₂ : p < wavePeriod) : waveAt (wavePeriod - p) = waveAt p := by
  apply UInt8.toNat_inj.mp
  rw [waveAt_toNat, waveAt_toNat, waveRamp, waveRamp]
  rw [wavePeriod_eq, waveHalf_eq] at *
  split <;> split <;> omega

theorem waveAt_eq_peak {p : Nat} (h : p < wavePeriod) : waveAt p = 255 ↔ p = waveHalf ∨ p = waveHalf + 1 := by
  have h255 : (255 : UInt8).toNat = 255 := rfl
  rw [← UInt8.toNat_inj, waveAt_toNat, waveRamp, h255]
  rw [wavePeriod_eq, waveHalf_eq] at *
  split <;> omega

theorem waveAt_succ {p : Nat} (h : p + 1 < wavePeriod) :
    (((waveAt (p + 1)).toNat : Int) - (waveAt p).toNat).natAbs ≤ 1 := by
  rw [waveAt_toNat, waveAt_toNat, waveRamp, waveRamp]
  rw [wavePeriod_eq, waveHalf_eq] at *
  split <;> split <;> omega

/-! ### The wave over time -/

theorem wave_ok {now phase : Nat} (h : now + phase ≤ clockMax) :
    wave now phase = .ok (waveAt ((now + phase) % wavePeriod)) := by
  simp only [wave, if_pos h]

theorem wave_add_period {now phase : Nat} (h : now + wavePeriod + phase ≤ clockMax) :
    wave (now + wavePeriod) phase = wave now phase := by
  have hmod : (now + wavePeriod + phase) % wavePeriod = (now + phase) % wavePeriod := by
    rw [Nat.add_right_comm, Nat.add_mod_right]
  rw [wave_ok h, wave_ok (by omega), hmod]

theorem wave_place_succ (now phase : Nat) :
    (now + 1 + phase) % wavePeriod = (now + phase) % wavePeriod + 1 ∨
      ((now + phase) % wavePeriod = wavePeriod - 1 ∧ (now + 1 + phase) % wavePeriod = 0) := by
  rw [wavePeriod_eq, waveHalf_eq]
  omega

/-- The wave never jumps: the next millisecond is at most one level away,
across the period's end too, where both sides are at 0. -/
theorem wave_succ {now phase : Nat} (h : now + phase + 1 ≤ clockMax) :
    ∃ v v', wave now phase = .ok v ∧ wave (now + 1) phase = .ok v' ∧ ((v'.toNat : Int) - v.toNat).natAbs ≤ 1 := by
  refine ⟨_, _, wave_ok (by omega), wave_ok (by omega), ?_⟩
  rcases wave_place_succ now phase with hnext | ⟨hlast, hfirst⟩
  · rw [hnext]
    exact waveAt_succ (by rw [← hnext]; exact Nat.mod_lt _ (by decide))
  · rw [hlast, hfirst, waveAt_last, waveAt_zero]
    decide

/-- The shape of the wave. The level at a time is the level at its place in the
period, so a whole period later the wave is where it was. Over a period it
climbs from 0 to 255 at 3141 ms and falls back, a place and its mirror showing
one level; it is at 255 only at 3141 and 3142, and one millisecond on it moves
by at most one level. -/
theorem wave_shape :
    (∀ now phase, now + phase ≤ clockMax → wave now phase = .ok (waveAt ((now + phase) % wavePeriod))) ∧
    (∀ now phase, now + wavePeriod + phase ≤ clockMax → wave (now + wavePeriod) phase = wave now phase) ∧
    (∀ p, 1 ≤ p → p < wavePeriod → waveAt (wavePeriod - p) = waveAt p) ∧
    (waveAt 0 = 0 ∧ waveAt waveHalf = 255) ∧
    (∀ p q, p ≤ q → q ≤ waveHalf → waveAt p ≤ waveAt q) ∧
    (∀ p q, waveHalf ≤ p → p ≤ q → q < wavePeriod → waveAt q ≤ waveAt p) ∧
    (∀ p, p < wavePeriod → (waveAt p = 255 ↔ p = waveHalf ∨ p = waveHalf + 1)) ∧
    ∀ now phase, now + phase + 1 ≤ clockMax →
      ∃ v v', wave now phase = .ok v ∧ wave (now + 1) phase = .ok v' ∧ ((v'.toNat : Int) - v.toNat).natAbs ≤ 1 :=
  ⟨fun _ _ h => wave_ok h, fun _ _ h => wave_add_period h, fun _ h₁ h₂ => waveAt_mirror h₁ h₂,
    ⟨waveAt_zero, waveAt_half⟩, fun _ _ hpq hq => waveAt_rise_mono hpq hq,
    fun _ _ hp hpq _ => waveAt_fall_anti hp hpq, fun _ h => waveAt_eq_peak h, fun _ _ h => wave_succ h⟩

end GalaxyProjector
