import GalaxyProjector.Proofs.Refinement

/-! What one frame leaves on the six outputs. When every write succeeds a
preset sets each output it drives to the level it asks for, and a write of the
level an output already holds goes nowhere. So a frame is described by a pure
function on the levels (`Preset.light`), run on the rig's inputs; a frame whose
presets ask for the levels already shown writes nothing. -/

namespace GalaxyProjector

/-- The levels of the six outputs, and the brightness the presets pass on. -/
structure Lights where
  colour : Rgbw
  lamp : UInt8
  motor : UInt8
  brightness : Brightness

def Rig.lights (r : Rig) : Lights := ⟨r.rgbw.colour, r.projector.level, r.motor.level, r.brightness⟩

def Lights.put (l : Lights) : Rig.Single → UInt8 → Lights
  | .lamp, v => { l with lamp := v }
  | .motor, v => { l with motor := v }

namespace Pwm

variable {o o' : Pwm} {v : UInt8} {w : Option Nat}

theorem set_level (h : o.set v = .ok (o', w)) : o'.level = v := by
  unfold set at h
  split at h
  · rename_i he
    cases h
    exact he.symm
  · split at h <;> cases h
    rfl

@[simp] theorem set_same (o : Pwm) : o.set o.level = .ok (o, none) := by
  simp [set]

theorem setLevel_level {x : Int} (h : o.setLevel x = .ok (o', w)) : o'.level = x.toNat.toUInt8 := by
  unfold setLevel at h
  split at h
  · exact set_level h
  · cases h

@[simp] theorem setLevel_same (o : Pwm) : o.setLevel (o.level.toNat : Int) = .ok (o, none) := by
  have : (o.level.toNat : Int) ≤ 255 := by have := o.level.toNat_lt; omega
  simp [setLevel, this]

end Pwm

namespace RgbwOut

variable {o : RgbwOut} {r g b w : Int}

@[simp] theorem colour_put_red (o : RgbwOut) (p : Pwm) : (o.put 0 p).colour = { o.colour with r := p.level } := rfl
@[simp] theorem colour_put_green (o : RgbwOut) (p : Pwm) : (o.put 1 p).colour = { o.colour with g := p.level } := rfl
@[simp] theorem colour_put_blue (o : RgbwOut) (p : Pwm) : (o.put 2 p).colour = { o.colour with b := p.level } := rfl
@[simp] theorem colour_put_white (o : RgbwOut) (p : Pwm) : (o.put 3 p).colour = { o.colour with w := p.level } := rfl

theorem setLevels_clean (h : (o.setLevels r g b w).error = none) :
    (o.setLevels r g b w).state.colour = ⟨r.toNat.toUInt8, g.toNat.toUInt8, b.toNat.toUInt8, w.toNat.toUInt8⟩ := by
  simp only [setLevels, run] at h ⊢
  split at h
  · cases h
  · rename_i p₀ w₀ h₀
    split at h
    · cases h
    · rename_i p₁ w₁ h₁
      split at h
      · cases h
      · rename_i p₂ w₂ h₂
        split at h
        · cases h
        · rename_i p₃ w₃ h₃
          simp only [get, colour_put_red, colour_put_green, colour_put_blue, colour_put_white] at h₁ h₂ h₃ ⊢
          rw [Pwm.setLevel_level h₀, Pwm.setLevel_level h₁, Pwm.setLevel_level h₂, Pwm.setLevel_level h₃]

theorem setLevels_same (o : RgbwOut) :
    o.setLevels o.red.level.toNat o.green.level.toNat o.blue.level.toNat o.white.level.toNat = ⟨o, [], none⟩ := by
  simp [setLevels, run, get, put]

theorem set_clean {r g b w : UInt8} (h : (o.set r g b w).error = none) : (o.set r g b w).state.colour = ⟨r, g, b, w⟩ := by
  rw [set, setLevels_clean h]
  simp

theorem set_same (o : RgbwOut) : o.set o.colour.r o.colour.g o.colour.b o.colour.w = ⟨o, [], none⟩ :=
  setLevels_same o

theorem setLevels_of_colour {r g b w : UInt8} (h : o.colour = ⟨r, g, b, w⟩) :
    o.setLevels r.toNat g.toNat b.toNat w.toNat = ⟨o, [], none⟩ := by
  simp only [colour, Rgbw.mk.injEq] at h
  obtain ⟨rfl, rfl, rfl, rfl⟩ := h
  exact setLevels_same o

theorem set_of_colour {r g b w : UInt8} (h : o.colour = ⟨r, g, b, w⟩) : o.set r g b w = ⟨o, [], none⟩ := by
  simp only [colour, Rgbw.mk.injEq] at h
  obtain ⟨rfl, rfl, rfl, rfl⟩ := h
  exact set_same o

end RgbwOut

namespace Rig

variable {r : Rig}

@[simp] theorem reportRgbw_lights (r : Rig) (o : Outcome RgbwOut) :
    (r.reportRgbw o).lights = { r.lights with colour := o.state.colour } := rfl

@[simp] theorem setBrightness_lights (r : Rig) (v : UInt8) :
    (r.setBrightness v).lights = { r.lights with brightness := ⟨v, v⟩ } := rfl

@[simp] theorem setBrightness_fault (r : Rig) (v : UInt8) : (r.setBrightness v).fault = r.fault := rfl

theorem reportRgbw_clean {o : Outcome RgbwOut} (h : (r.reportRgbw o).fault = none) :
    o.error = none ∧ r.fault = none := by
  simpa [reportRgbw] using h

theorem set_clean {o : Single} {v : UInt8} (h : (r.set o v).fault = none) :
    r.fault = none ∧ (r.set o v).lights = r.lights.put o v := by
  unfold set report at *
  split at *
  · cases h
  · rename_i p w hp
    have hlevel := Pwm.set_level hp
    cases o <;> exact ⟨h, by simp_all [lights, Lights.put, single, putSingle]⟩

theorem set_of_level (o : Single) {v : UInt8} (h : (r.single o).level = v) : r.set o v = r := by
  subst h
  cases o <;> simp [set, report, single, putSingle]

theorem setBrightness_of {v : UInt8} (h : r.brightness = ⟨v, v⟩) : r.setBrightness v = r := by
  rw [setBrightness, ← h]

@[simp] theorem reportRgbw_same (r : Rig) : r.reportRgbw ⟨r.rgbw, [], none⟩ = r := by
  simp [reportRgbw]

end Rig

/-! ### The waves -/

def waveLevel (now phase : Nat) (b : UInt8) : UInt8 := scale (waveAt ((now + phase) % wavePeriod)) b

theorem wave_eq (now phase : Nat) :
    wave now phase =
      if now + phase ≤ clockMax then .ok (waveAt ((now + phase) % wavePeriod)) else .error .addOverflow :=
  rfl

theorem cycleLevels_eq (now : Nat) (b : UInt8) :
    cycleLevels now b = if now + 2 * (wavePeriod / 3) ≤ clockMax then
      .ok [waveLevel now 0 b, waveLevel now (wavePeriod / 3) b, waveLevel now (2 * (wavePeriod / 3)) b]
    else .error .addOverflow := by
  simp only [cycleLevels, cyclePhases, List.mapM_cons, List.mapM_nil, wave_eq]
  -- the phases grow, so the first one to overflow decides, and all overflow alike
  by_cases h2 : now + 2 * (wavePeriod / 3) ≤ clockMax
  · rw [if_pos (by omega : now + 0 ≤ clockMax), if_pos (by omega : now + wavePeriod / 3 ≤ clockMax),
      if_pos h2, if_pos h2]
    rfl
  · rw [if_neg h2, if_neg h2]
    by_cases h1 : now + wavePeriod / 3 ≤ clockMax
    · rw [if_pos (by omega : now + 0 ≤ clockMax), if_pos h1]
      rfl
    · rw [if_neg h1]
      by_cases h0 : now + 0 ≤ clockMax
      · rw [if_pos h0]
        rfl
      · rw [if_neg h0]
        rfl

theorem pulseLevel_eq (now : Nat) (b : UInt8) :
    pulseLevel now b = if now ≤ clockMax then .ok (waveLevel now 0 b) else .error .addOverflow := by
  simp only [pulseLevel, wave_eq, Nat.add_zero]
  by_cases h : now ≤ clockMax
  · rw [if_pos h, if_pos h]
    rfl
  · rw [if_neg h, if_neg h]
    rfl

/-! ### Presets as functions on the lights -/

namespace Preset

/-- The colour a colour preset shows at time `now` and brightness `b`, `c` being
the custom colour: a solid mix lights its channels at `b`, the cycle runs red,
green and blue on waves a third of a period apart, the pulse runs all four on
one wave, and the custom colour is scaled by `b`. -/
def shade (now : Nat) (b : UInt8) (c : Rgbw) : Preset → Rgbw
  | .solid red green blue white =>
    ⟨if red then b else 0, if green then b else 0, if blue then b else 0, if white then b else 0⟩
  | .cycle =>
    ⟨waveLevel now 0 b, waveLevel now (wavePeriod / 3) b, waveLevel now (2 * (wavePeriod / 3)) b, 0⟩
  | .pulse => ⟨waveLevel now 0 b, waveLevel now 0 b, waveLevel now 0 b, waveLevel now 0 b⟩
  | .customColour => c.scale b
  | _ => .off

def isColour : Preset → Bool
  | .solid .. | .cycle | .pulse | .customColour => true
  | _ => false

def animated : Preset → Bool
  | .cycle | .pulse => true
  | _ => false

/-- What a preset leaves when every write succeeds, reading `i` of the rig. -/
def light (i : Rig.Inputs) (l : Lights) (p : Preset) : Lights :=
  -- the colour presets are listed rather than caught by a wildcard arm, whose
  -- equation would need a side condition for each of the other presets
  match p with
  | .powerOff => { l with colour := .off, lamp := 0, motor := 0 }
  | .project => { l with lamp := l.brightness.projector }
  | .brightness v => { l with brightness := ⟨v, v⟩ }
  | .customBrightness => { l with brightness := ⟨i.brightness, i.brightness⟩ }
  | .speed v => { l with motor := v }
  | .customSpeed => { l with motor := i.speed }
  | .solid .. | .cycle | .pulse | .customColour => { l with colour := p.shade i.now l.brightness.rgbw i.colour }

theorem light_of_isColour {p : Preset} (h : p.isColour) (i : Rig.Inputs) (l : Lights) :
    p.light i l = { l with colour := p.shade i.now l.brightness.rgbw i.colour } := by
  cases p <;> simp_all [light, isColour]

theorem shade_of_not_animated {p : Preset} (h : p.animated = false) (now now' : Nat) (b : UInt8) (c : Rgbw) :
    p.shade now b c = p.shade now' b c := by
  cases p <;> simp_all [shade, animated]

/-- A preset run whose writes all succeed leaves the lights `light` gives. -/
theorem run_light {a : Preset} {r r' : Rig} (h : a.run r = .ok r') (hf : r'.fault = none) :
    r.fault = none ∧ r'.lights = a.light r.inputs r.lights := by
  cases a with
  | powerOff =>
    simp only [run, Except.ok.injEq] at h
    subst h
    obtain ⟨h₁, hm⟩ := Rig.set_clean hf
    obtain ⟨h₂, hp⟩ := Rig.set_clean h₁
    obtain ⟨h₃, h₄⟩ := Rig.reportRgbw_clean h₂
    refine ⟨h₄, ?_⟩
    rw [hm, hp, Rig.reportRgbw_lights, RgbwOut.off, RgbwOut.set_clean h₃]
    rfl
  | project =>
    simp only [run, Except.ok.injEq] at h
    subst h
    obtain ⟨h₁, hp⟩ := Rig.set_clean hf
    exact ⟨h₁, hp⟩
  | brightness v | customBrightness =>
    simp only [run, Except.ok.injEq] at h
    subst h
    exact ⟨hf, rfl⟩
  | speed v | customSpeed =>
    simp only [run, Except.ok.injEq] at h
    subst h
    exact Rig.set_clean hf
  | solid red green blue white =>
    simp only [run, Except.ok.injEq] at h
    subst h
    obtain ⟨h₁, h₂⟩ := Rig.reportRgbw_clean hf
    refine ⟨h₂, ?_⟩
    rw [Rig.reportRgbw_lights, RgbwOut.set_clean h₁]
    rfl
  | customColour =>
    simp only [run, Except.ok.injEq] at h
    subst h
    obtain ⟨h₁, h₂⟩ := Rig.reportRgbw_clean hf
    refine ⟨h₂, ?_⟩
    rw [Rig.reportRgbw_lights, RgbwOut.setColour, RgbwOut.set_clean h₁]
    rfl
  | cycle =>
    simp only [run, cycleLevels_eq] at h
    split at h
    · simp only [bind, Except.bind, pure, Except.pure, Except.ok.injEq] at h
      subst h
      obtain ⟨h₁, h₂⟩ := Rig.reportRgbw_clean hf
      refine ⟨h₂, ?_⟩
      rw [Rig.reportRgbw_lights, RgbwOut.setLevels_clean h₁]
      simp [light, shade, Rig.lights, Rig.inputs]
    · cases h
  | pulse =>
    simp only [run, pulseLevel_eq] at h
    split at h
    · simp only [bind, Except.bind, pure, Except.pure, Except.ok.injEq] at h
      subst h
      obtain ⟨h₁, h₂⟩ := Rig.reportRgbw_clean hf
      refine ⟨h₂, ?_⟩
      rw [Rig.reportRgbw_lights, RgbwOut.setLevels_clean h₁]
      simp [light, shade, Rig.lights, Rig.inputs]
    · cases h

/-- A preset whose lights are already shown writes nothing and leaves the rig as
it was. -/
theorem run_still {a : Preset} {r r' : Rig} (h : a.run r = .ok r') (hl : a.light r.inputs r.lights = r.lights) :
    r' = r := by
  cases a with
  | powerOff =>
    simp only [run, Except.ok.injEq] at h
    subst h
    simp only [light, Rig.lights, Lights.mk.injEq] at hl
    obtain ⟨hc, hp, hm, -⟩ := hl
    rw [RgbwOut.off, RgbwOut.set_of_colour hc.symm, Rig.reportRgbw_same,
      Rig.set_of_level .lamp hp.symm, Rig.set_of_level .motor hm.symm]
  | project =>
    simp only [run, Except.ok.injEq] at h
    subst h
    simp only [light, Rig.lights, Lights.mk.injEq] at hl
    exact Rig.set_of_level .lamp hl.2.1.symm
  | brightness v | customBrightness =>
    simp only [run, Except.ok.injEq] at h
    subst h
    simp only [light, Rig.lights, Rig.inputs, Lights.mk.injEq] at hl
    exact Rig.setBrightness_of hl.2.2.2.symm
  | speed v | customSpeed =>
    simp only [run, Except.ok.injEq] at h
    subst h
    simp only [light, Rig.lights, Rig.inputs, Lights.mk.injEq] at hl
    exact Rig.set_of_level .motor hl.2.2.1.symm
  | solid red green blue white =>
    simp only [run, Except.ok.injEq] at h
    subst h
    simp only [light, shade, Rig.lights, Lights.mk.injEq] at hl
    rw [RgbwOut.set_of_colour hl.1.symm, Rig.reportRgbw_same]
  | customColour =>
    simp only [run, Except.ok.injEq] at h
    subst h
    simp only [light, shade, Rig.lights, Rig.inputs, Lights.mk.injEq] at hl
    have hc : r.rgbw.colour = ⟨(r.customColour.scale r.brightness.rgbw).r, (r.customColour.scale r.brightness.rgbw).g,
        (r.customColour.scale r.brightness.rgbw).b, (r.customColour.scale r.brightness.rgbw).w⟩ := hl.1.symm
    rw [RgbwOut.setColour, RgbwOut.set_of_colour hc, Rig.reportRgbw_same]
  | cycle =>
    simp only [run, cycleLevels_eq] at h
    split at h
    · simp only [bind, Except.bind, pure, Except.pure, Except.ok.injEq] at h
      subst h
      simp only [light, shade, Rig.lights, Rig.inputs, Lights.mk.injEq] at hl
      have h₀ : ((0 : UInt8).toNat : Int) = 0 := rfl
      simp only [List.getD_cons_zero, List.getD_cons_succ]
      rw [← h₀, RgbwOut.setLevels_of_colour hl.1.symm, Rig.reportRgbw_same]
    · cases h
  | pulse =>
    simp only [run, pulseLevel_eq] at h
    split at h
    · simp only [bind, Except.bind, pure, Except.pure, Except.ok.injEq] at h
      subst h
      simp only [light, shade, Rig.lights, Rig.inputs, Lights.mk.injEq] at hl
      rw [RgbwOut.setLevels_of_colour hl.1.symm, Rig.reportRgbw_same]
    · cases h

/-- Only a preset that follows the clock can trap, and only past the clock's end. -/
theorem run_ok (a : Preset) {r : Rig} (h : a.animated = false ∨ r.now + 2 * (wavePeriod / 3) ≤ clockMax) :
    ∃ r', a.run r = .ok r' := by
  cases a with
  | cycle =>
    have hn : r.now + 2 * (wavePeriod / 3) ≤ clockMax := by simpa [animated] using h
    simp only [run, cycleLevels_eq, if_pos hn]
    exact ⟨_, rfl⟩
  | pulse =>
    have hn : r.now ≤ clockMax := by simp [animated] at h; omega
    simp only [run, pulseLevel_eq, if_pos hn]
    exact ⟨_, rfl⟩
  | _ => exact ⟨_, rfl⟩

end Preset

section Frame

variable {acts : List Preset} {r r' : Rig}

/-- A frame whose writes all succeed leaves the lights its presets give, one
after another. -/
theorem frame_light (h : acts.foldlM (fun r a => a.run r) r = .ok r') (hf : r'.fault = none) :
    r.fault = none ∧ r'.lights = acts.foldl (Preset.light r.inputs) r.lights := by
  induction acts generalizing r with
  | nil =>
    simp only [List.foldlM_nil, pure, Except.pure, Except.ok.injEq] at h
    subst h
    exact ⟨hf, rfl⟩
  | cons a acts ih =>
    simp only [List.foldlM_cons] at h
    cases ha : a.run r with
    | error t => simp [ha, bind, Except.bind] at h
    | ok r₁ =>
      simp only [ha, bind, Except.bind] at h
      obtain ⟨hf₁, hl⟩ := ih h
      obtain ⟨hf₀, hl₁⟩ := Preset.run_light ha hf₁
      refine ⟨hf₀, ?_⟩
      rw [hl, Preset.run_inputs ha, hl₁, List.foldl_cons]

theorem frame_ok (h : ∀ a ∈ acts, a.animated = false ∨ r.now + 2 * (wavePeriod / 3) ≤ clockMax) :
    ∃ r', acts.foldlM (fun r a => a.run r) r = .ok r' := by
  induction acts generalizing r with
  | nil => exact ⟨r, rfl⟩
  | cons a acts ih =>
    obtain ⟨r₁, h₁⟩ := a.run_ok (h a List.mem_cons_self)
    have hnow : r₁.now = r.now := congrArg Rig.Inputs.now (Preset.run_inputs h₁)
    obtain ⟨r', h'⟩ := ih (r := r₁) fun b hb => hnow ▸ h b (List.mem_cons_of_mem a hb)
    exact ⟨r', by simpa only [List.foldlM_cons, h₁, bind, Except.bind] using h'⟩

/-- A frame whose presets all ask for the lights already shown writes nothing. -/
theorem frame_still (h : acts.foldlM (fun r a => a.run r) r = .ok r')
    (hl : ∀ a ∈ acts, a.light r.inputs r.lights = r.lights) : r' = r := by
  induction acts generalizing r with
  | nil =>
    simp only [List.foldlM_nil, pure, Except.pure, Except.ok.injEq] at h
    exact h.symm
  | cons a acts ih =>
    simp only [List.foldlM_cons] at h
    cases ha : a.run r with
    | error t => simp [ha, bind, Except.bind] at h
    | ok r₁ =>
      simp only [ha, bind, Except.bind] at h
      have h₁ : r₁ = r := Preset.run_still ha (hl a List.mem_cons_self)
      subst h₁
      exact ih h fun b hb => hl b (List.mem_cons_of_mem a hb)

end Frame

end GalaxyProjector
