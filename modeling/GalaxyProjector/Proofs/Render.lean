import GalaxyProjector.Proofs.Frame

/-! What a frame shows, read off the logical state. A frame runs Power's preset
first and Brightness's second, so the colour light and the motor follow the
brightness of the logical state, while the lamp in Project shows the brightness
the frame before left. Power Off darkens all six outputs; in Power On no preset
drives the lamp. Unless the colour follows the clock, a frame right after
another writes nothing, once the lamp has caught up with the brightness. -/

namespace GalaxyProjector

namespace Logic

def active (a : Logic) (id : ChannelId) : Option Preset :=
  if a.custom id then (presetMachine id).custom.bind (·.action)
  else ((presetMachine id).states[(a.index id).val]?).bind (·.action)

def level (a : Logic) : UInt8 :=
  if a.custom .brightness then a.brightness
  else match (a.index .brightness).val with
    | 0 => 20
    | 1 => 50
    | 2 => 150
    | _ => 255

def motorSpeed (a : Logic) : UInt8 :=
  if a.custom .motor then a.speed
  else match (a.index .motor).val with
    | 0 => 0
    | 1 => 255
    | _ => 100

def shade (a : Logic) (now : Nat) : Rgbw :=
  match a.active .colour with
  | some p => p.shade now a.level a.colour
  | none => .off

def animated (a : Logic) : Bool := (a.active .colour).any Preset.animated

def inputs (a : Logic) (now : Nat) : Rig.Inputs := ⟨a.brightness, a.colour, a.speed, now⟩

/-- The presets a frame runs: Power's, then, unless Power is off, Brightness's,
Colour's and Motor's. -/
def frame (a : Logic) : List Preset :=
  (a.active .power).toList ++
    if (a.index .power).val = 0 then []
    else (a.active .brightness).toList ++ (a.active .colour).toList ++ (a.active .motor).toList

end Logic

/-- The lights a frame at time `now` leaves in logical state `a` on the lights
`before`. Power Off darkens all six outputs. Otherwise the colour light shows
the Colour preset at the brightness, the motor runs at the Motor speed and the
brightness is passed on, while in Project the lamp takes the brightness it
found. -/
structure Shows (a : Logic) (now : Nat) (before l : Lights) : Prop where
  dark : (a.index .power).val = 0 → l.colour = .off ∧ l.lamp = 0 ∧ l.motor = 0
  colour : (a.index .power).val ≠ 0 → l.colour = a.shade now
  motor : (a.index .power).val ≠ 0 → l.motor = a.motorSpeed
  brightness : (a.index .power).val ≠ 0 → l.brightness = ⟨a.level, a.level⟩
  lamp : (a.index .power).val = 2 → l.lamp = before.brightness.projector

namespace Logic

variable (a : Logic)

theorem index_power_cases : (a.index .power).val = 0 ∨ (a.index .power).val = 1 ∨ (a.index .power).val = 2 := by
  have h : (a.index .power).val < 3 := (a.index .power).isLt
  omega

theorem active_power : a.active .power =
    if (a.index .power).val = 0 then some .powerOff
    else if (a.index .power).val = 2 then some .project else none := by
  rcases a.index_power_cases with h | h | h <;> simp [active, a.power_plain, h, presetMachine, powerMachine]

theorem active_brightness : a.active .brightness =
    some (if a.custom .brightness then .customBrightness else .brightness a.level) := by
  by_cases hc : a.custom .brightness
  · simp [active, hc, presetMachine, brightnessMachine]
  · have h : (a.index .brightness).val < 4 := (a.index .brightness).isLt
    rcases (by omega : (a.index .brightness).val = 0 ∨ (a.index .brightness).val = 1 ∨
      (a.index .brightness).val = 2 ∨ (a.index .brightness).val = 3) with h | h | h | h <;>
      simp [active, level, hc, h, presetMachine, brightnessMachine]

theorem active_motor : a.active .motor =
    some (if a.custom .motor then .customSpeed else .speed a.motorSpeed) := by
  by_cases hc : a.custom .motor
  · simp [active, hc, presetMachine, motorMachine]
  · have h : (a.index .motor).val < 3 := (a.index .motor).isLt
    rcases (by omega : (a.index .motor).val = 0 ∨ (a.index .motor).val = 1 ∨
      (a.index .motor).val = 2) with h | h | h <;>
      simp [active, motorSpeed, hc, h, presetMachine, motorMachine]

theorem colour_states : ∀ s ∈ (presetMachine .colour).states, ∃ p, s.action = some p ∧ p.isColour := by
  simp [presetMachine, colourMachine, Preset.isColour]

theorem active_colour : ∃ p, a.active .colour = some p ∧ p.isColour := by
  unfold active
  split
  · exact ⟨.customColour, rfl, rfl⟩
  · have hi : (a.index .colour).val < (presetMachine .colour).states.length := (a.index .colour).isLt
    obtain ⟨p, hp, hc⟩ := colour_states _ (List.getElem_mem hi)
    exact ⟨p, by simp [List.getElem?_eq_getElem hi, hp], hc⟩

theorem frame_eq : a.frame =
    if (a.index .power).val = 0 then [.powerOff]
    else (if (a.index .power).val = 2 then [.project] else []) ++
      ((a.active .brightness).toList ++ (a.active .colour).toList ++ (a.active .motor).toList) := by
  rcases a.index_power_cases with h | h | h <;> simp [frame, active_power, h]

/-! ### The lights a frame leaves -/

theorem light_brightness_preset (now : Nat) (l : Lights) :
    (if a.custom .brightness then .customBrightness else .brightness a.level : Preset).light (a.inputs now) l =
      { l with brightness := ⟨a.level, a.level⟩ } := by
  by_cases hc : a.custom .brightness <;> simp [Preset.light, level, inputs, hc]

theorem light_motor_preset (now : Nat) (l : Lights) :
    (if a.custom .motor then .customSpeed else .speed a.motorSpeed : Preset).light (a.inputs now) l =
      { l with motor := a.motorSpeed } := by
  by_cases hc : a.custom .motor <;> simp [Preset.light, motorSpeed, inputs, hc]

theorem light_powered (now : Nat) (l : Lights) :
    ((a.active .brightness).toList ++ (a.active .colour).toList ++ (a.active .motor).toList).foldl
      (Preset.light (a.inputs now)) l =
      { l with brightness := ⟨a.level, a.level⟩, colour := a.shade now, motor := a.motorSpeed } := by
  obtain ⟨p, hp, hcol⟩ := a.active_colour
  rw [a.active_brightness, hp, a.active_motor]
  simp only [Option.toList_some, List.cons_append, List.nil_append, List.foldl_cons, List.foldl_nil]
  rw [light_brightness_preset, Preset.light_of_isColour hcol, light_motor_preset]
  simp [shade, hp, inputs]

/-- A frame leaves the lights the logical state asks for, the lamp in Project
taking the brightness it found. -/
theorem frame_shows (now : Nat) (l : Lights) :
    Shows a now l (a.frame.foldl (Preset.light (a.inputs now)) l) := by
  rcases a.index_power_cases with h | h | h
  · rw [frame_eq, if_pos h]
    exact ⟨fun _ => ⟨rfl, rfl, rfl⟩, fun h' => absurd h h', fun h' => absurd h h', fun h' => absurd h h',
      fun h' => by omega⟩
  · rw [frame_eq, if_neg (by omega), if_neg (by omega), List.nil_append, light_powered]
    exact ⟨fun h' => by omega, fun _ => rfl, fun _ => rfl, fun _ => rfl, fun h' => by omega⟩
  · rw [frame_eq, if_neg (by omega), if_pos h, List.singleton_append, List.foldl_cons, light_powered]
    exact ⟨fun h' => by omega, fun _ => rfl, fun _ => rfl, fun _ => rfl, fun _ => rfl⟩

/-! ### A frame after a frame -/

theorem frame_not_animated (hanim : a.animated = false) : ∀ p ∈ a.frame, p.animated = false := by
  obtain ⟨q, hq, -⟩ := a.active_colour
  have hq' : q.animated = false := by simpa [animated, hq] using hanim
  have hb : (if a.custom .brightness then .customBrightness else .brightness a.level : Preset).animated = false := by
    split <;> rfl
  have hm : (if a.custom .motor then .customSpeed else .speed a.motorSpeed : Preset).animated = false := by
    split <;> rfl
  rw [frame_eq, a.active_brightness, hq, a.active_motor]
  split
  · simp [Preset.animated]
  · split <;> simp [hb, hq', hm, show Preset.project.animated = false from rfl]

section Fixed

variable {a} {now now' : Nat} {before l : Lights}

theorem powered_fixed (hs : Shows a now before l) (hanim : a.animated = false) (h : (a.index .power).val ≠ 0) :
    ∀ p ∈ (a.active .brightness).toList ++ (a.active .colour).toList ++ (a.active .motor).toList,
      p.light (a.inputs now') l = l := by
  obtain ⟨q, hq, hcol⟩ := a.active_colour
  rw [a.active_brightness, hq, a.active_motor]
  simp only [Option.toList_some, List.cons_append, List.nil_append, List.mem_cons, List.not_mem_nil, or_false]
  rintro p (hp | hp | hp) <;> rw [hp]
  · rw [light_brightness_preset, ← hs.brightness h]
  · have hq' : q.animated = false := by simpa [animated, hq] using hanim
    have hcl : l.colour = q.shade now' a.level a.colour := by
      rw [hs.colour h, Preset.shade_of_not_animated hq' now' now]
      simp [shade, hq]
    have hb : l.brightness.rgbw = a.level := by rw [hs.brightness h]
    rw [Preset.light_of_isColour hcol, hb]
    exact congrArg (fun c => { l with colour := c }) hcl.symm
  · rw [light_motor_preset, ← hs.motor h]

theorem frame_fixed (hs : Shows a now before l) (hanim : a.animated = false)
    (hlamp : (a.index .power).val = 2 → before.brightness.projector = a.level) :
    ∀ p ∈ a.frame, p.light (a.inputs now') l = l := by
  rw [frame_eq]
  split
  · rename_i h
    obtain ⟨hc, hl, hm⟩ := hs.dark h
    simp only [List.mem_singleton, forall_eq]
    cases l
    simp_all [Preset.light]
  · rename_i h
    refine List.forall_mem_append.2 ⟨?_, powered_fixed hs hanim h⟩
    split
    · rename_i h2
      have hlamp' : l.lamp = l.brightness.projector := by rw [hs.lamp h2, hlamp h2, hs.brightness h]
      simp only [List.mem_singleton, forall_eq]
      cases l
      simp_all [Preset.light]
    · simp

end Fixed

end Logic

namespace Refines

variable {p : Projector} {a : Logic}

theorem activeAction (h : Refines p a) (id : ChannelId) :
    (p.channels.machine id).activeAction = a.active id := by
  cases hc : a.custom id <;>
    simp [Machine.activeAction, Machine.activeState, Machine.currentState, h.customActive, h.current,
      h.stocked.states, h.stocked.custom, Logic.active, hc]

theorem isPowered (h : Refines p a) : p.channels.isPowered = ((a.index .power).val != 0) := by
  have hcur := h.current .power
  have hst := h.stocked.states .power
  simp only [Channels.machine] at hcur hst
  rcases a.index_power_cases with hi | hi | hi <;>
    simp [Channels.isPowered, Machine.isIn, Machine.currentState, hcur, hst, h.stocked.powerOff, hi,
      presetMachine, powerMachine, powerOffName]

/-- The projector runs the presets of its logical state's frame. -/
theorem frameActions (h : Refines p a) : p.channels.frameActions = a.frame := by
  have hact := h.activeAction
  simp only [Channels.machine] at hact
  rw [Channels.frameActions, Logic.frame, hact .power, hact .brightness, hact .colour, hact .motor, h.isPowered]
  by_cases hv : (a.index .power).val = 0 <;> simp [hv]

theorem inputs (h : Refines p a) (now : Nat) : { p.rig with now }.inputs = a.inputs now := by
  simp [Rig.inputs, Logic.inputs, h.brightness, h.colour, h.speed]

/-- A frame at a time the colour cycle can reach runs, and if its writes
succeed it shows what the logical state asks for. -/
theorem render_shows (h : Refines p a) {now : Nat} (hnow : now ≤ clockMax - 4188) :
    ∃ p', p.render now = .ok (p', p.isPowered) ∧
      (p'.rig.fault = none → Shows a now p.rig.lights p'.rig.lights) := by
  have hclock : { p.rig with now }.now + 2 * (wavePeriod / 3) ≤ clockMax := by
    unfold clockMax wavePeriod at *
    simp only
    omega
  obtain ⟨r', hr⟩ := frame_ok (r := { p.rig with now }) fun q (_ : q ∈ p.channels.frameActions) => Or.inr hclock
  refine ⟨{ p with rig := r' }, by rw [Projector.render_eq, hr]; rfl, fun hf => ?_⟩
  obtain ⟨-, hl⟩ := frame_light hr hf
  show Shows a now p.rig.lights r'.lights
  rw [hl, h.frameActions, h.inputs now]
  exact a.frame_shows now { p.rig with now }.lights

/-- A frame right after one that showed the logical state writes nothing when
the colour is still and, in Project, the lamp has caught up with the
brightness. -/
theorem render_still (h : Refines p a) {now : Nat} {before : Lights} (hs : Shows a now before p.rig.lights)
    (hanim : a.animated = false) (hlamp : (a.index .power).val = 2 → before.brightness.projector = a.level) (now' : Nat) :
    ∃ p', p.render now' = .ok (p', p.isPowered) ∧ p'.rig = { p.rig with now := now' } := by
  have hstill : ∀ q ∈ p.channels.frameActions, q.animated = false := by
    rw [h.frameActions]
    exact a.frame_not_animated hanim
  obtain ⟨r', hr⟩ := frame_ok (r := { p.rig with now := now' }) fun q hq => Or.inl (hstill q hq)
  refine ⟨{ p with rig := r' }, by rw [Projector.render_eq, hr]; rfl, ?_⟩
  refine frame_still hr ?_
  rw [h.frameActions, h.inputs now']
  exact Logic.frame_fixed hs hanim hlamp

end Refines

/-! ### Frames along a run -/

/-- Along any run from a new projector, a frame at a time the colour cycle can
reach runs. If every write so far succeeded, the lights are what the logical
state asks for, the lamp in Project showing the brightness the frame before
left; and a frame right after writes nothing when the colour is still and the
lamp has caught up. -/
theorem frame_follows_logic (lines : List PwmLine) (hooked : Bool) (ops : List Op) (p : Projector)
    (h : (Projector.new (Rig.ofLines lines) hooked).run ops = .ok p) (now : Nat) (hnow : now ≤ clockMax - 4188) :
    ∃ p', p.render now = .ok (p', p.isPowered) ∧
      (p'.rig.fault = none →
        Shows (Logic.init.run ops) now p.rig.lights p'.rig.lights ∧
        ((Logic.init.run ops).animated = false →
          (((Logic.init.run ops).index .power).val = 2 → p.rig.brightness.projector = (Logic.init.run ops).level) →
          ∀ now', ∃ p'', p'.render now' = .ok (p'', p'.isPowered) ∧ p''.rig = { p'.rig with now := now' })) := by
  have hp := (refines_new lines hooked).run ops h
  obtain ⟨p', hr, hshow⟩ := hp.render_shows hnow
  refine ⟨p', hr, fun hf => ⟨hshow hf, fun hanim hlamp now' => ?_⟩⟩
  exact (hp.render hr).render_still (hshow hf) hanim hlamp now'

theorem frame_follows_logic_in_project :
    let ops : List Op := [.apply (.advance .power), .apply (.advance .power), .render 0]
    ∃ p, (Projector.new (Rig.ofLines []) true).run ops = .ok p ∧ 0 ≤ clockMax - 4188 ∧
      ∃ p', p.render 0 = .ok (p', p.isPowered) ∧
        (p'.rig.fault = none →
          Shows (Logic.init.run ops) 0 p.rig.lights p'.rig.lights ∧
          ((Logic.init.run ops).animated = false →
            (((Logic.init.run ops).index .power).val = 2 → p.rig.brightness.projector = (Logic.init.run ops).level) →
            ∀ now', ∃ p'', p'.render now' = .ok (p'', p'.isPowered) ∧ p''.rig = { p'.rig with now := now' })) :=
  ⟨_, rfl, Nat.zero_le _, frame_follows_logic [] true _ _ rfl 0 (Nat.zero_le _)⟩

/-- Power's preset runs before Brightness's, so the first frame in Project
leaves the lamp dark although the brightness is Extra Low, 20. -/
theorem project_lamp_lags_brightness :
    let ops : List Op := [.apply (.advance .power), .apply (.advance .power)]
    ∃ p p', (Projector.new (Rig.ofLines []) true).run ops = .ok p ∧ p.render 0 = .ok (p', true) ∧
      p'.rig.fault = none ∧ ((Logic.init.run ops).index .power).val = 2 ∧ (Logic.init.run ops).level = 20 ∧
      p'.rig.projector.level = 0 :=
  ⟨_, _, rfl, rfl, rfl, rfl, rfl, rfl⟩

end GalaxyProjector
