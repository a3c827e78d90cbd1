import GalaxyProjector.Proofs.Steps

/-! The projector refines a machine of four dials. Each channel is a place in a
cycle of fixed length and a custom flag, Power's never set; Brightness and Motor
hold a custom level and Colour a custom colour. Advancing a channel moves it one
place on and leaves custom mode, so a channel comes back from custom mode one
place after the one it kept. Over every run of commands and frames from a new
projector, each command has the outcome the dials give it, and the machines, the
rig's custom values and the snapshot follow the dials. -/

namespace GalaxyProjector

def cycleLength : ChannelId → Nat
  | .power => 3
  | .brightness => 4
  | .colour => 14
  | .motor => 3

theorem cycleLength_pos (id : ChannelId) : 0 < cycleLength id := by
  cases id <;> decide

theorem presetMachine_size (id : ChannelId) : (presetMachine id).size = cycleLength id := by
  cases id <;> rfl

/-- The logical state of a projector: each channel's place in its cycle and its
custom flag, and the three custom values. -/
structure Logic where
  index : (id : ChannelId) → Fin (cycleLength id)
  custom : ChannelId → Bool
  brightness : UInt8
  colour : Rgbw
  speed : UInt8
  power_plain : custom .power = false

namespace Logic

def init : Logic where
  index _ := ⟨0, cycleLength_pos _⟩
  custom _ := false
  brightness := 0
  colour := .off
  speed := 0
  power_plain := rfl

def advance (a : Logic) (id : ChannelId) : Logic :=
  { a with
    index := Function.update a.index id
      ⟨((a.index id).val + 1) % cycleLength id, Nat.mod_lt _ (cycleLength_pos id)⟩
    custom := Function.update a.custom id false
    power_plain := by
      rw [Function.update_apply]
      split <;> simp [a.power_plain] }

def enter (a : Logic) (id : ChannelId) (h : id ≠ .power) : Logic :=
  { a with
    custom := Function.update a.custom id true
    power_plain := by rw [Function.update_of_ne (Ne.symm h)]; exact a.power_plain }

/-- What a command does: Power has no custom state, and each other channel takes
one kind of custom value. -/
def apply (a : Logic) : Command → Except Error Logic
  | .advance id => .ok (a.advance id)
  | .custom .power _ => .error (.fsm .noCustomState)
  | .custom .brightness (.level v) => .ok { a.enter .brightness (by decide) with brightness := v }
  | .custom .colour (.colour c) => .ok { a.enter .colour (by decide) with colour := c }
  | .custom .motor (.level v) => .ok { a.enter .motor (by decide) with speed := v }
  | .custom _ _ => .error (.command .valueMismatch)
  | .refresh => .ok a

def payload (a : Logic) : ChannelId → Option CustomValue
  | .power => none
  | .brightness => some (.level a.brightness)
  | .colour => some (.colour a.colour)
  | .motor => some (.level a.speed)

def view (a : Logic) (id : ChannelId) : ChannelView :=
  if a.custom id then { custom := true, value := (a.payload id).map CustomValue.packed }
  else { custom := false, index := some (a.index id).val.toUInt8 }

def snapshot (a : Logic) : Snapshot := Snapshot.ofViews a.view

def step (a : Logic) : Op → Logic
  | .apply cmd =>
    match a.apply cmd with
    | .ok a' => a'
    | .error _ => a
  | .render _ => a

def run (a : Logic) (ops : List Op) : Logic := ops.foldl step a

end Logic

/-- The machines of a bank hold the projector's preset tables, and Power's off
state is the preset one. -/
structure Stocked (c : Channels Preset) : Prop where
  states : ∀ id, (c.machine id).states = (presetMachine id).states
  custom : ∀ id, (c.machine id).custom = (presetMachine id).custom
  powerOff : c.powerOff = powerOffName

theorem Stocked.size {c : Channels Preset} (h : Stocked c) (id : ChannelId) :
    (c.machine id).size = cycleLength id := by
  rw [Machine.size, h.states, ← presetMachine_size, Machine.size]

theorem Stocked.update {c : Channels Preset} (h : Stocked c) (id : ChannelId) {m' : Machine Preset}
    (hs : m'.states = (c.machine id).states) (hc : m'.custom = (c.machine id).custom) :
    Stocked (c.update id m') where
  states id' := by
    rw [Channels.machine_update]
    split <;> rename_i he
    · rw [hs, he, h.states]
    · exact h.states id'
  custom id' := by
    rw [Channels.machine_update]
    split <;> rename_i he
    · rw [hc, he, h.custom]
    · exact h.custom id'
  powerOff := by rw [Channels.powerOff_update, h.powerOff]

/-- A projector stands for a logical state: its machines hold the preset tables,
each is at the logical place with the logical custom flag, and the rig holds the
logical custom values. -/
structure Refines (p : Projector) (a : Logic) : Prop where
  stocked : Stocked p.channels
  current : ∀ id, (p.channels.machine id).current = some (a.index id).val
  customActive : ∀ id, (p.channels.machine id).customActive = a.custom id
  brightness : p.rig.customBrightness = a.brightness
  colour : p.rig.customColour = a.colour
  speed : p.rig.customSpeed = a.speed

theorem refines_new (lines : List PwmLine) (hooked : Bool) :
    Refines (Projector.new (Rig.ofLines lines) hooked) Logic.init where
  stocked :=
    { states := fun id => by rw [Projector.new_machine]; rfl
      custom := fun id => by rw [Projector.new_machine]; rfl
      powerOff := rfl }
  current id := by rw [Projector.new_machine]; cases id <;> rfl
  customActive id := by rw [Projector.new_machine]; cases id <;> rfl
  brightness := rfl
  colour := rfl
  speed := rfl

namespace Refines

variable {p : Projector} {a : Logic}

theorem custom_power (h : Refines p a) : (p.channels.machine .power).custom = none := by
  rw [h.stocked.custom]; rfl

theorem custom_installed (h : Refines p a) (id : ChannelId) (hid : id ≠ .power) :
    ∃ s, (p.channels.machine id).custom = some s := by
  rw [h.stocked.custom]
  cases id with
  | power => exact absurd rfl hid
  | brightness | colour | motor => exact ⟨_, rfl⟩

theorem advance (h : Refines p a) (id : ChannelId) :
    Refines { p with channels := (p.channels.update id
      { (p.channels.machine id) with
        customActive := false
        current := some (((a.index id).val + 1) % (p.channels.machine id).size) }) }
      (a.advance id) where
  stocked := h.stocked.update id rfl rfl
  current id' := by
    rw [Channels.machine_update]
    split <;> rename_i he
    · subst he
      simp [Logic.advance, h.stocked.size]
    · simp [Logic.advance, Function.update_of_ne he, h.current id']
  customActive id' := by
    rw [Channels.machine_update]
    split <;> rename_i he
    · subst he
      simp [Logic.advance]
    · simp [Logic.advance, Function.update_of_ne he, h.customActive id']
  brightness := h.brightness
  colour := h.colour
  speed := h.speed

theorem enter (h : Refines p a) (id : ChannelId) (hid : id ≠ .power) :
    Refines { p with channels := (p.channels.update id { (p.channels.machine id) with customActive := true }) }
      (a.enter id hid) where
  stocked := h.stocked.update id rfl rfl
  current id' := by
    rw [Channels.machine_update]
    split <;> rename_i he
    · subst he
      exact h.current id'
    · exact h.current id'
  customActive id' := by
    rw [Channels.machine_update]
    split <;> rename_i he
    · subst he
      simp [Logic.enter]
    · simp [Logic.enter, Function.update_of_ne he, h.customActive id']
  brightness := h.brightness
  colour := h.colour
  speed := h.speed

end Refines

/-- The outcomes of one command on a projector and on a logical state agree: the
same error, or successors that still correspond. -/
def Agrees : Except Error (Projector × Bool) → Except Error Logic → Prop
  | .error e, .error e' => e = e'
  | .ok (p, _), .ok a => Refines p a
  | _, _ => False

theorem Agrees.outcome {r : Except Error (Projector × Bool)} {s : Except Error Logic}
    (h : Agrees r s) : r.map (fun _ => ()) = s.map (fun _ => ()) := by
  match r, s, h with
  | .error e, .error _, rfl => rfl
  | .ok _, .ok _, _ => rfl

namespace Refines

variable {p : Projector} {a : Logic}

/-- The simulation step: a command has the same outcome on the projector and on
its logical state. -/
theorem apply (h : Refines p a) (cmd : Command) : Agrees (p.apply cmd) (a.apply cmd) := by
  cases cmd with
  | advance id =>
    rw [Projector.apply_of_ok (Channels.apply_advance _ (h.current id)) rfl]
    exact h.advance id
  | custom id v =>
    cases id with
    | power =>
      rw [Projector.apply_of_error (Channels.apply_custom_none _ h.custom_power) rfl]
      rfl
    | brightness =>
      obtain ⟨s, hs⟩ := h.custom_installed .brightness (by decide)
      cases v with
      | level x =>
        rw [Projector.apply_of_ok (Channels.apply_custom_stored _ hs rfl) rfl]
        exact { h.enter .brightness (by decide) with brightness := rfl }
      | colour c =>
        rw [Projector.apply_of_error (Channels.apply_custom_refused _ hs rfl) rfl]
        rfl
    | colour =>
      obtain ⟨s, hs⟩ := h.custom_installed .colour (by decide)
      cases v with
      | level x =>
        rw [Projector.apply_of_error (Channels.apply_custom_refused _ hs rfl) rfl]
        rfl
      | colour c =>
        rw [Projector.apply_of_ok (Channels.apply_custom_stored _ hs rfl) rfl]
        exact { h.enter .colour (by decide) with colour := rfl }
    | motor =>
      obtain ⟨s, hs⟩ := h.custom_installed .motor (by decide)
      cases v with
      | level x =>
        rw [Projector.apply_of_ok (Channels.apply_custom_stored _ hs rfl) rfl]
        exact { h.enter .motor (by decide) with speed := rfl }
      | colour c =>
        rw [Projector.apply_of_error (Channels.apply_custom_refused _ hs rfl) rfl]
        rfl
  | refresh => exact h

theorem apply_ok (h : Refines p a) {cmd : Command} {a' : Logic} (ha : a.apply cmd = .ok a') :
    ∃ p' fired, p.apply cmd = .ok (p', fired) ∧ Refines p' a' := by
  have hag := h.apply cmd
  rw [ha] at hag
  match hp : p.apply cmd, hag with
  | .ok (p', fired), hag => exact ⟨p', fired, rfl, hag⟩

theorem render (h : Refines p a) {p' : Projector} {now : Nat} {on : Bool}
    (hr : p.render now = .ok (p', on)) : Refines p' a := by
  obtain ⟨hc, hi, -⟩ := Projector.render_ok hr
  simp only [Rig.inputs, Rig.Inputs.mk.injEq] at hi
  obtain ⟨hb, hcol, hs, -⟩ := hi
  exact { stocked := hc ▸ h.stocked, current := hc ▸ h.current, customActive := hc ▸ h.customActive,
          brightness := hb ▸ h.brightness, colour := hcol ▸ h.colour, speed := hs ▸ h.speed }

theorem step (h : Refines p a) {op : Op} {p' : Projector} (hs : p.step op = .ok p') :
    Refines p' (a.step op) := by
  cases op with
  | apply cmd =>
    have hag := h.apply cmd
    simp only [Projector.step] at hs
    simp only [Logic.step]
    split at hs <;> split <;> simp_all [Agrees]
  | render now =>
    simp only [Projector.step] at hs
    split at hs
    · rename_i p₁ on hr
      cases hs
      exact h.render hr
    · cases hs

/-- The run step: the correspondence holds after every run. -/
theorem run (h : Refines p a) (ops : List Op) {p' : Projector} (hr : p.run ops = .ok p') :
    Refines p' (a.run ops) := by
  induction ops generalizing p a with
  | nil =>
    cases hr
    exact h
  | cons op ops ih =>
    simp only [Projector.run] at hr
    split at hr
    · rename_i p₁ hs
      exact ih (h.step hs) hr
    · cases hr

theorem customValue (h : Refines p a) : p.rig.customValue = a.payload := by
  funext id
  cases id <;> simp [Rig.customValue, Logic.payload, h.brightness, h.colour, h.speed]

theorem snapshot (h : Refines p a) : p.snapshot = a.snapshot := by
  simp only [Projector.snapshot, Channels.snapshot, Logic.snapshot]
  congr 1
  funext id
  have hlt : (a.index id).val < 256 := by
    have := (a.index id).isLt
    cases id <;> simp_all [cycleLength] <;> omega
  simp [Channels.view, Logic.view, h.customActive id, h.current id, h.customValue, hlt]

end Refines

/-- Every run of commands and frames from a new projector, on any lines and with
or without a hook, stays in step with the logical state of the same run: every
command then has the logical outcome, the machines and the rig's custom values
are the logical ones, and clients see the logical snapshot. -/
theorem refines_logic (lines : List PwmLine) (hooked : Bool) (ops : List Op) (p : Projector)
    (h : (Projector.new (Rig.ofLines lines) hooked).run ops = .ok p) :
    Refines p (Logic.init.run ops) ∧
      (∀ cmd, (p.apply cmd).map (fun _ => ()) = ((Logic.init.run ops).apply cmd).map (fun _ => ())) ∧
      p.snapshot = (Logic.init.run ops).snapshot := by
  have hr := (refines_new lines hooked).run ops h
  exact ⟨hr, fun cmd => (hr.apply cmd).outcome, hr.snapshot⟩

theorem refines_logic_custom_then_advance :
    let ops := [Op.apply (.custom .colour (.colour ⟨1, 2, 3, 4⟩)), .apply (.advance .colour), .render 0]
    ∃ p, (Projector.new (Rig.ofLines []) true).run ops = .ok p ∧
      (Refines p (Logic.init.run ops) ∧
        (∀ cmd, (p.apply cmd).map (fun _ => ()) = ((Logic.init.run ops).apply cmd).map (fun _ => ())) ∧
        p.snapshot = (Logic.init.run ops).snapshot) :=
  ⟨_, rfl, refines_logic [] true _ _ rfl⟩

end GalaxyProjector
