import Mathlib.Logic.Function.Basic
import GalaxyProjector.Projector
import GalaxyProjector.Proofs.Calls

/-! What each operation of a projector does to it, one lemma per operation, and
runs of operations. A command moves at most one machine of the bank and, for a
custom value, the rig's store; a frame moves no machine and keeps the custom
values, so only commands change what clients see. -/

namespace GalaxyProjector

namespace Channels

variable {α σ : Type} (c : Channels α)

theorem machine_update (id : ChannelId) (m : Machine α) (id' : ChannelId) :
    (c.update id m).machine id' = if id' = id then m else c.machine id' := by
  cases id <;> cases id' <;> rfl

@[simp] theorem machine_update_self (id : ChannelId) (m : Machine α) :
    (c.update id m).machine id = m := by
  simp [machine_update]

@[simp] theorem powerOff_update (id : ChannelId) (m : Machine α) :
    (c.update id m).powerOff = c.powerOff := by
  cases id <;> rfl

variable {store : σ → ChannelId → CustomValue → σ × Except CommandError Unit} {ctx ctx' : σ}
  {id : ChannelId} {v : CustomValue}

theorem apply_advance {i : Nat} (h : (c.machine id).current = some i) :
    c.apply store ctx (.advance id) =
      ⟨c.update id
        { (c.machine id) with customActive := false, current := some ((i + 1) % (c.machine id).size) },
        ctx, .ok (), (c.machine id).announce⟩ := by
  simp only [apply, Machine.next_of_current h]
  rfl

theorem apply_advance_empty (h : (c.machine id).current = none) :
    c.apply store ctx (.advance id) = ⟨c.update id (c.machine id), ctx, .error (.fsm .empty), []⟩ := by
  simp only [apply, Machine.next_of_empty h]
  rfl

theorem apply_custom_none (h : (c.machine id).custom = none) :
    c.apply store ctx (.custom id v) = ⟨c, ctx, .error (.fsm .noCustomState), []⟩ := by
  simp [apply, h]

theorem apply_custom_refused {s : State α} {e : CommandError} (h : (c.machine id).custom = some s)
    (hs : store ctx id v = (ctx', .error e)) :
    c.apply store ctx (.custom id v) = ⟨c, ctx', .error (.command e), []⟩ := by
  simp [apply, h, hs]

theorem apply_custom_stored {s : State α} (h : (c.machine id).custom = some s)
    (hs : store ctx id v = (ctx', .ok ())) :
    c.apply store ctx (.custom id v) =
      ⟨c.update id { (c.machine id) with customActive := true }, ctx', .ok (), (c.machine id).announce⟩ := by
  cases ha : (c.machine id).customActive <;>
    simp [apply, h, hs, Machine.useCustom_of_custom h, ha, Machine.announce]

end Channels

/-- The preset machine of each channel, as a new projector holds it. -/
def presetMachine : ChannelId → Machine Preset
  | .power => powerMachine
  | .brightness => brightnessMachine
  | .colour => colourMachine
  | .motor => motorMachine

namespace Projector

theorem new_machine (rig : Rig) (hooked : Bool) (id : ChannelId) :
    (new rig hooked).channels.machine id = (presetMachine id).setHook hooked := by
  cases id <;> rfl

variable {p : Projector} {cmd : Command} {r : Channels.Applied Preset Rig}

theorem apply_of_ok (h : p.channels.apply Rig.store p.rig cmd = r) (hr : r.result = .ok ()) :
    p.apply cmd = .ok ({ channels := r.channels, rig := r.ctx }, !r.notes.isEmpty) := by
  simp [apply, h, hr]

theorem apply_of_error {e : Error} (h : p.channels.apply Rig.store p.rig cmd = r) (hr : r.result = .error e) :
    p.apply cmd = .error e := by
  simp [apply, h, hr]

theorem render_eq (p : Projector) (now : Nat) :
    p.render now = (p.channels.frameActions.foldlM (fun (r : Rig) (a : Preset) => a.run r) { p.rig with now }).map
      fun rig => ({ p with rig }, p.isPowered) := by
  unfold render
  cases p.channels.frameActions.foldlM (fun (r : Rig) (a : Preset) => a.run r) { p.rig with now } <;> rfl

end Projector

structure Rig.Inputs where
  brightness : UInt8
  colour : Rgbw
  speed : UInt8
  now : Nat

def Rig.inputs (r : Rig) : Rig.Inputs := ⟨r.customBrightness, r.customColour, r.customSpeed, r.now⟩

namespace Rig

variable (r : Rig)

@[simp] theorem reportRgbw_inputs (o : Outcome RgbwOut) : (r.reportRgbw o).inputs = r.inputs := rfl

@[simp] theorem setBrightness_inputs (v : UInt8) : (r.setBrightness v).inputs = r.inputs := rfl

@[simp] theorem set_inputs (o : Single) (v : UInt8) : (r.set o v).inputs = r.inputs := by
  unfold set report
  cases o <;> split <;> rfl

end Rig

theorem Preset.run_inputs {a : Preset} {r r' : Rig} (h : a.run r = .ok r') : r'.inputs = r.inputs := by
  cases a with
  | cycle =>
    simp only [Preset.run] at h
    cases hc : cycleLevels r.now r.brightness.rgbw <;> simp [hc, bind, Except.bind, pure, Except.pure] at h
    rw [← h, Rig.reportRgbw_inputs]
  | pulse =>
    simp only [Preset.run] at h
    cases hc : pulseLevel r.now r.brightness.rgbw <;> simp [hc, bind, Except.bind, pure, Except.pure] at h
    rw [← h, Rig.reportRgbw_inputs]
  | _ => simp only [Preset.run, Except.ok.injEq] at h; rw [← h]; simp

/-- What every preset establishes between the rig before and after it, and
composes, holds across a whole frame. -/
theorem frame_rel (R : Rig → Rig → Prop) (hrefl : ∀ r, R r r) (htrans : ∀ {r₁ r₂ r₃}, R r₁ r₂ → R r₂ r₃ → R r₁ r₃)
    (hrun : ∀ {a : Preset} {r r'}, a.run r = .ok r' → R r r') {acts : List Preset} {r r' : Rig}
    (h : acts.foldlM (fun r a => a.run r) r = .ok r') : R r r' := by
  induction acts generalizing r with
  | nil =>
    simp only [List.foldlM_nil, pure, Except.pure, Except.ok.injEq] at h
    rw [← h]
    exact hrefl r
  | cons a acts ih =>
    simp only [List.foldlM_cons] at h
    cases ha : a.run r with
    | error t => simp [ha, bind, Except.bind] at h
    | ok r₁ =>
      simp only [ha, bind, Except.bind] at h
      exact htrans (hrun ha) (ih h)

theorem frame_inputs (acts : List Preset) {r r' : Rig}
    (h : acts.foldlM (fun r a => a.run r) r = .ok r') : r'.inputs = r.inputs :=
  frame_rel (fun r r' => r'.inputs = r.inputs) (fun _ => rfl) (fun h₁ h₂ => h₂.trans h₁)
    Preset.run_inputs h

/-- A frame keeps the machines and the custom values, and reports whether the
projector is on. -/
theorem Projector.render_ok {p p' : Projector} {now : Nat} {on : Bool}
    (h : p.render now = .ok (p', on)) :
    p'.channels = p.channels ∧ p'.rig.inputs = { p.rig with now }.inputs ∧ on = p.isPowered := by
  rw [render_eq] at h
  cases hf : p.channels.frameActions.foldlM (fun (r : Rig) (a : Preset) => a.run r) { p.rig with now } with
  | error t => simp [hf, Except.map] at h
  | ok rig =>
    simp only [hf, Except.map, Except.ok.injEq, Prod.mk.injEq] at h
    obtain ⟨rfl, rfl⟩ := h
    exact ⟨rfl, frame_inputs _ hf, rfl⟩

/-- One step of a projector's life: a command, or a frame at a time in
milliseconds. -/
inductive Op where
  | apply (cmd : Command)
  | render (now : Nat)
  deriving DecidableEq, Repr

namespace Projector

/-- The projector after one step. A refused command leaves it as it was, as the
output task does with it; a frame fails only by a trap. -/
def step (p : Projector) : Op → Except Trap Projector
  | .apply cmd =>
    match p.apply cmd with
    | .ok (p', _) => .ok p'
    | .error _ => .ok p
  | .render now =>
    match p.render now with
    | .ok (p', _) => .ok p'
    | .error t => .error t

/-- The projector after a sequence of steps, unless a frame traps. -/
def run (p : Projector) : List Op → Except Trap Projector
  | [] => .ok p
  | op :: ops =>
    match p.step op with
    | .ok p' => p'.run ops
    | .error t => .error t

end Projector

end GalaxyProjector
