import GalaxyProjector.Proofs.Render
import GalaxyProjector.Proofs.Faults

/-! When a frame traps. The wave adds its phase to the 64-bit clock, and the sum
overflows exactly past the clock's end. The colour cycle's last phase is
4188 ms, so the cycle traps exactly in the last 4188 ms the clock can show,
and the pulse, whose phase is 0, never traps (`pulseLevel_le`). Frames keep
the clock, so a frame traps exactly when it runs the colour cycle that late;
and a projector runs the colour cycle exactly when Power is not off and Colour
sits in Cycle outside custom mode, since custom mode hides the cycle's state
behind the custom colour. -/

namespace GalaxyProjector

/-! ### The waves -/

theorem clockMax_ge_lastPhase : 4188 ≤ clockMax := by
  unfold clockMax
  omega

theorem wave_traps_iff (now phase : Nat) : wave now phase = .error .addOverflow ↔ clockMax < now + phase := by
  rw [wave_eq]
  by_cases h : now + phase ≤ clockMax
  · rw [if_pos h]
    simp only [reduceCtorEq, false_iff]
    omega
  · rw [if_neg h]
    simp only [true_iff]
    omega

theorem cycleLevels_traps_iff (now : Nat) (b : UInt8) :
    cycleLevels now b = .error .addOverflow ↔ clockMax - 4188 < now := by
  have hlast := clockMax_ge_lastPhase
  rw [cycleLevels_eq, lastPhase_eq]
  by_cases h : now + 4188 ≤ clockMax
  · rw [if_pos h]
    simp only [reduceCtorEq, false_iff]
    omega
  · rw [if_neg h]
    simp only [true_iff]
    omega

/-! ### Presets and frames -/

theorem Preset.run_traps (a : Preset) {r : Rig} (h : r.now ≤ clockMax) :
    a.run r = .error .addOverflow ↔ a = .cycle ∧ clockMax - 4188 < r.now := by
  cases a with
  | cycle =>
    rw [← cycleLevels_traps_iff r.now r.brightness.rgbw]
    simp only [Preset.run, true_and]
    cases cycleLevels r.now r.brightness.rgbw <;> simp [bind, Except.bind, pure, Except.pure]
  | pulse =>
    obtain ⟨v, hv, -⟩ := pulseLevel_le r.brightness.rgbw h
    simp [Preset.run, hv, bind, Except.bind, pure, Except.pure]
  | _ => simp [Preset.run]

theorem frame_traps {acts : List Preset} {r : Rig} (h : r.now ≤ clockMax) :
    acts.foldlM (fun r a => a.run r) r = .error .addOverflow ↔ .cycle ∈ acts ∧ clockMax - 4188 < r.now := by
  induction acts generalizing r with
  | nil => simp [pure, Except.pure]
  | cons a acts ih =>
    simp only [List.foldlM_cons, List.mem_cons]
    cases ha : a.run r with
    | error t =>
      -- the trap of the first preset is the frame's, and only the cycle traps
      cases t
      obtain ⟨rfl, hlate⟩ := (Preset.run_traps a h).mp ha
      simp [bind, Except.bind, hlate]
    | ok r₁ =>
      -- presets keep the clock, so the rest of the frame reads the same time
      have hnow : r₁.now = r.now := congrArg Rig.Inputs.now (Preset.run_inputs ha)
      -- a first preset that ran was not the cycle in the clock's last 4188 ms
      have hfirst : ¬(a = .cycle ∧ clockMax - 4188 < r.now) := fun hc => by
        rw [← Preset.run_traps a h, ha] at hc
        cases hc
      simp only [bind, Except.bind]
      rw [ih (hnow ▸ h), hnow]
      constructor
      · exact fun ⟨hm, hlate⟩ => ⟨.inr hm, hlate⟩
      · rintro ⟨rfl | hm, hlate⟩
        · exact absurd ⟨rfl, hlate⟩ hfirst
        · exact ⟨hm, hlate⟩

theorem Projector.render_traps_iff_frame (p : Projector) (now : Nat) :
    p.render now = .error .addOverflow ↔
      p.channels.frameActions.foldlM (fun (r : Rig) (a : Preset) => a.run r) { p.rig with now } =
        .error .addOverflow := by
  rw [Projector.render_eq]
  cases p.channels.frameActions.foldlM (fun (r : Rig) (a : Preset) => a.run r) { p.rig with now } <;>
    simp [Except.map]

/-! ### Which projectors run the colour cycle -/

theorem Logic.cycle_mem_frame (a : Logic) :
    .cycle ∈ a.frame ↔ (a.index .power).val ≠ 0 ∧ a.active .colour = some .cycle := by
  -- Power's preset runs the lamp, Brightness's and Motor's set a level: none is the cycle
  have hb : .cycle ∉ (a.active .brightness).toList := by
    rw [a.active_brightness]
    split <;> simp
  have hm : .cycle ∉ (a.active .motor).toList := by
    rw [a.active_motor]
    split <;> simp
  rw [a.frame_eq]
  split
  · rename_i h
    simp [h]
  · rename_i h
    simp [hb, hm, h, eq_comm]

theorem colour_cycle_state : ∀ s ∈ colourMachine.states, s.action = some .cycle ↔ s.name = "Cycle" := by
  decide

/-- A machine holding the colour table runs the colour cycle exactly when it is
in Cycle outside custom mode; in custom mode it runs the custom colour. -/
theorem Machine.activeAction_cycle {m : Machine Preset} (hs : m.states = colourMachine.states)
    (hc : m.custom = colourMachine.custom) :
    m.activeAction = some .cycle ↔ m.customActive = false ∧ m.isIn "Cycle" = true := by
  unfold Machine.activeAction Machine.activeState Machine.isIn
  cases hact : m.customActive with
  | true => simp [hc, colourMachine]
  | false =>
    simp only [Bool.false_eq_true, if_false, true_and]
    cases hcur : m.currentState with
    | none => simp
    | some s =>
      have hmem : s ∈ colourMachine.states := by
        unfold Machine.currentState at hcur
        obtain ⟨i, -, hi⟩ := Option.bind_eq_some_iff.mp hcur
        exact hs ▸ List.mem_of_getElem? hi
      simp [colour_cycle_state s hmem]

namespace Refines

variable {p : Projector} {a : Logic}

theorem powerOn_iff (h : Refines p a) :
    p.channels.power.isIn powerOffName = false ↔ (a.index .power).val ≠ 0 := by
  have hpow := h.isPowered
  rw [Channels.isPowered, h.stocked.powerOff] at hpow
  cases hoff : p.channels.power.isIn powerOffName <;> simp_all

theorem cycle_mem_frameActions (h : Refines p a) :
    .cycle ∈ p.channels.frameActions ↔
      p.channels.power.isIn powerOffName = false ∧ p.channels.colour.customActive = false ∧
        p.channels.colour.isIn "Cycle" = true := by
  have hcol := Machine.activeAction_cycle (h.stocked.states .colour) (h.stocked.custom .colour)
  rw [h.frameActions, a.cycle_mem_frame, ← h.activeAction .colour, h.powerOn_iff]
  simp only [Channels.machine] at hcol ⊢
  rw [hcol]

theorem render_traps (h : Refines p a) {now : Nat} (hnow : now ≤ clockMax) :
    p.render now = .error .addOverflow ↔
      p.channels.power.isIn powerOffName = false ∧ p.channels.colour.customActive = false ∧
        p.channels.colour.isIn "Cycle" = true ∧ clockMax - 4188 < now := by
  rw [Projector.render_traps_iff_frame, frame_traps hnow, h.cycle_mem_frameActions]
  simp only [and_assoc]

end Refines

/-- Where a frame can trap. The wave traps exactly when its phase carries the
clock past its end, the colour cycle exactly in the clock's last 4188 ms, and
the pulse never. Along any run from a new projector, a frame traps exactly
when Power is not off, Colour is in Cycle outside custom mode, and the clock is
in its last 4188 ms. -/
theorem render_traps_iff :
    (∀ now phase : Nat, wave now phase = .error .addOverflow ↔ clockMax < now + phase) ∧
    (∀ (now : Nat) (b : UInt8), cycleLevels now b = .error .addOverflow ↔ clockMax - 4188 < now) ∧
    (∀ (now : Nat) (b : UInt8), now ≤ clockMax → ∃ v, pulseLevel now b = .ok v) ∧
    ∀ (lines : List PwmLine) (hooked : Bool) (ops : List Op) (p : Projector),
      (Projector.new (Rig.ofLines lines) hooked).run ops = .ok p → ∀ now, now ≤ clockMax →
        (p.render now = .error .addOverflow ↔
          p.channels.power.isIn powerOffName = false ∧ p.channels.colour.customActive = false ∧
            p.channels.colour.isIn "Cycle" = true ∧ clockMax - 4188 < now) :=
  ⟨wave_traps_iff, cycleLevels_traps_iff, fun _ b h => (pulseLevel_le b h).imp fun _ => And.left,
    fun lines hooked ops _ hp _ hnow => ((refines_new lines hooked).run ops hp).render_traps hnow⟩

/-- Power On, and Colour advanced twelve times from Blue into Cycle: a frame at
the clock's last millisecond traps. -/
theorem render_traps_in_cycle :
    let ops : List Op := .apply (.advance .power) :: List.replicate 12 (.apply (.advance .colour))
    ∃ p, (Projector.new (Rig.ofLines []) true).run ops = .ok p ∧ clockMax ≤ clockMax ∧
      p.render clockMax = .error .addOverflow := by
  intro ops
  exact ⟨_, rfl, Nat.le_refl _, (render_traps_iff.2.2.2 [] true ops _ rfl clockMax (Nat.le_refl _)).mpr
    ⟨rfl, rfl, rfl, by decide⟩⟩

end GalaxyProjector
