import GalaxyProjector.Proofs.Frame

/-! The animated presets stay in range. Scaling a level by a brightness gives at
most either of them, so every level of the colour cycle and of the pulse is at
most the brightness, at every time the clock can reach. The levels a preset asks
of an output are all in 0..=255, so an output can refuse one only because its
write failed: a preset leaves the rig's fault as it was or a failed write, and
along any run of commands and frames from a new projector the only fault the rig
can hold is a failed write. -/

namespace GalaxyProjector

/-! ### Scaling and the waves -/

theorem scale_toNat (v b : UInt8) : (scale v b).toNat = v.toNat * b.toNat / 255 := by
  have hv := v.toNat_lt
  have hb := b.toNat_lt
  have hprod : v.toNat * b.toNat ≤ 255 * 255 := Nat.mul_le_mul (by omega) (by omega)
  simp only [scale]
  simp
  omega

theorem scale_le_left (v b : UInt8) : scale v b ≤ v := by
  rw [UInt8.le_iff_toNat_le, scale_toNat]
  apply Nat.div_le_of_le_mul
  calc v.toNat * b.toNat ≤ v.toNat * 255 := Nat.mul_le_mul_left _ (by have := b.toNat_lt; omega)
    _ = 255 * v.toNat := Nat.mul_comm _ _

theorem scale_le_right (v b : UInt8) : scale v b ≤ b := by
  rw [UInt8.le_iff_toNat_le, scale_toNat]
  apply Nat.div_le_of_le_mul
  exact Nat.mul_le_mul_right _ (by have := v.toNat_lt; omega)

theorem scale_le_min (v b : UInt8) : scale v b ≤ min v b :=
  Std.le_min_iff.mpr ⟨scale_le_left v b, scale_le_right v b⟩

theorem waveLevel_le (now phase : Nat) (b : UInt8) : waveLevel now phase b ≤ b :=
  scale_le_right _ b

/-- The last phase of the colour cycle: the cycle runs up to this far before
the clock's end. -/
theorem lastPhase_eq : 2 * (wavePeriod / 3) = 4188 := rfl

theorem cycleLevels_le {now : Nat} (b : UInt8) (h : now ≤ clockMax - 4188) :
    ∃ ls, cycleLevels now b = .ok ls ∧ ls.length = 3 ∧ ∀ x ∈ ls, x ≤ b := by
  have hfit : now + 2 * (wavePeriod / 3) ≤ clockMax := by
    rw [lastPhase_eq]
    exact Nat.add_le_of_le_sub (by decide) h
  rw [cycleLevels_eq, if_pos hfit]
  refine ⟨_, rfl, rfl, fun x hx => ?_⟩
  simp only [List.mem_cons, List.not_mem_nil, or_false] at hx
  rcases hx with rfl | rfl | rfl <;> exact waveLevel_le _ _ b

theorem pulseLevel_le {now : Nat} (b : UInt8) (h : now ≤ clockMax) :
    ∃ x, pulseLevel now b = .ok x ∧ x ≤ b := by
  rw [pulseLevel_eq, if_pos h]
  exact ⟨_, rfl, waveLevel_le _ _ b⟩

/-! ### Which faults an output reports -/

namespace Pwm

variable {o : Pwm} {e : OutputError}

theorem set_error {v : UInt8} (h : o.set v = .error e) : e = .writeFailed := by
  unfold set at h
  split at h
  · cases h
  · split at h
    · cases h
      rfl
    · cases h

theorem setLevel_error {v : Int} (hv : 0 ≤ v ∧ v ≤ 255) (h : o.setLevel v = .error e) : e = .writeFailed := by
  unfold setLevel at h
  rw [if_pos hv] at h
  exact set_error h

end Pwm

namespace RgbwOut

theorem run_error {o : RgbwOut} {l : List (Fin 4 × Int)} (hl : ∀ x ∈ l, 0 ≤ x.2 ∧ x.2 ≤ 255)
    {e : OutputError} (h : (o.run l).error = some e) : e = .writeFailed := by
  induction l generalizing o with
  | nil => cases h
  | cons x rest ih =>
    obtain ⟨k, v⟩ := x
    simp only [run] at h
    split at h
    · rename_i e' he
      cases h
      exact Pwm.setLevel_error (hl (k, v) List.mem_cons_self) he
    · exact ih (fun y hy => hl y (List.mem_cons_of_mem _ hy)) h

theorem setLevels_error {o : RgbwOut} {r g b w : Int} (hr : 0 ≤ r ∧ r ≤ 255) (hg : 0 ≤ g ∧ g ≤ 255)
    (hb : 0 ≤ b ∧ b ≤ 255) (hw : 0 ≤ w ∧ w ≤ 255) {e : OutputError}
    (h : (o.setLevels r g b w).error = some e) : e = .writeFailed := by
  refine run_error (fun x hx => ?_) h
  simp only [List.mem_cons, List.not_mem_nil, or_false] at hx
  rcases hx with rfl | rfl | rfl | rfl <;> assumption

theorem byte_in_range (x : UInt8) : 0 ≤ (x.toNat : Int) ∧ (x.toNat : Int) ≤ 255 := by
  have := x.toNat_lt
  omega

theorem set_error {o : RgbwOut} {r g b w : UInt8} {e : OutputError} (h : (o.set r g b w).error = some e) :
    e = .writeFailed :=
  setLevels_error (byte_in_range r) (byte_in_range g) (byte_in_range b) (byte_in_range w) h

end RgbwOut

/-! ### The rig's fault -/

namespace Rig

/-- What a rig's fault can become by writes: it stays, or it is a failed write. -/
def Latches (r r' : Rig) : Prop := r'.fault = r.fault ∨ r'.fault = some .writeFailed

namespace Latches

variable {r r₁ r₂ : Rig}

theorem of_fault (h : r'.fault = r.fault) : Latches r r' := .inl h

theorem refl (r : Rig) : Latches r r := of_fault rfl

theorem trans (h₁ : Latches r r₁) (h₂ : Latches r₁ r₂) : Latches r r₂ := by
  rcases h₂ with h₂ | h₂
  · rw [Latches, h₂]
    exact h₁
  · exact .inr h₂

end Latches

variable {r : Rig}

theorem reportRgbw_latches {o : Outcome RgbwOut} (ho : ∀ e, o.error = some e → e = .writeFailed) :
    Latches r (r.reportRgbw o) := by
  cases he : o.error with
  | none => exact .of_fault (by simp [reportRgbw, he])
  | some e =>
    right
    simp [reportRgbw, he, ho e he]

theorem report_latches {channel : Nat} {put : Pwm → Rig} {res : Except OutputError (Pwm × Option Nat)}
    (hput : ∀ p, (put p).fault = r.fault) (hres : ∀ e, res = .error e → e = .writeFailed) :
    Latches r (r.report channel put res) := by
  cases res with
  | error e =>
    right
    show some e = some .writeFailed
    rw [hres e rfl]
  | ok x =>
    obtain ⟨p, w⟩ := x
    exact .of_fault (hput p)

theorem set_latches (o : Single) (v : UInt8) : Latches r (r.set o v) :=
  report_latches (fun _ => by cases o <;> rfl) fun _ => Pwm.set_error

end Rig

/-- The step lemma for frames: a preset leaves the rig's fault as it was or a
failed write. The animated presets ask the colour group for scaled wave levels,
which are bytes, so the group cannot refuse them as out of range. -/
theorem Preset.run_latches {a : Preset} {r r' : Rig} (h : a.run r = .ok r') : r.Latches r' := by
  cases a with
  | powerOff =>
    simp only [run, Except.ok.injEq] at h
    subst h
    exact ((Rig.reportRgbw_latches fun _ => RgbwOut.set_error).trans (Rig.set_latches .lamp 0)).trans
      (Rig.set_latches .motor 0)
  | project =>
    simp only [run, Except.ok.injEq] at h
    subst h
    exact Rig.set_latches .lamp _
  | brightness v | customBrightness =>
    simp only [run, Except.ok.injEq] at h
    subst h
    exact .of_fault rfl
  | speed v | customSpeed =>
    simp only [run, Except.ok.injEq] at h
    subst h
    exact Rig.set_latches .motor _
  | solid red green blue white | customColour =>
    simp only [run, Except.ok.injEq] at h
    subst h
    exact Rig.reportRgbw_latches fun _ => RgbwOut.set_error
  | cycle =>
    simp only [run] at h
    cases hc : cycleLevels r.now r.brightness.rgbw with
    | error t => simp [hc, bind, Except.bind] at h
    | ok ls =>
      simp only [hc, bind, Except.bind, pure, Except.pure, Except.ok.injEq] at h
      subst h
      exact Rig.reportRgbw_latches fun _ => RgbwOut.setLevels_error (RgbwOut.byte_in_range _)
        (RgbwOut.byte_in_range _) (RgbwOut.byte_in_range _) (RgbwOut.byte_in_range 0)
  | pulse =>
    simp only [run] at h
    cases hc : pulseLevel r.now r.brightness.rgbw with
    | error t => simp [hc, bind, Except.bind] at h
    | ok x =>
      simp only [hc, bind, Except.bind, pure, Except.pure, Except.ok.injEq] at h
      subst h
      exact Rig.reportRgbw_latches fun _ => RgbwOut.setLevels_error (RgbwOut.byte_in_range x)
        (RgbwOut.byte_in_range x) (RgbwOut.byte_in_range x) (RgbwOut.byte_in_range x)

theorem frame_latches {acts : List Preset} {r r' : Rig} (h : acts.foldlM (fun r a => a.run r) r = .ok r') :
    r.Latches r' :=
  frame_rel Rig.Latches Rig.Latches.refl Rig.Latches.trans Preset.run_latches h

/-! ### Along a run -/

theorem Rig.store_fault (r : Rig) (id : ChannelId) (v : CustomValue) : (r.store id v).1.fault = r.fault := by
  cases id <;> cases v <;> rfl

theorem Channels.apply_ctx {α : Type} (c : Channels α) (rig : Rig) (cmd : Command) :
    (c.apply Rig.store rig cmd).ctx = rig ∨ ∃ id v, (c.apply Rig.store rig cmd).ctx = (rig.store id v).1 := by
  cases cmd with
  | advance id => exact .inl rfl
  | refresh => exact .inl rfl
  | custom id v =>
    simp only [Channels.apply]
    split
    · exact .inl rfl
    · right
      refine ⟨id, v, ?_⟩
      split
      · rename_i ctx' e hst
        rw [hst]
      · rename_i ctx' hst
        split <;> rw [hst]

namespace Projector

variable {p p' : Projector}

theorem apply_fault {cmd : Command} {fired : Bool} (h : p.apply cmd = .ok (p', fired)) :
    p'.rig.fault = p.rig.fault := by
  simp only [apply] at h
  split at h
  · cases h
  · simp only [Except.ok.injEq, Prod.mk.injEq] at h
    rw [← h.1]
    show (p.channels.apply Rig.store p.rig cmd).ctx.fault = p.rig.fault
    rcases Channels.apply_ctx p.channels p.rig cmd with hc | ⟨id, v, hc⟩
    · rw [hc]
    · rw [hc, Rig.store_fault]

theorem step_latches {op : Op} (h : p.step op = .ok p') : p.rig.Latches p'.rig := by
  cases op with
  | apply cmd =>
    simp only [step] at h
    split at h
    · rename_i p₁ fired ha
      cases h
      exact .of_fault (apply_fault ha)
    · cases h
      exact .refl _
  | render now =>
    simp only [step] at h
    split at h
    · rename_i p₁ on hr
      cases h
      rw [render_eq] at hr
      cases hf : p.channels.frameActions.foldlM (fun (r : Rig) (a : Preset) => a.run r) { p.rig with now } with
      | error t => simp [hf, Except.map] at hr
      | ok rig =>
        simp only [hf, Except.map, Except.ok.injEq, Prod.mk.injEq] at hr
        rw [← hr.1]
        have hnow : p.rig.Latches { p.rig with now } := .of_fault rfl
        exact hnow.trans (frame_latches hf)
    · cases h

/-- The run lemma: along a run the rig's fault stays or becomes a failed write. -/
theorem run_latches {ops : List Op} (h : p.run ops = .ok p') : p.rig.Latches p'.rig := by
  induction ops generalizing p with
  | nil =>
    cases h
    exact .refl _
  | cons op ops ih =>
    simp only [run] at h
    split at h
    · rename_i p₁ hs
      exact (step_latches hs).trans (ih h)
    · cases h

end Projector

/-- The animated presets stay in range. At every time the colour cycle can
reach, its three levels are each at most the brightness, and so is the pulse's;
a scaled level is at most the level and at most the brightness. No preset, the
cycle and the pulse among them, leaves the rig a fault other than the one it had
or a failed write, and along any run of commands and frames from a new
projector the rig holds no fault or a failed write. -/
theorem animated_levels_in_range :
    (∀ (now : Nat) (b : UInt8), now ≤ clockMax - 4188 →
      ∃ ls, cycleLevels now b = .ok ls ∧ ls.length = 3 ∧ ∀ x ∈ ls, x ≤ b) ∧
    (∀ (now : Nat) (b : UInt8), now ≤ clockMax - 4188 → ∃ x, pulseLevel now b = .ok x ∧ x ≤ b) ∧
    (∀ v b : UInt8, scale v b ≤ min v b) ∧
    (∀ (a : Preset) (r r' : Rig), a.run r = .ok r' → r'.fault = r.fault ∨ r'.fault = some .writeFailed) ∧
    ∀ (lines : List PwmLine) (hooked : Bool) (ops : List Op) (p : Projector),
      (Projector.new (Rig.ofLines lines) hooked).run ops = .ok p →
        p.rig.fault = none ∨ p.rig.fault = some .writeFailed :=
  ⟨fun _ b h => cycleLevels_le b h, fun _ b h => pulseLevel_le b (Nat.le_trans h (Nat.sub_le _ _)),
    scale_le_min, fun _ _ _ h => Preset.run_latches h, fun _ _ _ _ h => Projector.run_latches h⟩

theorem animated_levels_in_range_cycle :
    let ops : List Op := [.apply (.advance .power), .apply (.advance .colour), .render 0]
    clockMax - 4188 ≤ clockMax - 4188 ∧
      (∃ ls, cycleLevels (clockMax - 4188) 200 = .ok ls ∧ ls.length = 3 ∧ ∀ x ∈ ls, x ≤ 200) ∧
      (∃ x, pulseLevel (clockMax - 4188) 200 = .ok x ∧ x ≤ 200) ∧
      ∃ p, (Projector.new (Rig.ofLines [{ failing := true }]) true).run ops = .ok p ∧
        (p.rig.fault = none ∨ p.rig.fault = some .writeFailed) := by
  intro ops
  have h := animated_levels_in_range
  obtain ⟨p, hrun⟩ : ∃ p, (Projector.new (Rig.ofLines [{ failing := true }]) true).run ops = .ok p := ⟨_, rfl⟩
  exact ⟨Nat.le_refl _, h.1 _ 200 (Nat.le_refl _), h.2.1 _ 200 (Nat.le_refl _), p, hrun,
    h.2.2.2.2 _ true ops p hrun⟩

end GalaxyProjector
