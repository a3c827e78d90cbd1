import GalaxyProjector.Proofs.Calls

/-! When a machine calls its hook. What a client can tell of a machine's
position is its place: the current index and whether custom mode is on. Choosing
a registered state announces exactly when the place changes and otherwise leaves
the machine alone; switching to an installed custom state announces exactly when
custom mode was off; a step of the cycle always announces. Registering states,
giving them actions, installing the custom state, setting the hook and naming
the initial state never announce, even when a newly registered initial state
takes over the current index. Custom mode asked of a machine without a custom
state is refused silently, although custom mode was off. -/

namespace GalaxyProjector

namespace Machine

variable {α : Type} {m : Machine α}

/-- The place of a machine: its current index and whether custom mode is on. -/
def place (m : Machine α) : Option Nat × Bool := (m.current, m.customActive)

theorem leave_place {i : Nat} :
    ({ m with customActive := false, current := some i } : Machine α).place = m.place ↔
      m.current = some i ∧ m.customActive = false := by
  simp only [place, Prod.mk.injEq]
  exact ⟨fun ⟨h₁, h₂⟩ => ⟨h₁.symm, h₂.symm⟩, fun ⟨h₁, h₂⟩ => ⟨h₁.symm, h₂.symm⟩⟩

theorem set_registered {name : String} (h : name ∈ m.names) :
    (m.set name).result = .ok () ∧
      (m.set name).notes = (if (m.set name).machine.place = m.place then [] else m.announce) ∧
      ((m.set name).machine.place = m.place → (m.set name).machine = m) := by
  obtain ⟨i, hi⟩ := Option.isSome_iff_exists.mp (indexOf_isSome.mpr h)
  by_cases hsame : m.current = some i ∧ m.customActive = false
  · -- the current state outside custom mode: the early return
    have hset : m.set name = ⟨m, .ok (), []⟩ := by simp [set, hi, hsame.1, hsame.2]
    simp [hset]
  · have hset : m.set name = ⟨{ m with customActive := false, current := some i }, .ok (), m.announce⟩ := by
      have hguard : (m.current == some i && !m.customActive) = false := by
        cases hc : m.customActive <;> simp_all
      simp only [set, hi, hguard, Bool.false_eq_true, if_false]
      rfl
    have hmoved := (not_congr leave_place).mpr hsame
    rw [hset]
    exact ⟨rfl, by simp [hmoved], fun h => absurd h hmoved⟩

theorem useCustom_installed (h : m.custom.isSome) :
    m.useCustom.result = .ok () ∧ m.useCustom.notes = (if m.customActive then [] else m.announce) ∧
      (m.customActive = true → m.useCustom.machine = m) := by
  obtain ⟨s, hs⟩ := Option.isSome_iff_exists.mp h
  rw [useCustom_of_custom hs]
  refine ⟨rfl, rfl, fun ha => ?_⟩
  show { m with customActive := true } = m
  rw [← ha]

theorem useCustom_uninstalled (h : m.custom = none) : m.useCustom = ⟨m, .error .noCustomState, []⟩ := by
  simp [useCustom, h]

theorem next_announces (h : m.next.result = .ok ()) : m.next.notes = m.announce := by
  cases hc : m.current with
  | none => rw [next_of_empty hc] at h; cases h
  | some i => rw [next_of_current hc]

@[simp] theorem add_notes (s : State α) : (m.add s).notes = [] := by
  unfold add
  split
  · rfl
  · split <;> rfl

@[simp] theorem setAction_notes (name : String) (a : α) : (m.setAction name a).notes = [] := by
  unfold setAction
  split <;> rfl

@[simp] theorem setCustom_notes (s : State α) : (m.setCustom s).notes = [] := by
  unfold setCustom
  split <;> rfl

/-- The hook is called exactly on transitions. Choosing a registered state
succeeds and announces exactly when the place changes, and otherwise changes
nothing. With a custom state installed, switching to it succeeds and announces
exactly when custom mode was off, and otherwise changes nothing; with none it is
refused, changes nothing and announces nothing. A step of the cycle that
succeeds announces. Registering a state, giving one an action, installing the
custom state, setting the hook and naming the initial state never announce. -/
theorem hook_fires_on_transitions (m : Machine α) :
    (∀ name ∈ m.names, (m.set name).result = .ok () ∧
      (m.set name).notes = (if (m.set name).machine.place = m.place then [] else m.announce) ∧
      ((m.set name).machine.place = m.place → (m.set name).machine = m)) ∧
    (m.custom.isSome → m.useCustom.result = .ok () ∧
      m.useCustom.notes = (if m.customActive then [] else m.announce) ∧
      (m.customActive = true → m.useCustom.machine = m)) ∧
    (m.custom = none → m.useCustom = ⟨m, .error .noCustomState, []⟩) ∧
    (m.next.result = .ok () → m.next.notes = m.announce) ∧
    (∀ s, (m.exec (.add s)).notes = []) ∧ (∀ name a, (m.exec (.setAction name a)).notes = []) ∧
    (∀ s, (m.exec (.setCustom s)).notes = []) ∧ (∀ on, (m.exec (.setHook on)).notes = []) ∧
    ∀ name, (m.exec (.withInitial name)).notes = [] :=
  ⟨fun _ h => set_registered h, useCustom_installed, useCustom_uninstalled, next_announces,
    fun s => add_notes s, fun name a => setAction_notes name a, fun s => setCustom_notes s,
    fun _ => rfl, fun _ => rfl⟩

theorem hook_fires_on_transitions_motor :
    let motor := ((Machine.empty "Motor" : Machine Nat).run
      [.setHook true, .add ⟨"Off", some 0⟩, .add ⟨"Slow", some 1⟩, .setCustom ⟨"Custom", some 3⟩,
        .useCustom]).machine
    let power := ((Machine.empty "Power" : Machine Nat).run [.setHook true, .add ⟨"Power Off", some 0⟩]).machine
    "Slow" ∈ motor.names ∧ (motor.set "Slow").notes = ["Motor"] ∧
      motor.custom.isSome ∧ motor.useCustom.notes = [] ∧
      motor.next.result = .ok () ∧ motor.next.notes = ["Motor"] ∧
      power.custom = none ∧ power.useCustom = ⟨power, .error .noCustomState, []⟩ := by
  intro motor power
  have hm := hook_fires_on_transitions motor
  have hslow : "Slow" ∈ motor.names := by decide
  have hcustom : motor.custom.isSome := rfl
  have hnext : motor.next.result = .ok () := rfl
  obtain ⟨-, hset, -⟩ := hm.1 "Slow" hslow
  obtain ⟨-, huse, -⟩ := hm.2.1 hcustom
  refine ⟨hslow, ?_, hcustom, ?_, hnext, hm.2.2.2.1 hnext, rfl, (hook_fires_on_transitions power).2.2.1 rfl⟩
  · rw [hset]
    decide
  · rw [huse]
    rfl

/-- Custom mode asked of a machine without a custom state: the call is refused
and the hook is not called, although custom mode was off. -/
theorem useCustom_uninstalled_is_silent :
    let m := ((Machine.empty "Power" : Machine Nat).run [.setHook true, .add ⟨"Power Off", some 0⟩]).machine
    Reachable m ∧ m.hooked = true ∧ m.customActive = false ∧ m.useCustom.notes = [] :=
  ⟨(Reachable.empty _).run _, rfl, rfl, rfl⟩

end Machine

end GalaxyProjector
