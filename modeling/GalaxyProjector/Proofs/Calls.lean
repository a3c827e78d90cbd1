import GalaxyProjector.Machine

/-! What calls do to a machine. A refused call hands the machine back untouched
and announces nothing, and calls are refused exactly in the documented cases: a
name already registered or a full table for `add`, an empty cycle for `next`, an
unknown name for `set` and `setAction`, a custom state without an action, and
custom mode with no custom state installed. Every machine reachable from a new
one by calls, refused or not, keeps the table's invariant: distinct names within
the capacity, a current state in range exactly when states are registered, and a
custom mode that always has a custom state with an action to run. Calls of
`next` walk the cycle in the order the states were registered, announcing each
step, and a whole round from outside custom mode gives the machine back. -/

namespace GalaxyProjector

namespace Machine

variable {α : Type} {m : Machine α}

def names (m : Machine α) : List String := m.states.map (·.name)

theorem indexOf_isSome {name : String} : (m.indexOf name).isSome ↔ name ∈ m.names := by
  simp [indexOf, names, List.findIdx?_isSome]

theorem indexOf_eq_none {name : String} : m.indexOf name = none ↔ name ∉ m.names := by
  rw [← indexOf_isSome, Option.not_isSome_iff_eq_none]

theorem indexOf_lt {name : String} {i : Nat} (h : m.indexOf name = some i) : i < m.size :=
  (List.findIdx?_eq_some_iff_getElem.mp h).1

theorem ne_nil_of_lt_size {i : Nat} (h : i < m.size) : m.states ≠ [] :=
  List.ne_nil_of_length_pos (Nat.lt_of_le_of_lt (Nat.zero_le _) h)

theorem names_modify_action (i : Nat) (a : α) :
    (m.states.modify i ({ · with action := some a })).map (·.name) = m.names := by
  apply List.ext_getElem (by simp [names])
  intro j h₁ h₂
  simp only [List.getElem_map, List.getElem_modify]
  split <;> simp [names]

theorem next_of_current {i : Nat} (h : m.current = some i) :
    m.next = ⟨{ m with customActive := false, current := some ((i + 1) % m.size) }, .ok (), m.announce⟩ := by
  simp [next, h, announce]

theorem next_of_empty (h : m.current = none) : m.next = ⟨m, .error .empty, []⟩ := by
  simp [next, h]

theorem useCustom_of_custom {s : State α} (h : m.custom = some s) :
    m.useCustom = ⟨{ m with customActive := true }, .ok (), if m.customActive then [] else m.announce⟩ := by
  cases m with
  | mk label states current initial custom customActive hooked =>
    cases customActive <;> simp_all [useCustom, announce]

/-- The machines a program can hold: a new machine, and whatever a call on a
reachable machine leaves, whether the call was carried out or refused. -/
inductive Reachable : Machine α → Prop where
  | empty (label : String) : Reachable (Machine.empty label)
  | call {m : Machine α} (op : Op α) : Reachable m → Reachable (m.exec op).machine

theorem Reachable.run (h : Reachable m) (ops : List (Op α)) : Reachable (m.run ops).machine := by
  induction ops generalizing m with
  | nil => exact h
  | cons op ops ih => exact ih (h.call op)

/-! ### Refused calls -/

/-- When a call is refused, and with which error. -/
inductive Refuses (m : Machine α) : Op α → FsmError → Prop where
  | duplicate {s : State α} : s.name ∈ m.names → Refuses m (.add s) .duplicateState
  | full {s : State α} : s.name ∉ m.names → maxStates ≤ m.size → Refuses m (.add s) .full
  | empty : m.current = none → Refuses m .next .empty
  | unknown {name : String} : name ∉ m.names → Refuses m (.set name) .unknownState
  | unknownAction {name : String} {a : α} : name ∉ m.names → Refuses m (.setAction name a) .unknownState
  | actionless {s : State α} : s.action = none → Refuses m (.setCustom s) .customStateWithoutAction
  | noCustom : m.custom = none → Refuses m .useCustom .noCustomState

theorem exec_of_refuses {op : Op α} {e : FsmError} (h : Refuses m op e) :
    m.exec op = ⟨m, .error e, []⟩ := by
  cases h with
  | duplicate hs => simp [exec, add, indexOf_isSome.mpr hs]
  | full hs hfull => simp [exec, add, indexOf_eq_none.mpr hs, hfull]
  | empty hc => simp [exec, next, hc]
  | unknown hs => simp [exec, set, indexOf_eq_none.mpr hs]
  | unknownAction hs => simp [exec, setAction, indexOf_eq_none.mpr hs]
  | actionless hs => simp [exec, setCustom, State.hasAction, hs]
  | noCustom hc => simp [exec, useCustom, hc]

theorem refuses_of_error {op : Op α} {e : FsmError} (h : (m.exec op).result = .error e) :
    Refuses m op e := by
  -- every call checks before it writes, so each error branch names its refusal
  cases op with
  | add s =>
    simp only [exec, add] at h
    split at h
    · rename_i hdup
      cases h
      exact .duplicate (indexOf_isSome.mp hdup)
    · rename_i hdup
      split at h
      · rename_i hfull
        cases h
        exact .full (fun hs => hdup (indexOf_isSome.mpr hs)) hfull
      · cases h
  | next =>
    simp only [exec, next] at h
    split at h
    · rename_i hc
      cases h
      exact .empty hc
    · cases h
  | set name =>
    simp only [exec, set] at h
    split at h
    · rename_i hi
      cases h
      exact .unknown (indexOf_eq_none.mp hi)
    · split at h <;> cases h
  | setAction name a =>
    simp only [exec, setAction] at h
    split at h
    · rename_i hi
      cases h
      exact .unknownAction (indexOf_eq_none.mp hi)
    · cases h
  | setCustom s =>
    simp only [exec, setCustom] at h
    split at h
    · cases h
    · rename_i ha
      cases h
      exact .actionless (by simpa [State.hasAction] using ha)
  | useCustom =>
    simp only [exec, useCustom] at h
    split at h
    · rename_i hc
      cases h
      exact .noCustom hc
    · split at h <;> cases h
  | announce | setHook _ | withInitial _ => cases h

/-- A call is refused exactly in the documented cases, and a refused call hands
the machine back exactly as it was: its states with their names, order and
actions, its current index, custom state and custom flag, its initial name,
label and hook. It announces nothing. -/
theorem refused_call_changes_nothing (m : Machine α) (op : Op α) (e : FsmError) :
    ((m.exec op).result = .error e ↔ Refuses m op e) ∧
      ((m.exec op).result = .error e → m.exec op = ⟨m, .error e, []⟩) := by
  refine ⟨⟨refuses_of_error, fun h => ?_⟩, fun h => exec_of_refuses (refuses_of_error h)⟩
  rw [exec_of_refuses h]

/-! ### The table's invariant -/

/-- What every reachable machine keeps: distinct names, at most `maxStates` of
them, a current place in range exactly when states are registered, and in
custom mode an installed custom state, which always has an action. -/
structure Valid (m : Machine α) : Prop where
  nodup : m.names.Nodup
  size_le : m.size ≤ maxStates
  current_none : m.current = none ↔ m.states = []
  current_lt : ∀ i, m.current = some i → i < m.size
  custom_of_active : m.customActive = true → m.custom.isSome
  custom_action : ∀ s, m.custom = some s → s.hasAction = true

theorem Valid.empty (label : String) : Valid (Machine.empty label : Machine α) where
  nodup := List.nodup_nil
  size_le := Nat.zero_le _
  current_none := by simp [Machine.empty]
  current_lt := by simp [Machine.empty]
  custom_of_active := by simp [Machine.empty]
  custom_action := by simp [Machine.empty]

namespace Valid

variable (h : Valid m)
include h

theorem ne_nil_of_current {i : Nat} (hi : m.current = some i) : m.states ≠ [] := fun he => by
  rw [h.current_none.mpr he] at hi
  cases hi

theorem leave {j : Nat} (hj : j < m.size) : Valid { m with customActive := false, current := some j } := by
  refine ⟨h.nodup, h.size_le, ?_, fun _ hk => ?_, (fun hc => by cases hc), h.custom_action⟩
  · simp only [reduceCtorEq, false_iff]
    exact ne_nil_of_lt_size hj
  · cases hk
    exact hj

/-- A state is appended under a fresh name while the table has room; the first
state, or the one named initial, becomes current. -/
theorem add (s : State α) : Valid (m.add s).machine := by
  unfold Machine.add
  split
  · exact h
  · rename_i hdup
    split
    · exact h
    · rename_i hfull
      -- the new name is fresh and the table has room for it
      have hfresh : s.name ∉ m.names := fun hs => hdup (indexOf_isSome.mpr hs)
      refine ⟨?_, ?_, ?_, ?_, h.custom_of_active, h.custom_action⟩
      · show ((m.states ++ [s]).map (·.name)).Nodup
        rw [List.map_append, List.map_singleton, List.nodup_append]
        exact ⟨h.nodup, List.pairwise_singleton _ _, fun a ha b hb => by
          rw [List.mem_singleton.mp hb]
          exact fun hab => hfresh (hab ▸ ha)⟩
      · show (m.states ++ [s]).length ≤ maxStates
        simp only [List.length_append, List.length_singleton]
        exact Nat.succ_le_of_lt (Nat.lt_of_not_le hfull)
      · simp only [List.append_eq_nil_iff, List.cons_ne_nil, and_false, iff_false]
        split
        · exact Option.some_ne_none _
        · rename_i hcur
          simp only [Bool.or_eq_true, Option.isNone_iff_eq_none, not_or] at hcur
          exact hcur.1
      · intro i hi
        show i < (m.states ++ [s]).length
        simp only [List.length_append, List.length_singleton]
        split at hi
        · cases hi
          exact Nat.lt_succ_self _
        · exact Nat.lt_succ_of_lt (h.current_lt i hi)

theorem next : Valid m.next.machine := by
  unfold Machine.next
  split
  · exact h
  · rename_i i hi
    have hpos : 0 < m.size := List.length_pos_iff.mpr (h.ne_nil_of_current hi)
    exact h.leave (Nat.mod_lt _ hpos)

theorem set (name : String) : Valid (m.set name).machine := by
  unfold Machine.set
  split
  · exact h
  · rename_i i hi
    split
    · exact h
    · exact h.leave (indexOf_lt hi)

theorem setAction (name : String) (a : α) : Valid (m.setAction name a).machine := by
  unfold Machine.setAction
  split
  · exact h
  · rename_i i hi
    refine ⟨?_, ?_, ?_, ?_, h.custom_of_active, h.custom_action⟩
    · show (List.map (·.name) (m.states.modify i _)).Nodup
      rw [names_modify_action]
      exact h.nodup
    · show (m.states.modify i _).length ≤ maxStates
      rw [List.length_modify]
      exact h.size_le
    · show m.current = none ↔ m.states.modify i _ = []
      rw [← List.length_eq_zero_iff, List.length_modify, List.length_eq_zero_iff]
      exact h.current_none
    · intro j hj
      show j < (m.states.modify i _).length
      rw [List.length_modify]
      exact h.current_lt j hj

theorem setCustom (s : State α) : Valid (m.setCustom s).machine := by
  unfold Machine.setCustom
  split
  · rename_i ha
    refine ⟨h.nodup, h.size_le, h.current_none, h.current_lt, fun _ => rfl, ?_⟩
    intro t ht
    cases ht
    exact ha
  · exact h

theorem useCustom : Valid m.useCustom.machine := by
  unfold Machine.useCustom
  split
  · exact h
  · rename_i s hs
    split
    · exact h
    · exact ⟨h.nodup, h.size_le, h.current_none, h.current_lt, fun _ => by simp [hs], h.custom_action⟩

theorem setHook (on : Bool) : Valid (m.setHook on) :=
  ⟨h.nodup, h.size_le, h.current_none, h.current_lt, h.custom_of_active, h.custom_action⟩

theorem withInitial (name : String) : Valid (m.withInitial name) := by
  refine ⟨h.nodup, h.size_le, ?_, ?_, h.custom_of_active, h.custom_action⟩
  · show (m.indexOf name).or m.current = none ↔ m.states = []
    cases hi : m.indexOf name with
    | none => exact h.current_none
    | some i =>
      simp only [Option.some_or, reduceCtorEq, false_iff]
      exact ne_nil_of_lt_size (indexOf_lt hi)
  · intro j hj
    change (m.indexOf name).or m.current = some j at hj
    cases hi : m.indexOf name with
    | none =>
      rw [hi, Option.none_or] at hj
      exact h.current_lt j hj
    | some i =>
      rw [hi, Option.some_or] at hj
      cases hj
      exact indexOf_lt hi

/-- The step lemma: every call keeps the invariant, whether it is carried out or
refused. -/
theorem exec (op : Op α) : Valid (m.exec op).machine := by
  cases op with
  | add s => exact h.add s
  | next => exact h.next
  | set name => exact h.set name
  | setAction name a => exact h.setAction name a
  | setCustom s => exact h.setCustom s
  | useCustom => exact h.useCustom
  | announce => exact h
  | setHook on => exact h.setHook on
  | withInitial name => exact h.withInitial name

omit h in
theorem run {m : Machine α} (h : Valid m) (ops : List (Op α)) : Valid (m.run ops).machine := by
  induction ops generalizing m with
  | nil => exact h
  | cons op ops ih => exact ih (h.exec op)

theorem currentState_isSome : m.currentState.isSome ↔ m.states ≠ [] := by
  cases hc : m.current with
  | none => simp [currentState, hc, h.current_none.mp hc]
  | some i =>
    have hi := h.current_lt i hc
    simp only [currentState, hc, Option.bind_some, ne_eq, h.ne_nil_of_current hc, not_false_eq_true,
      iff_true]
    rw [List.getElem?_eq_getElem hi]
    rfl

theorem activeState_eq_none : m.activeState = none ↔ m.states = [] ∧ m.customActive = false := by
  cases ha : m.customActive with
  | true =>
    have hs := h.custom_of_active ha
    simp only [activeState, ha, if_true, Bool.true_eq_false, and_false, iff_false]
    exact fun hn => by simp [hn] at hs
  | false =>
    simp only [activeState, ha, Bool.false_eq_true, if_false, and_true]
    rw [← Option.not_isSome_iff_eq_none, h.currentState_isSome, Classical.not_not]

end Valid

theorem Reachable.valid (h : Reachable m) : Valid m := by
  induction h with
  | empty label => exact Valid.empty label
  | call op _ ih => exact ih.exec op

/-- Every machine reachable from a new one by calls, carried out or refused,
keeps the table's invariant. So it has a current state exactly when states are
registered, and no state acts only when none is registered and custom mode is
off. -/
theorem reachable_machine_valid (h : Reachable m) :
    Valid m ∧ (m.currentState.isSome ↔ m.states ≠ []) ∧
      (m.activeState = none ↔ m.states = [] ∧ m.customActive = false) :=
  ⟨h.valid, h.valid.currentState_isSome, h.valid.activeState_eq_none⟩

theorem reachable_machine_valid_motor :
    let m := (Machine.empty "Motor" : Machine Nat).run
      [.withInitial "Slow", .setHook true, .add ⟨"Off", some 0⟩, .add ⟨"Slow", some 1⟩,
        .add ⟨"Slow", some 2⟩, .add ⟨"Fast", some 2⟩, .setCustom ⟨"Custom", some 3⟩, .useCustom]
    Reachable m.machine ∧ Valid m.machine ∧ (m.machine.currentState.isSome ↔ m.machine.states ≠ []) ∧
      (m.machine.activeState = none ↔ m.machine.states = [] ∧ m.machine.customActive = false) :=
  ⟨(Reachable.empty _).run _, reachable_machine_valid ((Reachable.empty _).run _)⟩

/-! ### Walking the cycle -/

theorem run_next {i : Nat} (hi : m.current = some i) (k : Nat) :
    m.run (List.replicate (k + 1) .next) =
      ⟨{ m with customActive := false, current := some ((i + (k + 1)) % m.size) },
        List.replicate (k + 1) (.ok ()), if m.hooked then List.replicate (k + 1) m.label else []⟩ := by
  induction k generalizing m i with
  | zero => cases hh : m.hooked <;> simp [run, exec, next_of_current hi, announce, hh]
  | succ k ih =>
    -- the first call moves to `(i + 1) % n`, the others are the hypothesis from there
    have h₁ : ({ m with customActive := false, current := some ((i + 1) % m.size) } : Machine α).current =
        some ((i + 1) % m.size) := rfl
    have hsum : i + 1 + (k + 1) = i + (k + 1 + 1) := by omega
    rw [List.replicate_succ, run, exec, next_of_current hi]
    simp only
    rw [ih h₁]
    cases hh : m.hooked <;> simp [size, Nat.mod_add_mod, hsum, announce, hh, List.replicate_succ]

/-- From every reachable machine with states registered, at place `i` of its
`n` states, in custom mode or not: `k ≥ 1` calls of `next` all succeed, leave
the machine out of custom mode at place `(i + k) mod n`, with the state
registered there current, and call the hook `k` times with the machine's label.
From outside custom mode, `n` calls give back the machine itself. -/
theorem next_cycles {m : Machine α} (hm : Reachable m) (hne : m.states ≠ []) (k : Nat) (hk : 1 ≤ k) :
    ∃ i, m.current = some i ∧
      m.run (List.replicate k .next) =
        ⟨{ m with customActive := false, current := some ((i + k) % m.size) },
          List.replicate k (.ok ()), if m.hooked then List.replicate k m.label else []⟩ ∧
      (m.run (List.replicate k .next)).machine.currentState = m.states[(i + k) % m.size]? ∧
      (m.customActive = false → (m.run (List.replicate m.size .next)).machine = m) := by
  have hv := hm.valid
  obtain ⟨i, hi⟩ : ∃ i, m.current = some i :=
    Option.ne_none_iff_exists'.mp fun hc => hne (hv.current_none.mp hc)
  obtain ⟨j, rfl⟩ : ∃ j, k = j + 1 := ⟨k - 1, by omega⟩
  have hrun := run_next hi j
  refine ⟨i, hi, hrun, by rw [hrun]; rfl, fun hc => ?_⟩
  -- a whole round: `n` places on from `i < n` is `i` again
  obtain ⟨n, hn⟩ : ∃ n, m.size = n + 1 := ⟨m.size - 1, by have := List.length_pos_iff.mpr hne; simp only [size]; omega⟩
  have hlt := hv.current_lt i hi
  rw [hn, run_next hi n, hn, Nat.add_mod_right, Nat.mod_eq_of_lt (hn ▸ hlt)]
  cases m with
  | mk label states current initial custom customActive hooked =>
    simp only at hi hc
    rw [hi, hc]

theorem next_cycles_motor :
    let m := ((Machine.empty "Motor" : Machine Nat).run
      [.setHook true, .add ⟨"Off", some 0⟩, .add ⟨"Slow", some 1⟩, .add ⟨"Fast", some 2⟩,
        .setCustom ⟨"Custom", some 3⟩, .useCustom]).machine
    Reachable m ∧ m.states ≠ [] ∧ 1 ≤ 4 ∧
      ∃ i, m.current = some i ∧
        m.run (List.replicate 4 .next) =
          ⟨{ m with customActive := false, current := some ((i + 4) % m.size) },
            List.replicate 4 (.ok ()), if m.hooked then List.replicate 4 m.label else []⟩ ∧
        (m.run (List.replicate 4 .next)).machine.currentState = m.states[(i + 4) % m.size]? ∧
        (m.customActive = false → (m.run (List.replicate m.size .next)).machine = m) := by
  intro m
  have hm : Reachable m := (Reachable.empty _).run _
  have hne : m.states ≠ [] := List.cons_ne_nil _ _
  exact ⟨hm, hne, by decide, next_cycles hm hne 4 (by decide)⟩

end Machine

end GalaxyProjector
