import Mathlib.Data.List.Basic
import GalaxyProjector.Proofs.Calls

/-! Where a machine starts while its table is built. Naming an initial state
makes it current if it is already registered, and otherwise when it is added;
until then the first state registered is current, and with no states nothing
is. Refused additions, a repeated name or a full table, change nothing, and a
state keeps its place as others are appended, so the rule holds after every
addition, whether the initial state was named before the first addition or
after some of them. -/

namespace GalaxyProjector

namespace Machine

variable {α : Type} {m : Machine α}

/-- Where building a table leaves the current place: on the state named initial
once it is registered, else on the first state, else nowhere. -/
def startPlace (names : List String) (initial : Option String) : Option Nat :=
  match initial with
  | some x => if x ∈ names then some (names.idxOf x) else if names = [] then none else some 0
  | none => if names = [] then none else some 0

def AtStart (m : Machine α) : Prop := m.current = startPlace m.names m.initial

theorem run_append (ops₁ ops₂ : List (Op α)) :
    (m.run (ops₁ ++ ops₂)).machine = ((m.run ops₁).machine.run ops₂).machine := by
  induction ops₁ generalizing m with
  | nil => rfl
  | cons op ops ih => exact ih

theorem indexOf_eq_idxOf {name : String} (h : name ∈ m.names) : m.indexOf name = some (m.names.idxOf name) := by
  unfold indexOf names at *
  generalize m.states = l at h ⊢
  induction l with
  | nil => cases h
  | cons s ss ih =>
    by_cases hs : s.name = name
    · simp [List.findIdx?_cons, hs]
    · have hmem : name ∈ ss.map (·.name) := (List.mem_cons.mp h).resolve_left (Ne.symm hs)
      simp [List.findIdx?_cons, hs, ih hmem, List.idxOf_cons_ne _ hs]

@[simp] theorem add_initial (s : State α) : (m.add s).machine.initial = m.initial := by
  unfold Machine.add
  split
  · rfl
  · split <;> rfl

theorem run_add_initial (ss : List (State α)) : (m.run (ss.map .add)).machine.initial = m.initial := by
  induction ss generalizing m with
  | nil => rfl
  | cons s ss ih => exact ih.trans (add_initial s)

theorem startPlace_append {names : List String} {n : String} (hfresh : n ∉ names) (initial : Option String) :
    startPlace (names ++ [n]) initial =
      match initial with
      | some x =>
        if x ∈ names then some (names.idxOf x)
        else if x = n then some names.length else some 0
      | none => some 0 := by
  cases initial with
  | none => simp [startPlace]
  | some x =>
    by_cases hx : x ∈ names
    · simp [startPlace, hx, List.idxOf_append_of_mem hx]
    · by_cases hxn : x = n
      · subst hxn
        simp [startPlace, hx, List.idxOf_append_of_notMem hx]
      · simp [startPlace, hx, hxn]

namespace AtStart

/-- The step lemma for additions. A refused addition changes nothing. An
accepted one appends a fresh name: a current place is kept unless it is the
initial state being added, and the first state added becomes current. -/
theorem add (h : m.AtStart) (s : State α) : (m.add s).machine.AtStart := by
  unfold Machine.add
  split
  · exact h
  · rename_i hdup
    split
    · exact h
    · have hfresh : s.name ∉ m.names := fun hs => hdup (indexOf_isSome.mpr hs)
      have hnames : (m.states ++ [s]).map (·.name) = m.names ++ [s.name] := by simp [names]
      show (if m.current.isNone || m.initial == some s.name then some m.size else m.current) =
        startPlace ((m.states ++ [s]).map (·.name)) m.initial
      rw [hnames, startPlace_append hfresh]
      unfold AtStart startPlace at h
      have hsize : m.size = m.names.length := by simp [size, names]
      cases hi : m.initial with
      | none =>
        rw [hi] at h
        by_cases he : m.names = []
        · simp [h, he, hsize]
        · simp [h, he]
      | some x =>
        rw [hi] at h
        by_cases hx : x ∈ m.names
        · -- the initial state is already registered, so the fresh name is another
          have hxn : x ≠ s.name := fun he => hfresh (he ▸ hx)
          simp [h, hx, hxn]
        · by_cases hxn : x = s.name
          · subst hxn
            simp [hx, hsize]
          · by_cases he : m.names = []
            · simp [h, hxn, he, hsize]
            · simp [h, hx, hxn, he]

theorem run_add (h : m.AtStart) (ss : List (State α)) : (m.run (ss.map .add)).machine.AtStart := by
  induction ss generalizing m with
  | nil => exact h
  | cons s ss ih => exact ih (h.add s)

theorem withInitial (h : m.AtStart) (hi : m.initial = none) (x : String) : (m.withInitial x).AtStart := by
  show (m.indexOf x).or m.current = startPlace m.names (some x)
  unfold AtStart at h
  rw [hi] at h
  by_cases hx : x ∈ m.names
  · simp [indexOf_eq_idxOf hx, startPlace, hx]
  · rw [(indexOf_eq_none).mpr hx, Option.none_or, h]
    simp [startPlace, hx]

end AtStart

theorem empty_atStart (label : String) : (Machine.empty label : Machine α).AtStart := rfl

theorem built_atStart (label x : String) (before after : List (State α)) :
    ((Machine.empty label).run (before.map .add ++ .withInitial x :: after.map .add)).machine.AtStart ∧
      ((Machine.empty label).run (before.map .add ++ .withInitial x :: after.map .add)).machine.initial =
        some x := by
  rw [run_append]
  have hinit : ((Machine.empty label).run (before.map .add)).machine.initial = none := run_add_initial before
  exact ⟨(((empty_atStart label).run_add before).withInitial hinit x).run_add after, run_add_initial after⟩

/-- The initial state chosen while a table is built. After `withInitial x`, on a
new machine or after some additions, and after every addition that follows,
refused or not: the current place is the position of `x` if a state named `x`
is registered, otherwise the first state if any is, and otherwise none. -/
theorem initial_state_chosen (label x : String) (before after : List (State α)) :
    let m := ((Machine.empty label).run (before.map .add ++ .withInitial x :: after.map .add)).machine
    m.current = if x ∈ m.names then some (m.names.idxOf x) else if m.names = [] then none else some 0 := by
  intro m
  obtain ⟨hm, hx⟩ : m.AtStart ∧ m.initial = some x := built_atStart label x before after
  rw [hm, hx]
  rfl

example : (((Machine.empty "Motor" : Machine Unit).withInitial "Slow").run
    [.add ⟨"Off", none⟩, .add ⟨"Slow", none⟩, .add ⟨"Fast", none⟩]).machine.current = some 1 := by
  decide

end Machine

end GalaxyProjector
