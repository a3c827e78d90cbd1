import GalaxyProjector.Proofs.Steps

/-! Which commands announce a change. A command that is carried out and names a
channel calls that channel's hook exactly once, with the label of the channel's
machine: advancing announces the move, and a custom value announces either the
switch into custom mode or, on a channel already in custom mode, the new value.
A refresh and a refused command call no hook. A refused command leaves every
machine as it was, and a rig's custom values too, since the rig refuses a value
before it stores it. -/

namespace GalaxyProjector

theorem Rig.store_error {r r' : Rig} {id : ChannelId} {v : CustomValue} {e : CommandError}
    (h : r.store id v = (r', .error e)) : r' = r := by
  cases id <;> cases v <;> simp [store] at h <;> exact h.1.symm

namespace Channels

variable {α σ : Type} (c : Channels α)

@[simp] theorem update_machine (id : ChannelId) : c.update id (c.machine id) = c := by
  cases id <;> rfl

variable {store : σ → ChannelId → CustomValue → σ × Except CommandError Unit} {ctx : σ}
  {cmd : Command}

/-- What a command that is carried out does to the bank: a refresh nothing, any
other command replaces its channel's machine by one with the same hook, and
announces once on that hook. -/
theorem apply_ok_cases (h : (c.apply store ctx cmd).result = .ok ()) :
    (cmd = .refresh ∧ c.apply store ctx cmd = ⟨c, ctx, .ok (), []⟩) ∨
      ∃ id m, (cmd = .advance id ∨ ∃ v, cmd = .custom id v) ∧
        (c.apply store ctx cmd).channels = c.update id m ∧ m.hooked = (c.machine id).hooked ∧
        (c.apply store ctx cmd).notes = (c.machine id).announce := by
  cases cmd with
  | advance id =>
    cases hcur : (c.machine id).current with
    | none => rw [apply_advance_empty _ hcur] at h; cases h
    | some i =>
      rw [apply_advance _ hcur]
      exact .inr ⟨id, _, .inl rfl, rfl, rfl, rfl⟩
  | custom id v =>
    cases hcs : (c.machine id).custom with
    | none => rw [apply_custom_none _ hcs] at h; cases h
    | some s =>
      cases hst : store ctx id v with
      | mk ctx' res =>
        cases res with
        | error e => rw [apply_custom_refused _ hcs hst] at h; cases h
        | ok u =>
          rw [apply_custom_stored _ hcs hst]
          exact .inr ⟨id, _, .inr ⟨v, rfl⟩, rfl, rfl, rfl⟩
  | refresh => exact .inl ⟨rfl, rfl⟩

/-- What a refused command leaves: the bank as it was and no announcement; the
owner's state is as it was, unless the store refused the value, in which case it
is as the store left it. -/
theorem apply_error_cases {e : Error} (h : (c.apply store ctx cmd).result = .error e) :
    (c.apply store ctx cmd).channels = c ∧ (c.apply store ctx cmd).notes = [] ∧
      ((c.apply store ctx cmd).ctx = ctx ∨
        ∃ id v ctx' e', cmd = .custom id v ∧ store ctx id v = (ctx', .error e') ∧
          (c.apply store ctx cmd).ctx = ctx') := by
  cases cmd with
  | advance id =>
    cases hcur : (c.machine id).current with
    | none =>
      rw [apply_advance_empty _ hcur]
      exact ⟨update_machine c id, rfl, .inl rfl⟩
    | some i => rw [apply_advance _ hcur] at h; cases h
  | custom id v =>
    cases hcs : (c.machine id).custom with
    | none =>
      rw [apply_custom_none _ hcs]
      exact ⟨rfl, rfl, .inl rfl⟩
    | some s =>
      cases hst : store ctx id v with
      | mk ctx' res =>
        cases res with
        | error e' =>
          rw [apply_custom_refused _ hcs hst]
          exact ⟨rfl, rfl, .inr ⟨id, v, ctx', e', rfl, hst, rfl⟩⟩
        | ok u => rw [apply_custom_stored _ hcs hst] at h; cases h
  | refresh => cases h

/-- A command announces exactly when it is carried out and names a channel:
then it calls that channel's hook once, with the label of the channel's machine,
and no hook at all when the channel has none. A refresh changes nothing and
announces nothing, and a refused command announces nothing and leaves every
machine as it was; on a rig it leaves the custom values as they were too. -/
theorem apply_announces_once (store : σ → ChannelId → CustomValue → σ × Except CommandError Unit)
    (ctx : σ) (cmd : Command) :
    (∀ id, (cmd = .advance id ∨ ∃ v, cmd = .custom id v) → (c.apply store ctx cmd).result = .ok () →
      (c.apply store ctx cmd).notes =
        if (c.machine id).hooked then [(c.machine id).label] else []) ∧
    (cmd = .refresh → c.apply store ctx cmd = ⟨c, ctx, .ok (), []⟩) ∧
    (∀ e, (c.apply store ctx cmd).result = .error e →
      (c.apply store ctx cmd).notes = [] ∧ (c.apply store ctx cmd).channels = c) ∧
    ∀ (rig : Rig) e, (c.apply Rig.store rig cmd).result = .error e → (c.apply Rig.store rig cmd).ctx = rig := by
  refine ⟨fun id hcmd hok => ?_, fun hr => hr ▸ rfl, fun e he => ?_, fun rig e he => ?_⟩
  · rcases apply_ok_cases c hok with ⟨rfl, -⟩ | ⟨id', m, hcmd', -, -, hn⟩
    · rcases hcmd with h | ⟨v, h⟩ <;> cases h
    · -- the command names one channel only
      have hid : id' = id := by
        rcases hcmd with rfl | ⟨v, rfl⟩ <;> rcases hcmd' with h | ⟨v', h⟩ <;> cases h <;> rfl
      rw [hn, hid]
      rfl
  · obtain ⟨hc, hn, -⟩ := apply_error_cases c he
    exact ⟨hn, hc⟩
  · obtain ⟨-, -, hctx | ⟨id, v, rig', e', -, hst, hctx⟩⟩ := apply_error_cases c he
    · exact hctx
    · rw [hctx, Rig.store_error hst]

end Channels

end GalaxyProjector
