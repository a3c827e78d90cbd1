import GalaxyProjector.Proofs.Announce
import GalaxyProjector.Device.Output

/-! The output task never leaves clients with a stale snapshot. With every
machine hooked, each command the projector carries out announces a change,
except a refresh, which changes nothing and asks for a snapshot itself; a
refused command changes nothing at all. So a frame whose commands publish
nothing leaves the projector as it was, and rendering never changes what
clients see. Over every run of the output task, whatever the other tasks make
of the world between its steps, the last snapshot it published is the
projector's own from its first step on. -/

namespace GalaxyProjector

/-- Every machine of the projector announces its changes. -/
def Projector.Hooked (p : Projector) : Prop := ∀ id, (p.channels.machine id).hooked = true

theorem firmwareProjector_hooked : firmwareProjector.Hooked := by
  intro id
  rw [firmwareProjector, Projector.new_machine]
  rfl

namespace Projector

variable {p p' : Projector} {cmd : Command} {fired : Bool}

theorem Hooked.update (h : p.Hooked) {id : ChannelId} {m : Machine Preset}
    (hm : m.hooked = (p.channels.machine id).hooked) (rig : Rig) :
    Hooked { channels := p.channels.update id m, rig } := by
  intro id'
  show ((p.channels.update id m).machine id').hooked = true
  rw [Channels.machine_update]
  split <;> rename_i he
  · rw [hm, ← he]
    exact h id'
  · exact h id'

theorem Hooked.apply (h : p.Hooked) (ha : p.apply cmd = .ok (p', fired)) :
    p'.Hooked ∧ (fired = false → cmd = .refresh ∧ p' = p) := by
  match hr : (p.channels.apply Rig.store p.rig cmd).result with
  | .error e => rw [apply_of_error rfl hr] at ha; cases ha
  | .ok () =>
    rw [apply_of_ok rfl hr, Except.ok.injEq, Prod.mk.injEq] at ha
    obtain ⟨rfl, rfl⟩ := ha
    rcases Channels.apply_ok_cases _ hr with ⟨rfl, -⟩ | ⟨id, m, -, hc, hm, hn⟩
    · exact ⟨h, fun _ => ⟨rfl, rfl⟩⟩
    · refine ⟨?_, fun hf => ?_⟩
      · rw [hc]
        exact h.update hm _
      · rw [hn, Machine.announce, h id] at hf
        cases hf

theorem render_snapshot {now : Nat} {on : Bool} (hr : p.render now = .ok (p', on)) :
    p'.snapshot = p.snapshot := by
  obtain ⟨hc, hi, -⟩ := render_ok hr
  simp only [Rig.inputs, Rig.Inputs.mk.injEq] at hi
  obtain ⟨hb, hcol, hs, -⟩ := hi
  have hv : p'.rig.customValue = p.rig.customValue := by
    funext id
    cases id <;> simp [Rig.customValue, hb, hcol, hs]
  rw [snapshot, snapshot, hc, hv]

theorem Hooked.render (h : p.Hooked) {now : Nat} {on : Bool} (hr : p.render now = .ok (p', on)) :
    p'.Hooked := by
  rw [Hooked, (render_ok hr).1]
  exact h

@[simp] theorem takeJournal_snapshot : p.takeJournal.2.snapshot = p.snapshot := rfl

@[simp] theorem takeJournal_channels : p.takeJournal.2.channels = p.channels := rfl

@[simp] theorem takeFault_snapshot : p.takeFault.2.snapshot = p.snapshot := rfl

@[simp] theorem takeFault_channels : p.takeFault.2.channels = p.channels := rfl

end Projector

theorem drainQueue_quiet {p : Projector} (h : p.Hooked) (q : Mailbox) (fuel : Nat) :
    (drainQueue p q fuel).1.Hooked ∧
      ((drainQueue p q fuel).2.2.1 = false → (drainQueue p q fuel).2.2.2.1 = false →
        (drainQueue p q fuel).1 = p) := by
  induction fuel generalizing p q with
  | zero => exact ⟨h, fun _ _ => rfl⟩
  | succ fuel ih =>
    rcases hrec : q.tryReceive with ⟨_ | c, q', woken⟩
    · simpa [drainQueue, hrec] using h
    · -- the command is carried out or refused; either way the rest of the
      -- queue is drained from the projector it leaves
      cases ha : p.apply c with
      | error e =>
        simp only [drainQueue, hrec, ha, Bool.false_or]
        exact ih h q'
      | ok r =>
        obtain ⟨p₁, fired⟩ := r
        obtain ⟨h₁, hquiet⟩ := h.apply ha
        obtain ⟨hh, hq⟩ := ih h₁ q'
        simp only [drainQueue, hrec, ha, Bool.or_eq_false_iff]
        refine ⟨hh, fun hc hr => ?_⟩
        obtain ⟨hcmd, rfl⟩ := hquiet hc.1
        simp [hcmd] at hr

/-- The first half of a frame on a hooked projector keeps every hook, and
either publishes the snapshot of the projector it leaves or leaves the
projector as it was. -/
theorem frameCommands_fresh {p : Projector} (h : p.Hooked) (w : World) :
    (frameCommands w p).2.1.Hooked ∧
      ((frameCommands w p).2.2 = some (frameCommands w p).2.1.snapshot ∨
        ((frameCommands w p).2.2 = none ∧ (frameCommands w p).2.1 = p)) := by
  obtain ⟨hh, hq⟩ := drainQueue_quiet h w.mailbox (w.mailbox.items.length + 1)
  simp only [frameCommands]
  split <;> rename_i hflag
  · exact ⟨hh, .inl rfl⟩
  · simp only [Bool.or_eq_true, not_or, Bool.not_eq_true] at hflag
    exact ⟨hh, .inr ⟨rfl, hq hflag.1 hflag.2⟩⟩

theorem frameRender_snapshot (w : World) (p : Projector) : (frameRender w p).2.snapshot = p.snapshot := by
  simp only [frameRender]
  split <;> rename_i r hr
  · simpa using Projector.render_snapshot hr
  · rfl

theorem Projector.Hooked.frameRender {p : Projector} (h : p.Hooked) (w : World) :
    (GalaxyProjector.frameRender w p).2.Hooked := by
  simp only [GalaxyProjector.frameRender]
  split <;> rename_i r hr
  · simpa [Projector.Hooked] using h.render hr
  · exact h

def Step.state {σ : Type} : Step σ → σ
  | .next s | .wait s | .done s => s

namespace OutputTask

def published (w : World) (o : OutputTask) : Option Snapshot :=
  match o.phase with
  | .start => some o.projector.snapshot
  | .frame => (frameCommands w o.projector).2.2
  | .tick => none

def run (o : OutputTask) (last : Option Snapshot) : List World → OutputTask × Option Snapshot
  | [] => (o, last)
  | w :: ws =>
    let last := (o.published w).or last
    match (o.step w).2 with
    | .next o' | .wait o' => o'.run last ws
    | .done o' => (o', last)

/-- What the output task keeps: its projector is hooked, and once it has
started, the last snapshot it published is the projector's. -/
structure Fresh (o : OutputTask) (last : Option Snapshot) : Prop where
  hooked : o.projector.Hooked
  current : o.phase = .start ∨ last = some o.projector.snapshot

/-- The step lemma: every step of the output task keeps it fresh. -/
theorem Fresh.step {o : OutputTask} {last : Option Snapshot} (hf : Fresh o last) (w : World) :
    Fresh (o.step w).2.state ((o.published w).or last) := by
  cases hph : o.phase with
  | start =>
    have hs : (o.step w).2.state = { o with expires := w.now + framePeriod, phase := .frame } := by
      simp [OutputTask.step, hph, Step.state]
    rw [hs]
    exact ⟨hf.hooked, .inr (by simp [published, hph])⟩
  | frame =>
    have hs : (o.step w).2.state = { o with projector := (outputFrame w o.projector).2, phase := .tick } := by
      simp only [OutputTask.step, hph]
      split <;> rfl
    have hpub : o.published w = (frameCommands w o.projector).2.2 := by simp [published, hph]
    -- the frame renders the projector that its first half leaves
    let half := frameCommands w o.projector
    have hp : (outputFrame w o.projector).2 = (frameRender half.1 half.2.1).2 := rfl
    obtain ⟨hh, hfresh⟩ := frameCommands_fresh hf.hooked w
    rw [hs, hpub]
    refine ⟨hp ▸ hh.frameRender half.1, .inr ?_⟩
    show half.2.2.or last = some (outputFrame w o.projector).2.snapshot
    rw [hp, frameRender_snapshot]
    rcases hfresh with hsome | ⟨hnone, hsame⟩
    · simp [half, hsome]
    · have hlast := hf.current.resolve_left (by simp [hph])
      simp [half, hnone, hlast, hsame]
  | tick =>
    have hs : (o.step w).2.state.projector = o.projector ∧ (o.step w).2.state.phase ≠ .start := by
      simp only [OutputTask.step, hph]
      split <;> simp [Step.state, hph]
    have hlast := hf.current.resolve_left (by simp [hph])
    exact ⟨hs.1 ▸ hf.hooked, .inr (by simp [published, hph, hlast, hs.1])⟩

/-- The run lemma: the output task stays fresh over every run. -/
theorem Fresh.run {o : OutputTask} {last : Option Snapshot} (hf : Fresh o last) (ws : List World) :
    Fresh (o.run last ws).1 (o.run last ws).2 := by
  induction ws generalizing o last with
  | nil => exact hf
  | cons w ws ih =>
    have hstep := hf.step w
    simp only [OutputTask.run]
    split <;> rename_i o' hs <;> rw [hs] at hstep
    · exact ih hstep
    · exact ih hstep
    · exact hstep

end OutputTask

/-- Clients never see a stale snapshot. On a hooked projector a frame whose
commands publish nothing leaves the projector as it was, and rendering never
changes what clients see. So over every run of an output task that starts
with a hooked projector, whatever commands the other tasks queue between its
steps, the last snapshot published is the projector's own after every step
from the first on. -/
theorem snapshot_never_stale :
    (∀ (w : World) (p : Projector), p.Hooked →
      (frameCommands w p).2.2 = none → (frameCommands w p).2.1 = p) ∧
    (∀ (w : World) (p : Projector), (frameRender w p).2.snapshot = p.snapshot) ∧
    ∀ (o : OutputTask), o.phase = .start → o.projector.Hooked → ∀ ws : List World,
      (o.run none ws).1.phase ≠ .start →
        (o.run none ws).2 = some (o.run none ws).1.projector.snapshot := by
  refine ⟨fun w p h hnone => ?_, frameRender_snapshot, fun o hstart h ws hrun => ?_⟩
  · rcases (frameCommands_fresh h w).2 with hpub | ⟨-, hsame⟩
    · rw [hnone] at hpub
      cases hpub
    · exact hsame
  · exact ((OutputTask.Fresh.run ⟨h, .inl hstart⟩ ws).current).resolve_left hrun

theorem snapshot_never_stale_firmware :
    let busy : World := { mailbox := { items := [.advance .power, .refresh] } }
    firmwareProjector.Hooked ∧ (frameCommands {} firmwareProjector).2.2 = none ∧
      (frameCommands {} firmwareProjector).2.1 = firmwareProjector ∧
      (({} : OutputTask).run none [{}, busy, {}]).1.phase ≠ .start ∧
      (({} : OutputTask).run none [{}, busy, {}]).2 =
        some (({} : OutputTask).run none [{}, busy, {}]).1.projector.snapshot := by
  intro busy
  have hnone : (frameCommands {} firmwareProjector).2.2 = none := by decide
  have hstarted : (({} : OutputTask).run none [{}, busy, {}]).1.phase ≠ .start := by decide
  exact ⟨firmwareProjector_hooked, hnone,
    snapshot_never_stale.1 {} firmwareProjector firmwareProjector_hooked hnone, hstarted,
    snapshot_never_stale.2.2 {} rfl firmwareProjector_hooked _ hstarted⟩

end GalaxyProjector
