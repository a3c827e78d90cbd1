import GalaxyProjector.Switch

/-! A debounced switch fires exactly once per physical press. A low sample
fires when no earlier sample was low, or when high samples came after the last
low one and the first of them lies more than the quiet time before it; every
other sample leaves the handler alone and answers `false`. The switch's state
after any history of samples is one of four phases of that history (no low
sample yet, held, releasing, released), and polling moves it from phase to
phase whatever the handlers do. A failed read changes nothing, and a gated
handler passes a press on exactly when the gate is on. -/

namespace GalaxyProjector

namespace Debounce

/-- Samples of a line, oldest first: whether the line was low, and when. -/
abbrev History := List (Bool × Nat)

def Highs (r : History) : Prop := ∀ s ∈ r, s.1 = false

/-- Whether a low sample at time `t` after the samples `hist` is a new press:
no earlier sample was low, or high samples came after the last low one and the
first of them came more than `q` before `t`. -/
def NewPress (q : Nat) (hist : History) (t : Nat) : Prop :=
  Highs hist ∨
    ∃ pre tl first rest, hist = pre ++ (true, tl) :: (false, first) :: rest ∧ Highs rest ∧ q < t - first

theorem Highs.append {r r' : History} (h : Highs r) (h' : Highs r') : Highs (r ++ r') := by
  intro s hs
  rcases List.mem_append.mp hs with hs | hs
  · exact h s hs
  · exact h' s hs

theorem last_low_unique {pre₁ pre₂ r₁ r₂ : History} {a b : Nat}
    (h : pre₁ ++ (true, a) :: r₁ = pre₂ ++ (true, b) :: r₂) (h₁ : Highs r₁) (h₂ : Highs r₂) :
    pre₁ = pre₂ ∧ a = b ∧ r₁ = r₂ := by
  rcases List.append_eq_append_iff.mp h with ⟨c, hc, hr⟩ | ⟨c, hc, hr⟩
  · -- `pre₁` is a prefix of `pre₂`: anything between them would put a low
    -- sample among the highs after `a`
    cases c with
    | nil => simp_all
    | cons x c =>
      simp only [List.cons_append, List.cons.injEq] at hr
      have := h₁ (true, b) (by rw [hr.2]; simp)
      cases this
  · cases c with
    | nil => simp_all
    | cons x c =>
      simp only [List.cons_append, List.cons.injEq] at hr
      have := h₂ (true, a) (by rw [hr.2]; simp)
      cases this

theorem not_newPress_held (q t : Nat) (pre : History) (tl : Nat) :
    ¬ NewPress q (pre ++ [(true, tl)]) t := by
  rintro (hh | ⟨pre', tl', first, rest, he, hr, -⟩)
  · exact absurd (hh (true, tl) (by simp)) (by simp)
  · have hn : Highs ((false, first) :: rest) := by
      intro s hs
      rcases List.mem_cons.mp hs with rfl | hs
      · rfl
      · exact hr s hs
    have := (last_low_unique he (by simp [Highs]) hn).2.2
    cases this

theorem newPress_releasing (q t : Nat) (pre : History) (tl first : Nat) {rest : History} (hr : Highs rest) :
    NewPress q (pre ++ (true, tl) :: (false, first) :: rest) t ↔ q < t - first := by
  constructor
  · rintro (hh | ⟨pre', tl', first', rest', he, hr', hq⟩)
    · exact absurd (hh (true, tl) (by simp)) (by simp)
    · have hn : ∀ {f : Nat} {r : History}, Highs r → Highs ((false, f) :: r) := by
        intro f r h s hs
        rcases List.mem_cons.mp hs with rfl | hs
        · rfl
        · exact h s hs
      have := (last_low_unique he (hn hr) (hn hr')).2.2
      simp only [List.cons.injEq, Prod.mk.injEq, true_and] at this
      rw [this.1]
      exact hq
  · intro hq
    exact .inr ⟨pre, tl, first, rest, rfl, hr, hq⟩

/-- The state a switch is in after a history of samples, in four phases: no low
sample yet; the last sample low; high samples since the last low one, the first
at `first`, none of them past the quiet time; and one of them past it. -/
inductive Tracks (q : Nat) : History → Debounce → Prop
  | idle {hist : History} (h : Highs hist) : Tracks q hist { quiet := q }
  | held (pre : History) (tl : Nat) : Tracks q (pre ++ [(true, tl)]) { pressed := true, quiet := q }
  | releasing (pre : History) (tl first : Nat) {rest : History} (h : Highs rest)
      (hq : ∀ s ∈ rest, s.2 - first ≤ q) :
      Tracks q (pre ++ (true, tl) :: (false, first) :: rest)
        { pressed := true, releasedAt := some first, quiet := q }
  | released (pre : History) (tl first : Nat) {rest : History} (h : Highs rest)
      (hq : ∃ s ∈ rest, q < s.2 - first) :
      Tracks q (pre ++ (true, tl) :: (false, first) :: rest) { quiet := q }

section Step

variable {q t : Nat} {hist : History} {d : Debounce}

theorem highs_snoc_false {r : History} (h : Highs r) (t : Nat) : Highs (r ++ [(false, t)]) :=
  h.append (by simp [Highs])

theorem sample_high (d : Debounce) (now : Nat) : (d.sample false now).2 = false := by
  simp only [sample, Bool.false_eq_true, ↓reduceIte]
  split
  · split
    · rfl
    · split <;> rfl
  · rfl

/-- The step lemma: a sample fires exactly on a new press, and the state after
it is the phase of the longer history. Times never go back. -/
theorem Tracks.sample (ht : Tracks q hist d) (hle : ∀ s ∈ hist, s.2 ≤ t) (low : Bool) :
    Tracks q (hist ++ [(low, t)]) (d.sample low t).1 ∧
      ((d.sample low t).2 = true ↔ low = true ∧ NewPress q hist t) := by
  cases ht with
  | idle hh =>
    cases low
    · exact ⟨.idle (highs_snoc_false hh t), by simp [sample]⟩
    · exact ⟨.held hist t, by simp [sample, NewPress, hh]⟩
  | held pre tl =>
    cases low
    · refine ⟨?_, by simp [sample]⟩
      have := @Tracks.releasing q pre tl t [] (by simp [Highs]) (by simp)
      simpa [sample] using this
    · refine ⟨by simpa [sample, quietElapsed] using Tracks.held (q := q) (pre ++ [(true, tl)]) t, ?_⟩
      simp [sample, quietElapsed, not_newPress_held]
  | @releasing pre tl first rest hh hq =>
    have hnew := newPress_releasing q t pre tl first hh
    cases low
    · refine ⟨?_, by simp [sample_high]⟩
      by_cases hgap : q < t - first
      · have := Tracks.released (q := q) pre tl first (highs_snoc_false hh t) ⟨(false, t), by simp, hgap⟩
        simpa [sample, quietElapsed, hgap] using this
      · have := Tracks.releasing (q := q) pre tl first (highs_snoc_false hh t) (by
          intro s hs
          rcases List.mem_append.mp hs with hs | hs
          · exact hq s hs
          · rw [List.mem_singleton.mp hs]
            omega)
        simpa [sample, quietElapsed, hgap] using this
    · refine ⟨?_, by by_cases hgap : q < t - first <;> simp [sample, quietElapsed, hnew, hgap]⟩
      by_cases hgap : q < t - first <;>
        simpa [sample, quietElapsed, hgap] using Tracks.held (q := q) (pre ++ (true, tl) :: (false, first) :: rest) t
  | @released pre tl first rest hh hq =>
    cases low
    · have := Tracks.released (q := q) pre tl first (highs_snoc_false hh t)
        (hq.imp fun s ⟨hs, hgap⟩ => ⟨by simp [hs], hgap⟩)
      exact ⟨by simpa [sample] using this, by simp [sample]⟩
    · -- a high sample past the quiet time came before, and `t` is later still
      obtain ⟨s, hs, hgap⟩ := hq
      have hst : s.2 ≤ t := hle s (by simp [hs])
      have hnew : NewPress q (pre ++ (true, tl) :: (false, first) :: rest) t :=
        (newPress_releasing q t pre tl first hh).mpr (by omega)
      exact ⟨by simpa [sample] using Tracks.held (q := q) (pre ++ (true, tl) :: (false, first) :: rest) t,
        by simp [sample, hnew]⟩

end Step

end Debounce

structure Poll (η : Type) where
  line : Option Bool
  now : Nat
  press : η → η × Except Error Unit

namespace Poll

variable {η : Type}

def samples (ps : List (Poll η)) : Debounce.History := ps.filterMap fun p => p.line.map (·, p.now)

@[simp] theorem samples_nil : samples ([] : List (Poll η)) = [] := rfl

theorem samples_append (ps ps' : List (Poll η)) : samples (ps ++ ps') = samples ps ++ samples ps' :=
  List.filterMap_append

theorem samples_cons (p : Poll η) (ps : List (Poll η)) :
    samples (p :: ps) = (p.line.map (·, p.now)).toList ++ samples ps := by
  cases h : p.line <;> simp [samples, h]

end Poll

namespace Debounce

variable {η : Type}

def polls (d : Debounce) (h : η) : List (Poll η) → Debounce × η
  | [] => (d, h)
  | p :: ps => let r := d.update p.press h p.line p.now; polls r.1 r.2.1 ps

theorem update_none (d : Debounce) (press : η → η × Except Error Unit) (h : η) (now : Nat) :
    d.update press h none now = (d, h, .error (.input .readFailed)) := rfl

theorem update_some (d : Debounce) (press : η → η × Except Error Unit) (h : η) (low : Bool) (now : Nat) :
    d.update press h (some low) now =
      if (d.sample low now).2 then ((d.sample low now).1, (press h).1, (press h).2.map fun _ => true)
      else ((d.sample low now).1, h, .ok false) := by
  simp only [update]

/-- The run lemma: after any polls the switch is in the phase of the samples
read, whatever the handlers did. -/
theorem Tracks.polls {q : Nat} {hist : History} {d : Debounce} (ht : Tracks q hist d) (h : η)
    (ps : List (Poll η)) (hsorted : (hist ++ Poll.samples ps).Pairwise (fun a b => a.2 ≤ b.2)) :
    Tracks q (hist ++ Poll.samples ps) (d.polls h ps).1 := by
  induction ps generalizing hist d h with
  | nil => simpa [Debounce.polls] using ht
  | cons p ps ih =>
    simp only [Debounce.polls]
    cases hl : p.line with
    | none =>
      have hs : Poll.samples (p :: ps) = Poll.samples ps := by simp [Poll.samples_cons, hl]
      rw [hs] at hsorted ⊢
      simp only [update_none]
      exact ih ht h hsorted
    | some low =>
      have hs : hist ++ Poll.samples (p :: ps) = (hist ++ [(low, p.now)]) ++ Poll.samples ps := by
        simp [Poll.samples_cons, hl]
      rw [hs] at hsorted ⊢
      have hle : ∀ s ∈ hist, s.2 ≤ p.now := fun s hs =>
        (List.pairwise_append.mp (List.pairwise_append.mp hsorted).1).2.2 s hs (low, p.now) (by simp)
      have hnext := (ht.sample hle low).1
      rw [update_some]
      split <;> exact ih hnext _ hsorted

end Debounce

/-- Debouncing fires exactly once per physical press. Start a switch with any
quiet time `q` and any handler, and poll it any number of times, with times
that never go back among the reads that succeed and a handler that may act
differently at each poll. At the next poll, a failed read answers
`input: GPIO read failed` and changes nothing. A low read runs the handler
exactly once, and answers `true` if it succeeds and its error otherwise, when
it is a new press: no earlier read was low, or high reads came after the last
low one and the first of them lies more than `q` before it. Any other read
leaves the handler alone and answers `false`. A gated handler runs the inner
one exactly at the new presses at which the gate is on. -/
theorem presses_fire_once (q : Nat) {η : Type} (h₀ : η) (ps : List (Poll η)) (next : Poll η)
    (hsorted : (Poll.samples (ps ++ [next])).Pairwise (fun a b => a.2 ≤ b.2)) :
    let s := ({ quiet := q } : Debounce).polls h₀ ps
    let r := s.1.update next.press s.2 next.line next.now
    (next.line = none → r = (s.1, s.2, .error (.input .readFailed))) ∧
    (∀ low, next.line = some low →
      (low = true ∧ Debounce.NewPress q (Poll.samples ps) next.now →
        r.2 = ((next.press s.2).1, (next.press s.2).2.map fun _ => true)) ∧
      (¬ (low = true ∧ Debounce.NewPress q (Poll.samples ps) next.now) → r.2 = (s.2, .ok false))) ∧
    (∀ on inner low, next.press = gatedPress on inner → next.line = some low →
      ((low = true ∧ Debounce.NewPress q (Poll.samples ps) next.now) ∧ on = true → r.2.1 = (inner s.2).1) ∧
      (¬ ((low = true ∧ Debounce.NewPress q (Poll.samples ps) next.now) ∧ on = true) → r.2.1 = s.2)) := by
  intro s r
  have hsplit := hsorted
  rw [Poll.samples_append] at hsplit
  have ht : Debounce.Tracks q (Poll.samples ps) s.1 := by
    simpa using (@Debounce.Tracks.idle q [] (by simp [Debounce.Highs])).polls h₀ ps
      (by simpa using (List.pairwise_append.mp hsplit).1)
  -- the next read fires exactly on a new press of a low line
  have hfire : ∀ low, next.line = some low →
      ((s.1.sample low next.now).2 = true ↔ low = true ∧ Debounce.NewPress q (Poll.samples ps) next.now) := by
    intro low hl
    have hle : ∀ x ∈ Poll.samples ps, x.2 ≤ next.now := fun x hx =>
      (List.pairwise_append.mp hsplit).2.2 x hx (low, next.now) (by simp [Poll.samples, hl])
    exact (ht.sample hle low).2
  refine ⟨fun hl => by simp only [r, hl, Debounce.update_none], fun low hl => ⟨fun hnew => ?_, fun hnew => ?_⟩,
    fun on inner low hp hl => ⟨fun hnew => ?_, fun hnew => ?_⟩⟩
  · simp [r, hl, Debounce.update_some, (hfire low hl).mpr hnew]
  · have hf : (s.1.sample low next.now).2 = false := Bool.eq_false_iff.mpr fun h => hnew ((hfire low hl).mp h)
    simp [r, hl, Debounce.update_some, hf]
  · simp [r, hl, Debounce.update_some, hp, gatedPress, (hfire low hl).mpr hnew.1, hnew.2]
  · by_cases hf : (s.1.sample low next.now).2 = true
    · have hon : on = false := by simpa [(hfire low hl).mp hf] using hnew
      simp [r, hl, Debounce.update_some, hp, gatedPress, hf, hon]
    · simp [r, hl, Debounce.update_some, hf]

theorem presses_fire_once_after_release :
    let count : Nat → Nat × Except Error Unit := fun n => (n + 1, .ok ())
    let ps : List (Poll Nat) := [⟨some true, 0, count⟩, ⟨some false, 10, count⟩, ⟨some false, 100, count⟩]
    let next : Poll Nat := ⟨some true, 111, count⟩
    let s := ({ quiet := 100 } : Debounce).polls 0 ps
    let r := s.1.update next.press s.2 next.line next.now
    (Poll.samples (ps ++ [next])).Pairwise (fun a b => a.2 ≤ b.2) ∧
    (next.line = none → r = (s.1, s.2, .error (.input .readFailed))) ∧
    (∀ low, next.line = some low →
      (low = true ∧ Debounce.NewPress 100 (Poll.samples ps) next.now →
        r.2 = ((next.press s.2).1, (next.press s.2).2.map fun _ => true)) ∧
      (¬ (low = true ∧ Debounce.NewPress 100 (Poll.samples ps) next.now) → r.2 = (s.2, .ok false))) ∧
    (∀ on inner low, next.press = gatedPress on inner → next.line = some low →
      ((low = true ∧ Debounce.NewPress 100 (Poll.samples ps) next.now) ∧ on = true → r.2.1 = (inner s.2).1) ∧
      (¬ ((low = true ∧ Debounce.NewPress 100 (Poll.samples ps) next.now) ∧ on = true) → r.2.1 = s.2)) := by
  intro count ps next s r
  have hsorted : (Poll.samples (ps ++ [next])).Pairwise (fun a b => a.2 ≤ b.2) := by decide
  exact ⟨hsorted, presses_fire_once 100 0 ps next hsorted⟩

end GalaxyProjector
