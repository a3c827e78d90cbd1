import GalaxyProjector.Proofs.Frame

/-! What reaches a PWM line. An output writes a level only when it differs from
the level it holds, and takes the level only when the write succeeds; a signed
level outside 0..=255 is refused before anything is tried. So over any run of
requests, whichever writes fail, the output holds the last level written (0 on a
new output) and the line sees exactly the duties of the requests in range that
changed the level on a working line, in order.

The colour group asks red, green, blue and white in turn and gives up at the
first channel that refuses: a channel takes its level exactly when it and every
channel before it take theirs. -/

namespace GalaxyProjector

namespace Pwm

/-- A request to an output: a level, or a signed level that is range-checked
first. -/
inductive Request where
  | set (v : UInt8)
  | setLevel (v : Int)
  deriving DecidableEq, Repr

namespace Request

def value : Request → Int
  | .set v => v.toNat
  | .setLevel v => v

def level? (r : Request) : Option UInt8 :=
  if 0 ≤ r.value ∧ r.value ≤ 255 then some r.value.toNat.toUInt8 else none

theorem level?_set (v : UInt8) : (Request.set v).level? = some v := by
  have hlt := v.toNat_lt
  simp only [level?, value, Int.toNat_natCast, UInt8.ofNat_toNat]
  rw [if_pos (by omega)]

end Request

def request (o : Pwm) : Request → Except OutputError (Pwm × Option Nat)
  | .set v => o.set v
  | .setLevel v => o.setLevel v

def withFailing (o : Pwm) (fails : Bool) : Pwm := { o with line := { o.line with failing := fails } }

/-- Requests made in order, each while the line fails or not: the output
afterwards and the duties that reached the line, in order. A refused request
leaves the output as it was. -/
def serve (o : Pwm) : List (Request × Bool) → Pwm × List Nat
  | [] => (o, [])
  | (r, fails) :: rest =>
    match (o.withFailing fails).request r with
    | .ok (o', w) => ((o'.serve rest).1, w.toList ++ (o'.serve rest).2)
    | .error _ => (o.withFailing fails).serve rest

def written (l : UInt8) : List (Request × Bool) → List UInt8
  | [] => []
  | (r, fails) :: rest =>
    match r.level? with
    | some v => if v ≠ l ∧ fails = false then v :: written v rest else written l rest
    | none => written l rest

/-- One request: a number outside 0..=255 is refused before anything is tried;
a level already held is not written; any other is written once, with the duty
`level * maxDuty / 255`, and becomes the output's level exactly when the write
succeeds. -/
theorem request_eq (o : Pwm) (r : Request) :
    o.request r = match r.level? with
      | none => .error (.outOfRange r.value)
      | some v =>
        if v = o.level then .ok (o, none)
        else if o.line.failing then .error .writeFailed
        else .ok ({ o with level := v }, some (o.line.duty v)) := by
  cases r with
  | set v => rw [Request.level?_set]; rfl
  | setLevel v =>
    by_cases hr : 0 ≤ v ∧ v ≤ 255
    · have hl : (Request.setLevel v).level? = some v.toNat.toUInt8 := if_pos hr
      rw [hl]
      exact if_pos hr
    · have hl : (Request.setLevel v).level? = none := if_neg hr
      rw [hl]
      exact if_neg hr

@[simp] theorem withFailing_level (o : Pwm) (fails : Bool) : (o.withFailing fails).level = o.level := rfl

@[simp] theorem withFailing_duty (o : Pwm) (fails : Bool) : (o.withFailing fails).line.duty = o.line.duty := rfl

@[simp] theorem withFailing_failing (o : Pwm) (fails : Bool) : (o.withFailing fails).line.failing = fails := rfl

/-- The run lemma: the output ends at the last level written, or where it
started, and the line sees the duties of the levels written. -/
theorem serve_written (o : Pwm) (reqs : List (Request × Bool)) :
    (o.serve reqs).1.level = (written o.level reqs).getLastD o.level ∧
      (o.serve reqs).2 = (written o.level reqs).map o.line.duty := by
  induction reqs generalizing o with
  | nil => exact ⟨rfl, rfl⟩
  | cons x rest ih =>
    obtain ⟨r, fails⟩ := x
    -- a refused request or a held level leaves the output's level, so the rest
    -- of the run goes on from the same level
    have hkeep : ∀ o' : Pwm, o'.level = o.level → o'.line.duty = o.line.duty →
        (o'.serve rest).1.level = (written o.level rest).getLastD o.level ∧
          (o'.serve rest).2 = (written o.level rest).map o.line.duty := by
      intro o' hl hd
      rw [← hl, ← hd]
      exact ih o'
    simp only [serve, written, request_eq, withFailing_level, withFailing_failing]
    cases hv : r.level? with
    | none => exact hkeep (o.withFailing fails) rfl rfl
    | some v =>
      by_cases hsame : v = o.level
      · simpa [hsame] using hkeep (o.withFailing fails) rfl rfl
      · cases fails with
        | true => simpa [hsame] using hkeep (o.withFailing true) rfl rfl
        | false =>
          obtain ⟨hl, hw⟩ := ih { o.withFailing false with level := v }
          simp only [hsame, if_false, Bool.false_eq_true, ne_eq, not_false_eq_true, and_self, if_true,
            List.getLastD_cons, List.map_cons, Option.toList_some, List.singleton_append]
          exact ⟨hl, by rw [hw]; rfl⟩

theorem written_sublist (l : UInt8) (reqs : List (Request × Bool)) :
    (written l reqs).Sublist (reqs.filterMap (·.1.level?)) := by
  induction reqs generalizing l with
  | nil => exact List.Sublist.slnil
  | cons x rest ih =>
    obtain ⟨r, fails⟩ := x
    cases hv : r.level? with
    | none => simpa [written, hv] using ih l
    | some v =>
      simp only [written, List.filterMap_cons, hv]
      split
      · exact (ih v).cons_cons v
      · exact (ih l).cons v

/-- An output writes only what changes its level. Each request: a number outside
0..=255 is refused with that number and nothing is tried; a level already held
is not written; any other level is written once, with the duty
`level * maxDuty / 255`, and becomes the output's level exactly when the write
succeeds, the output being kept as it was otherwise. Over any run of requests on
a new output, whichever writes fail, the output holds the last level written, or
0, and the line sees exactly the duties of the levels written: the requests in
range that differed from the level held at their time, on a line that did not
fail, in the order they came. -/
theorem redundant_writes_suppressed (line : PwmLine) (reqs : List (Request × Bool)) :
    (∀ (o : Pwm) (r : Request), o.request r = match r.level? with
      | none => .error (.outOfRange r.value)
      | some v =>
        if v = o.level then .ok (o, none)
        else if o.line.failing then .error .writeFailed
        else .ok ({ o with level := v }, some (o.line.duty v))) ∧
    (({ line } : Pwm).serve reqs).1.level = (written 0 reqs).getLastD 0 ∧
    (({ line } : Pwm).serve reqs).2 = (written 0 reqs).map line.duty ∧
    (written 0 reqs).Sublist (reqs.filterMap (·.1.level?)) :=
  ⟨request_eq, (serve_written { line } reqs).1, (serve_written { line } reqs).2, written_sublist 0 reqs⟩

theorem setLevel_ok {o p : Pwm} {v : Int} {w : Option Nat} (h : o.setLevel v = .ok (p, w)) :
    p = { o with level := v.toNat.toUInt8 } := by
  unfold setLevel at h
  split at h
  · unfold set at h
    split at h
    · rename_i hsame
      cases h
      rw [hsame]
    · split at h
      · cases h
      · cases h
        rfl
  · cases h

def takes (o : Pwm) (v : Int) : Bool := (o.setLevel v).toBool

theorem takes_of_ok {o p : Pwm} {v : Int} {w : Option Nat} (h : o.setLevel v = .ok (p, w)) :
    o.takes v = true := by
  simp [takes, h, Except.toBool]

theorem taken {o p : Pwm} {v : Int} {w : Option Nat} (h : o.setLevel v = .ok (p, w)) :
    o.takes v = true ∧ p = { o with level := v.toNat.toUInt8 } :=
  ⟨takes_of_ok h, setLevel_ok h⟩

theorem not_takes_of_error {o : Pwm} {v : Int} {e : OutputError} (h : o.setLevel v = .error e) :
    o.takes v = false := by
  simp [takes, h, Except.toBool]

end Pwm

namespace RgbwOut

def asked (r g b w : Int) : Fin 4 → Int
  | 0 => r
  | 1 => g
  | 2 => b
  | 3 => w

/-- The group gives up at the first channel that refuses: a channel takes its
level exactly when it and every channel before it, in the order red, green,
blue, white, take theirs, and otherwise keeps its output as it was; the group
reports no error exactly when all four take their levels. -/
theorem setLevels_stops_at_first_refusal (o : RgbwOut) (r g b w : Int) :
    (∀ k, (o.setLevels r g b w).state.get k =
      if ∀ j ≤ k, (o.get j).takes (asked r g b w j) then { o.get k with level := (asked r g b w k).toNat.toUInt8 }
      else o.get k) ∧
    ((o.setLevels r g b w).error = none ↔ ∀ k, (o.get k).takes (asked r g b w k)) := by
  -- one case per channel that refuses first, or none; in each the four
  -- channels and the bounded quantifiers are evaluated
  simp only [setLevels, run, get, put]
  split
  · rename_i e₀ h₀
    have t₀ := Pwm.not_takes_of_error h₀
    simp [Fin.forall_fin_succ, asked, t₀]
  · rename_i p₀ w₀ h₀
    obtain ⟨t₀, rfl⟩ := Pwm.taken h₀
    split
    · rename_i e₁ h₁
      have t₁ := Pwm.not_takes_of_error h₁
      simp [Fin.forall_fin_succ, asked, t₀, t₁]
    · rename_i p₁ w₁ h₁
      obtain ⟨t₁, rfl⟩ := Pwm.taken h₁
      split
      · rename_i e₂ h₂
        have t₂ := Pwm.not_takes_of_error h₂
        simp [Fin.forall_fin_succ, asked, t₀, t₁, t₂]
      · rename_i p₂ w₂ h₂
        obtain ⟨t₂, rfl⟩ := Pwm.taken h₂
        split
        · rename_i e₃ h₃
          have t₃ := Pwm.not_takes_of_error h₃
          simp [Fin.forall_fin_succ, asked, t₀, t₁, t₂, t₃]
        · rename_i p₃ w₃ h₃
          obtain ⟨t₃, rfl⟩ := Pwm.taken h₃
          simp [Fin.forall_fin_succ, asked, t₀, t₁, t₂, t₃]

end RgbwOut

end GalaxyProjector
