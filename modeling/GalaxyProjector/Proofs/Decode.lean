import Mathlib
import GalaxyProjector.Proofs.Refinement
import GalaxyProjector.Wire.Serde

/-! Decoded commands against the bank's domain. The decoder and the bank check a
command each on their own: the decoder refuses Power's custom value and levels
above 255, the bank refuses a channel without a custom state and a value of the
wrong kind. Every command the decoder or a switch can produce lies inside what
the bank takes, so on a reachable projector it is always carried out. A custom
value comes back to clients exactly as it was sent: a packed colour unpacks and
packs to the same word, and a level up to 255 survives its byte. -/

namespace GalaxyProjector

/-- The commands a bank takes in every state: any advance or refresh, and a
custom value of the kind its channel holds. -/
def Command.fits : Command → Bool
  | .advance _ => true
  | .refresh => true
  | .custom .brightness (.level _) => true
  | .custom .colour (.colour _) => true
  | .custom .motor (.level _) => true
  | .custom _ _ => false

theorem Logic.apply_fits (a : Logic) {cmd : Command} (h : cmd.fits) : ∃ a', a.apply cmd = .ok a' := by
  match cmd, h with
  | .advance _, _ => exact ⟨_, rfl⟩
  | .refresh, _ => exact ⟨_, rfl⟩
  | .custom .brightness (.level _), _ => exact ⟨_, rfl⟩
  | .custom .colour (.colour _), _ => exact ⟨_, rfl⟩
  | .custom .motor (.level _), _ => exact ⟨_, rfl⟩

theorem Refines.apply_fits {p : Projector} {a : Logic} (h : Refines p a) {cmd : Command} (hc : cmd.fits) :
    ∃ p' fired, p.apply cmd = .ok (p', fired) := by
  obtain ⟨a', ha⟩ := a.apply_fits hc
  obtain ⟨p', fired, hp, -⟩ := h.apply_ok ha
  exact ⟨p', fired, hp⟩

/-! ### Packed values -/

theorem or_bytes {R G B W : Nat} (hG : G < 2 ^ 8) (hB : B < 2 ^ 8) (hW : W < 2 ^ 8) :
    R <<< 24 ||| G <<< 16 ||| B <<< 8 ||| W = R * 2 ^ 24 + G * 2 ^ 16 + B * 2 ^ 8 + W := by
  -- each `|||` joins a shifted part with one below its lowest bit, so it adds
  have h1 : R * 2 ^ 8 + G = R <<< 8 ||| G := by
    rw [← Nat.shiftLeft_add_eq_or_of_lt hG, Nat.shiftLeft_eq]
  have h2 : (R * 2 ^ 8 + G) * 2 ^ 8 + B = (R * 2 ^ 8 + G) <<< 8 ||| B := by
    rw [← Nat.shiftLeft_add_eq_or_of_lt hB, Nat.shiftLeft_eq]
  have h3 : ((R * 2 ^ 8 + G) * 2 ^ 8 + B) * 2 ^ 8 + W = ((R * 2 ^ 8 + G) * 2 ^ 8 + B) <<< 8 ||| W := by
    rw [← Nat.shiftLeft_add_eq_or_of_lt hW, Nat.shiftLeft_eq]
  calc R <<< 24 ||| G <<< 16 ||| B <<< 8 ||| W
      = ((R <<< 8 ||| G) <<< 8 ||| B) <<< 8 ||| W := by
        simp only [Nat.shiftLeft_or_distrib, ← Nat.shiftLeft_add]
    _ = ((R * 2 ^ 8 + G) * 2 ^ 8 + B) * 2 ^ 8 + W := by rw [h3, h2, h1]
    _ = R * 2 ^ 24 + G * 2 ^ 16 + B * 2 ^ 8 + W := by
        simp only [Nat.add_mul, Nat.mul_assoc, ← Nat.pow_add]

theorem shiftLeft_byte_lt {v : Nat} (k : Nat) (hv : v < 2 ^ 8) (hk : k ≤ 24) : v <<< k % 2 ^ 32 = v <<< k := by
  rw [Nat.shiftLeft_eq]
  apply Nat.mod_eq_of_lt
  calc v * 2 ^ k < 2 ^ 8 * 2 ^ k := Nat.mul_lt_mul_of_pos_right hv (Nat.two_pow_pos k)
    _ = 2 ^ (8 + k) := (Nat.pow_add 2 8 k).symm
    _ ≤ 2 ^ 32 := Nat.pow_le_pow_right (by decide) (by omega)

attribute [ext] Rgbw

namespace Rgbw

theorem packed_toNat (c : Rgbw) :
    c.packed.toNat = c.r.toNat * 2 ^ 24 + c.g.toNat * 2 ^ 16 + c.b.toNat * 2 ^ 8 + c.w.toNat := by
  have hr := c.r.toNat_lt
  have hg := c.g.toNat_lt
  have hb := c.b.toNat_lt
  have hw := c.w.toNat_lt
  simp only [packed, UInt32.toNat_or, UInt32.toNat_shiftLeft, UInt8.toNat_toUInt32, UInt32.reduceToNat,
    Nat.reduceMod]
  rw [shiftLeft_byte_lt 24 hr (by decide), shiftLeft_byte_lt 16 hg (by decide),
    shiftLeft_byte_lt 8 hb (by decide), or_bytes hg hb hw]

theorem ofPacked_toNat (x : UInt32) :
    (ofPacked x).r.toNat = x.toNat / 2 ^ 24 % 2 ^ 8 ∧ (ofPacked x).g.toNat = x.toNat / 2 ^ 16 % 2 ^ 8 ∧
      (ofPacked x).b.toNat = x.toNat / 2 ^ 8 % 2 ^ 8 ∧ (ofPacked x).w.toNat = x.toNat % 2 ^ 8 := by
  simp [ofPacked, Nat.shiftRight_eq_div_pow]

theorem packed_ofPacked (x : UInt32) : (ofPacked x).packed = x := by
  apply UInt32.toNat_inj.mp
  obtain ⟨hr, hg, hb, hw⟩ := ofPacked_toNat x
  have hx := x.toNat_lt
  rw [packed_toNat, hr, hg, hb, hw]
  omega

theorem ofPacked_packed (c : Rgbw) : ofPacked c.packed = c := by
  obtain ⟨hr, hg, hb, hw⟩ := ofPacked_toNat c.packed
  have hp := packed_toNat c
  have := c.r.toNat_lt
  have := c.g.toNat_lt
  have := c.b.toNat_lt
  have := c.w.toNat_lt
  apply Rgbw.ext <;> apply UInt8.toNat_inj.mp <;> omega

end Rgbw

theorem CustomValue.packed_level_toUInt8 {x : UInt32} (h : x ≤ 255) : (CustomValue.level x.toUInt8).packed = x := by
  apply UInt32.toNat_inj.mp
  have : x.toNat ≤ 255 := h
  simp only [CustomValue.packed, UInt8.toNat_toUInt32, UInt32.toNat_toUInt8]
  omega

theorem CustomValue.packed_level_byte (l : UInt8) : (CustomValue.level l).packed.toUInt8 = l := by
  apply UInt8.toNat_inj.mp
  have := l.toNat_lt
  simp only [CustomValue.packed, UInt32.toNat_toUInt8, UInt8.toNat_toUInt32]
  omega

/-! ### What the decoder produces -/

namespace Command

theorem ofEnvelope_fits {id : ChannelId} {mode : UInt8} {value : Option UInt32} {cmd : Command}
    (h : ofEnvelope id mode value = .ok cmd) : cmd.fits := by
  unfold ofEnvelope at h
  split at h
  · cases h; rfl
  · split at h
    · match value, id, h with
      | some v, .colour, h => cases h; rfl
      | some v, .brightness, h =>
        simp only at h
        split at h <;> cases h
        rfl
      | some v, .motor, h =>
        simp only at h
        split at h <;> cases h
        rfl
    · cases h

/-- A custom envelope with a value gives that channel a value that packs back to
it, and one the bank takes. -/
theorem ofEnvelope_custom_ok {id : ChannelId} {v : UInt32} {cmd : Command}
    (h : ofEnvelope id 1 (some v) = .ok cmd) :
    ∃ val, cmd = .custom id val ∧ val.packed = v ∧ (Command.custom id val).fits := by
  cases id with
  | power => simp [ofEnvelope] at h
  | colour =>
    simp [ofEnvelope] at h
    exact ⟨_, h.symm, Rgbw.packed_ofPacked v, rfl⟩
  | brightness | motor =>
    simp [ofEnvelope] at h
    split at h
    · rename_i hv
      cases h
      exact ⟨_, rfl, CustomValue.packed_level_toUInt8 hv, rfl⟩
    · cases h

theorem ofEnvelope_custom_accepts (id : ChannelId) (v : UInt32) :
    (∃ cmd, ofEnvelope id 1 (some v) = .ok cmd) ↔
      id = .colour ∨ (id = .brightness ∨ id = .motor) ∧ v ≤ 255 := by
  cases id with
  | power | colour => simp [ofEnvelope]
  | brightness | motor => by_cases hv : v ≤ 255 <;> simp [ofEnvelope, hv]

theorem ofEnvelope_custom_power (v : UInt32) : ofEnvelope .power 1 (some v) = .error .noCustomState := by
  simp [ofEnvelope]

theorem ofEnvelope_level_out_of_range {id : ChannelId} (hid : id = .brightness ∨ id = .motor) {v : UInt32}
    (hv : 255 < v) : ofEnvelope id 1 (some v) = .error (.outOfRange v) := by
  have : ¬ v ≤ 255 := UInt32.not_le.mpr hv
  rcases hid with rfl | rfl <;> simp [ofEnvelope, this]

theorem ofWord_fits {text : String} {cmd : Command} (h : ofWord text = .ok cmd) : cmd.fits := by
  unfold ofWord at h
  split at h
  · cases h; rfl
  · unfold ChannelId.parse at h
    split at h <;> cases h
    rfl

end Command

theorem Wire.decode_fits {json : Wire.Codec} {text : String} {cmd : Command}
    (h : Wire.decode json text = .ok cmd) : cmd.fits := by
  simp only [decode] at h
  split at h
  · unfold envelopeCommand at h
    split at h
    · exact Command.ofEnvelope_fits h
    · cases h
  · exact Command.ofWord_fits h

/-- Every command a client's message decodes to, whatever envelope the JSON
library reads from it, and every advance a switch sends, is carried out by
every projector reachable by commands and frames. -/
theorem decoded_commands_apply (json : Wire.Codec) (lines : List PwmLine) (hooked : Bool) (ops : List Op)
    (p : Projector) (h : (Projector.new (Rig.ofLines lines) hooked).run ops = .ok p) (cmd : Command)
    (hcmd : (∃ text, Wire.decode json text = .ok cmd) ∨ ∃ id, cmd = .advance id) :
    ∃ p' fired, p.apply cmd = .ok (p', fired) := by
  have hr := (refines_new lines hooked).run ops h
  apply hr.apply_fits
  rcases hcmd with ⟨text, ht⟩ | ⟨id, rfl⟩
  · exact Wire.decode_fits ht
  · rfl

theorem decoded_commands_apply_colour_envelope :
    let ops := [Op.apply (.advance .power), .render 0]
    let cmd := Command.custom .colour (.colour (Rgbw.ofPacked 4278190335))
    ∃ p, (Projector.new (Rig.ofLines []) true).run ops = .ok p ∧
      ((∃ text, Wire.decode Serde.codec text = .ok cmd) ∨ ∃ id, cmd = .advance id) ∧
      ∃ p' fired, p.apply cmd = .ok (p', fired) := by
  intro ops cmd
  let text := "\x7b\"id\":\"Colour\",\"mode\":1,\"value\":4278190335\x7d"
  have htrim : Text.trimWhite text = text := by decide
  have hbrace : text.startsWith "\x7b" = true := by decide +kernel
  have hread : Serde.codec.readEnvelope text = some ⟨.colour, 1, some 4278190335⟩ := by decide
  have hdec : Wire.decode Serde.codec text = .ok cmd := by
    simp only [Wire.decode, htrim, hbrace, if_true, Wire.envelopeCommand, hread]
    rfl
  obtain ⟨p, hp⟩ : ∃ p, (Projector.new (Rig.ofLines []) true).run ops = .ok p := ⟨_, rfl⟩
  exact ⟨p, hp, .inl ⟨text, hdec⟩,
    decoded_commands_apply Serde.codec [] true ops p hp cmd (.inl ⟨text, hdec⟩)⟩

theorem Logic.apply_custom_view {a a' : Logic} {id : ChannelId} {val : CustomValue}
    (h : a.apply (.custom id val) = .ok a') : a'.view id = { custom := true, value := some val.packed } := by
  cases id <;> cases val <;> simp [Logic.apply] at h <;> subst h <;>
    simp [Logic.view, Logic.enter, Logic.payload]

/-- An accepted custom envelope is carried out by every projector that stands for
a logical state, and its channel then shows custom mode with exactly the value
sent. -/
theorem Refines.custom_envelope {p : Projector} {a : Logic} (h : Refines p a) {id : ChannelId} {v : UInt32}
    {cmd : Command} (hcmd : Command.ofEnvelope id 1 (some v) = .ok cmd) :
    ∃ p' fired, p.apply cmd = .ok (p', fired) ∧ p'.snapshot.channel id = { custom := true, value := some v } := by
  obtain ⟨val, rfl, hval, hfits⟩ := Command.ofEnvelope_custom_ok hcmd
  obtain ⟨a', ha⟩ := a.apply_fits hfits
  obtain ⟨p', fired, hp, hr⟩ := h.apply_ok ha
  refine ⟨p', fired, hp, ?_⟩
  rw [hr.snapshot, Logic.snapshot, Snapshot.channel_ofViews, Logic.apply_custom_view ha, hval]

/-- A custom value round-trips from a client's envelope to every client's
snapshot. An envelope in custom mode is accepted exactly for a colour, or for a
level of Brightness or Motor up to 255; Power's is refused for want of a custom
state and a larger level as out of range. An accepted one is carried out by
every projector reachable by commands and frames, and its channel then shows
custom mode with the very value sent. Packing and unpacking a colour are
inverse on every word and every colour, and a level's byte is inverse on
0..=255. -/
theorem custom_value_round_trip :
    (∀ id v, ((∃ cmd, Command.ofEnvelope id 1 (some v) = .ok cmd) ↔
        id = .colour ∨ (id = .brightness ∨ id = .motor) ∧ v ≤ 255) ∧
      (id = .power → Command.ofEnvelope id 1 (some v) = .error .noCustomState) ∧
      ((id = .brightness ∨ id = .motor) → 255 < v →
        Command.ofEnvelope id 1 (some v) = .error (.outOfRange v)) ∧
      ∀ cmd, Command.ofEnvelope id 1 (some v) = .ok cmd →
        ∀ lines hooked ops p, (Projector.new (Rig.ofLines lines) hooked).run ops = .ok p →
          ∃ p' fired, p.apply cmd = .ok (p', fired) ∧
            p'.snapshot.channel id = { custom := true, index := none, value := some v }) ∧
    (∀ x : UInt32, (Rgbw.ofPacked x).packed = x) ∧ (∀ c : Rgbw, Rgbw.ofPacked c.packed = c) ∧
    (∀ x : UInt32, x ≤ 255 → (CustomValue.level x.toUInt8).packed = x) ∧
    ∀ l : UInt8, (CustomValue.level l).packed.toUInt8 = l := by
  refine ⟨fun id v => ⟨Command.ofEnvelope_custom_accepts id v, ?_, ?_, ?_⟩, Rgbw.packed_ofPacked,
    Rgbw.ofPacked_packed, fun _ hx => CustomValue.packed_level_toUInt8 hx, CustomValue.packed_level_byte⟩
  · rintro rfl
    exact Command.ofEnvelope_custom_power v
  · exact fun hid hv => Command.ofEnvelope_level_out_of_range hid hv
  · intro cmd hcmd lines hooked ops p hp
    exact ((refines_new lines hooked).run ops hp).custom_envelope hcmd

end GalaxyProjector
