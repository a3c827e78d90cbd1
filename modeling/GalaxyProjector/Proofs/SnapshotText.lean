import GalaxyProjector.Wire.Serde

/-! A snapshot's JSON text fits its buffer and is faithful, whatever JSON
library writes it, as long as the library writes compactly
(`Wire.Json.Compact`). Such a library writes a snapshot as the object of the
four channels in the order Power, Brightness, Colour, Motor, each the object
of `custom`, then `index` and `value` when they are present, with no blanks.
The longest such text, every channel out of custom mode at index 255 with the
value 4294967295, has 231 bytes, so the buffer of 256 always holds it and no
snapshot is ever dropped for want of room. Read as JSON, the text gives back
the snapshot's value; a client that looks up its fields gets the snapshot
back, so two snapshots never share a text. -/

namespace GalaxyProjector

namespace Wire

/-! ### Blanks and decimal numerals -/

theorem skipBlanks_cons {c : Char} (hc : isBlank c = false) (r : List Char) :
    skipBlanks (c :: r) = c :: r := by
  simp [skipBlanks, hc]

theorem isBlank_of_isDigit {c : Char} (hc : c.isDigit = true) : isBlank c = false := by
  simp only [Char.isDigit, Bool.and_eq_true, decide_eq_true_eq] at hc
  have h1 : ' '.val < c.val := Nat.lt_of_lt_of_le (by decide) hc.1
  simp only [isBlank, Bool.or_eq_false_iff, beq_eq_false_iff_ne, ne_eq]
  refine ⟨⟨⟨?_, ?_⟩, ?_⟩, ?_⟩ <;> rintro rfl <;> revert h1 <;> decide

theorem toDigits_head (n : Nat) (hn : 0 < n) : ∃ c ds, Nat.toDigits 10 n = c :: ds ∧ c ≠ '0' := by
  induction n using Nat.strongRecOn with
  | ind n ih =>
    rw [Nat.toDigits_eq_if (by decide)]
    split
    · exact ⟨_, [], rfl, by simp; omega⟩
    · obtain ⟨c, ds, hds, hc⟩ := ih (n / 10) (by omega) (by omega)
      exact ⟨c, ds ++ [(n % 10).digitChar], by rw [hds]; rfl, hc⟩

theorem digitsValue_toDigits (n : Nat) : digitsValue (Nat.toDigits 10 n) = n :=
  Nat.ofDigitChars_ten_toDigits

theorem isDigit_of_mem_toDigits {n : Nat} {c : Char} (hc : c ∈ Nat.toDigits 10 n) : c.isDigit = true :=
  Nat.isDigit_of_mem_toDigits (by decide) (by decide) hc

theorem digits_split {ds r : List Char} (hds : ∀ d ∈ ds, d.isDigit = true)
    (hr : ∀ c ∈ r.head?, c.isDigit = false) :
    (ds ++ r).takeWhile Char.isDigit = ds ∧ (ds ++ r).dropWhile Char.isDigit = r := by
  rw [List.takeWhile_append_of_pos hds, List.dropWhile_append_of_pos hds]
  cases r with
  | nil => simp
  | cons d r => simp [hr d rfl]

namespace Json

/-! ### Reading JSON text -/

def chars : List Char → Option (List Char × List Char)
  | [] => none
  | c :: r =>
    if c = '"' then some ([], r)
    else if c = '\\' then none
    else (chars r).map fun (s, r') => (c :: s, r')

def number (c : Char) (r : List Char) : Json × List Char :=
  if c = '0' then (.num 0, r)
  else (.num (digitsValue (c :: r.takeWhile Char.isDigit)), r.dropWhile Char.isDigit)

mutual

def read : Nat → List Char → Option (Json × List Char)
  | 0, _ => none
  | fuel + 1, cs =>
    match skipBlanks cs with
    | [] => none
    | c :: r =>
      if c.isDigit then some (number c r)
      else match c, r with
        | 'n', 'u' :: 'l' :: 'l' :: r => some (.null, r)
        | 't', 'r' :: 'u' :: 'e' :: r => some (.bool true, r)
        | 'f', 'a' :: 'l' :: 's' :: 'e' :: r => some (.bool false, r)
        | '"', r => (chars r).map fun (s, r) => (.str (String.ofList s), r)
        | '[', r =>
          match skipBlanks r with
          | ']' :: r => some (.arr [], r)
          | _ => do
            let (v, r) ← read fuel r
            let (vs, r) ← items fuel r
            return (.arr (v :: vs), r)
        | '{', r =>
          match skipBlanks r with
          | '}' :: r => some (.obj [], r)
          | _ => do
            let (m, r) ← member fuel r
            let (ms, r) ← members fuel r
            return (.obj (m :: ms), r)
        | _, _ => none

def items : Nat → List Char → Option (List Json × List Char)
  | 0, _ => none
  | fuel + 1, cs =>
    match skipBlanks cs with
    | ']' :: r => some ([], r)
    | ',' :: r => do
      let (v, r) ← read fuel r
      let (vs, r) ← items fuel r
      return (v :: vs, r)
    | _ => none

def member : Nat → List Char → Option ((String × Json) × List Char)
  | 0, _ => none
  | fuel + 1, cs =>
    match skipBlanks cs with
    | '"' :: r => do
      let (k, r) ← chars r
      let r ← colon r
      let (v, r) ← read fuel r
      return ((String.ofList k, v), r)
    | _ => none

def members : Nat → List Char → Option (List (String × Json) × List Char)
  | 0, _ => none
  | fuel + 1, cs =>
    match skipBlanks cs with
    | '}' :: r => some ([], r)
    | ',' :: r => do
      let (m, r) ← member fuel r
      let (ms, r) ← members fuel r
      return (m :: ms, r)
    | _ => none

end

/-- Read a JSON text whose numbers are natural and whose strings hold no
escape: one value, with nothing but blanks around it. -/
def parse (text : String) : Option Json :=
  match read (text.length + 1) text.toList with
  | some (v, r) => if (skipBlanks r).isEmpty then some v else none
  | none => none

/-! ### Reading what a snapshot's text is made of -/

def Stops (rest : List Char) : Prop := ∀ c ∈ rest.head?, c.isDigit = false

/-- The text `t` reads as `v` given fuel `n` or more, whatever follows it. -/
def Reads (t : List Char) (v : Json) (n : Nat) : Prop :=
  ∀ fuel, n ≤ fuel → ∀ rest, Stops rest → read fuel (t ++ rest) = some (v, rest)

theorem chars_plain {k : List Char} (hk : ∀ c ∈ k, c ≠ '"' ∧ c ≠ '\\') (rest : List Char) :
    chars (k ++ '"' :: rest) = some (k, rest) := by
  induction k with
  | nil => simp [chars]
  | cons c k ih =>
    obtain ⟨hq, hb⟩ := hk c List.mem_cons_self
    simp [chars, hq, hb, ih fun d hd => hk d (List.mem_cons_of_mem _ hd)]

theorem reads_num (n : Nat) : Reads (Nat.toDigits 10 n) (.num n) 1 := by
  intro fuel hfuel rest hrest
  obtain ⟨fuel, rfl⟩ : ∃ f, fuel = f + 1 := ⟨fuel - 1, by omega⟩
  rcases Nat.eq_zero_or_pos n with rfl | hn
  · simp [read, skipBlanks, isBlank, number, Nat.toDigits_zero]
  · obtain ⟨c, ds, hds, hc⟩ := toDigits_head n hn
    have hcd : c.isDigit = true := isDigit_of_mem_toDigits (n := n) (by simp [hds])
    have hdsd : ∀ d ∈ ds, d.isDigit = true := fun d hd =>
      isDigit_of_mem_toDigits (n := n) (by simp [hds, hd])
    -- the digits run exactly to the end of the number
    obtain ⟨htake, hdrop⟩ := digits_split hdsd hrest
    rw [hds, List.cons_append, read, skipBlanks_cons (isBlank_of_isDigit hcd)]
    simp only [hcd, if_true, number, hc, if_false, htake, hdrop, ← hds, digitsValue_toDigits]

theorem reads_bool (b : Bool) : Reads (if b then "true" else "false").toList (.bool b) 1 := by
  intro fuel hfuel rest _
  obtain ⟨fuel, rfl⟩ : ∃ f, fuel = f + 1 := ⟨fuel - 1, by omega⟩
  cases b <;> simp [read, skipBlanks, isBlank]

theorem Reads.mono {t : List Char} {v : Json} {n m : Nat} (h : Reads t v n) (hnm : n ≤ m) : Reads t v m :=
  fun fuel hfuel => h fuel (Nat.le_trans hnm hfuel)

def memberChars (k : String) (t : List Char) : List Char := '"' :: k.toList ++ '"' :: ':' :: t

def tailChars : List (String × List Char × Json) → List Char
  | [] => ['}']
  | (k, t, _) :: ms => ',' :: memberChars k t ++ tailChars ms

def objChars : List (String × List Char × Json) → List Char
  | [] => ['{', '}']
  | (k, t, _) :: ms => '{' :: memberChars k t ++ tailChars ms

theorem member_reads {k : String} {t : List Char} {v : Json} {n : Nat} (hk : Plain k) (hv : Reads t v n)
    (fuel : Nat) (hfuel : n + 1 ≤ fuel) (rest : List Char) (hrest : Stops rest) :
    member fuel (memberChars k t ++ rest) = some ((k, v), rest) := by
  obtain ⟨fuel, rfl⟩ : ∃ f, fuel = f + 1 := ⟨fuel - 1, by omega⟩
  have hread := hv fuel (by omega) rest hrest
  have hchars := chars_plain (fun c hc => ⟨(hk c hc).1, (hk c hc).2.1⟩) (':' :: (t ++ rest))
  simp [member, memberChars, skipBlanks, isBlank, colon, hchars, hread]

theorem tailChars_stops (ms : List (String × List Char × Json)) (rest : List Char) :
    Stops (tailChars ms ++ rest) := by
  cases ms with
  | nil => simp [Stops, tailChars]
  | cons y ms => simp [Stops, tailChars]

theorem members_reads {n : Nat} (ms : List (String × List Char × Json))
    (h : ∀ x ∈ ms, Plain x.1 ∧ Reads x.2.1 x.2.2 n) (fuel : Nat) (hfuel : n + 2 + ms.length ≤ fuel)
    (rest : List Char) :
    members fuel (tailChars ms ++ rest) = some (ms.map fun x => (x.1, x.2.2), rest) := by
  induction ms generalizing fuel with
  | nil =>
    obtain ⟨fuel, rfl⟩ : ∃ f, fuel = f + 1 := ⟨fuel - 1, by omega⟩
    simp [members, tailChars, skipBlanks, isBlank]
  | cons x ms ih =>
    obtain ⟨k, t, v⟩ := x
    obtain ⟨fuel, rfl⟩ : ∃ f, fuel = f + 1 := ⟨fuel - 1, by simp at hfuel; omega⟩
    obtain ⟨hk, hv⟩ := h (k, t, v) (by simp)
    -- the member's value is followed by the comma or brace of what comes next
    have hmem := member_reads hk hv fuel (by simp at hfuel; omega) (tailChars ms ++ rest)
      (tailChars_stops ms rest)
    have hrest := ih (fun y hy => h y (by simp [hy])) fuel (by simp at hfuel; omega)
    simp only [tailChars, List.cons_append, List.append_assoc] at hmem ⊢
    simp [members, skipBlanks, isBlank, hmem, hrest]

/-- An object as written reads as the object of its members. -/
theorem reads_obj {n : Nat} (m : String × List Char × Json) (ms : List (String × List Char × Json))
    (h : ∀ x ∈ m :: ms, Plain x.1 ∧ Reads x.2.1 x.2.2 n) :
    Reads (objChars (m :: ms)) (.obj ((m :: ms).map fun x => (x.1, x.2.2))) (n + 3 + ms.length) := by
  intro fuel hfuel rest _
  obtain ⟨k, t, v⟩ := m
  obtain ⟨fuel, rfl⟩ : ∃ f, fuel = f + 1 := ⟨fuel - 1, by omega⟩
  obtain ⟨hk, hv⟩ := h (k, t, v) (by simp)
  have hmem := member_reads hk hv fuel (by omega) (tailChars ms ++ rest) (tailChars_stops ms rest)
  have hrest := members_reads ms (fun y hy => h y (by simp [hy])) fuel (by omega) rest
  simp only [objChars, memberChars, List.cons_append, List.append_assoc] at hmem ⊢
  simp [read, skipBlanks, isBlank, hmem, hrest]

/-! ### A client's reading of a value -/

def asBool : Json → Option Bool
  | .bool b => some b
  | .null | .num _ | .str _ | .arr _ | .obj _ => none

def asNatBelow (bound : Nat) : Json → Option Nat
  | .num n => if n < bound then some n else none
  | .null | .bool _ | .str _ | .arr _ | .obj _ => none

def optional {α : Type} (read : Json → Option α) : Option Json → Option (Option α)
  | none => some none
  | some v => (read v).map some

end Json

end Wire

def ChannelView.ofJson : Wire.Json → Option ChannelView
  | .obj ms => do
    let custom ← (ms.lookup "custom").bind Wire.Json.asBool
    let index ← Wire.Json.optional (fun v => (Wire.Json.asNatBelow UInt8.size v).map Nat.toUInt8)
      (ms.lookup "index")
    let value ← Wire.Json.optional (fun v => (Wire.Json.asNatBelow UInt32.size v).map Nat.toUInt32)
      (ms.lookup "value")
    return { custom, index, value }
  | .null | .bool _ | .num _ | .str _ | .arr _ => none

/-- A client's reading of a snapshot: each channel looked up by its name. -/
def Snapshot.ofJson : Wire.Json → Option Snapshot
  | .obj ms => do
    let view (id : ChannelId) : Option ChannelView := (ms.lookup id.name).bind ChannelView.ofJson
    return ⟨← view .power, ← view .brightness, ← view .colour, ← view .motor⟩
  | .null | .bool _ | .num _ | .str _ | .arr _ => none

theorem ChannelView.ofJson_json (v : ChannelView) : ChannelView.ofJson v.json = some v := by
  obtain ⟨custom, index, value⟩ := v
  cases index <;> cases value <;>
    simp [json, ofJson, List.lookup_cons, Wire.Json.asBool, Wire.Json.optional, Wire.Json.asNatBelow,
      UInt8.toNat_lt_size, UInt32.toNat_lt_size]

theorem Snapshot.ofJson_json (s : Snapshot) : Snapshot.ofJson s.json = some s := by
  simp [json, ofJson, List.lookup_cons, ChannelId.all, ChannelId.name, channel, ChannelView.ofJson_json]

/-! ### The text a compact library writes -/

def ChannelView.text (v : ChannelView) : String :=
  let index := match v.index with
    | some i => ",\"index\":" ++ toString i.toNat
    | none => ""
  let value := match v.value with
    | some x => ",\"value\":" ++ toString x.toNat
    | none => ""
  "\x7b\"custom\":" ++ (if v.custom then "true" else "false") ++ index ++ value ++ "\x7d"

/-- A snapshot's text: the channels' texts under their names, in the order
Power, Brightness, Colour, Motor. -/
def Snapshot.text (s : Snapshot) : String :=
  "\x7b\"Power\":" ++ s.power.text ++ ",\"Brightness\":" ++ s.brightness.text ++
    ",\"Colour\":" ++ s.colour.text ++ ",\"Motor\":" ++ s.motor.text ++ "\x7d"

-- Unfolding by `rfl`: the equation lemma Lean would generate for these string
-- appends takes seconds to build.
theorem Snapshot.text_eq (s : Snapshot) : s.text =
    "\x7b\"Power\":" ++ s.power.text ++ ",\"Brightness\":" ++ s.brightness.text ++
      ",\"Colour\":" ++ s.colour.text ++ ",\"Motor\":" ++ s.motor.text ++ "\x7d" :=
  rfl

theorem ChannelId.name_plain (id : ChannelId) : Wire.Json.Plain id.name := by
  cases id <;> decide

namespace Wire.Json.Compact

variable {write : Json → String}

theorem write_view (hc : Compact write) (v : ChannelView) : write v.json = v.text := by
  obtain ⟨custom, index, value⟩ := v
  rw [← String.toList_inj]
  cases index <;> cases value <;>
    simp (disch := simp only [List.forall_mem_cons, List.forall_mem_nil]; decide) only [ChannelView.json, hc.obj,
      Option.map_some, Option.map_none, Option.toList_some, Option.toList_none, List.cons_append,
      List.nil_append] <;>
    simp [hc.bool, hc.num, ChannelView.text, memberText, String.intercalate_cons_cons]

theorem write_snapshot (hc : Compact write) (s : Snapshot) : write s.json = s.text := by
  rw [Snapshot.json, hc.obj _ fun m hm => by
    obtain ⟨id, -, rfl⟩ := List.mem_map.mp hm
    exact id.name_plain]
  simp only [ChannelId.all, List.map_cons, List.map_nil, Snapshot.channel, hc.write_view]
  rw [← String.toList_inj]
  simp [Snapshot.text_eq, ChannelId.name, memberText, String.intercalate_cons_cons]

end Wire.Json.Compact

/-! ### The text read as JSON -/

def ChannelView.written (v : ChannelView) : List (String × List Char × Wire.Json) :=
  ("custom", (if v.custom then "true" else "false").toList, .bool v.custom) ::
    ((v.index.map fun i => ("index", (toString i.toNat).toList, .num i.toNat)).toList ++
      (v.value.map fun x => ("value", (toString x.toNat).toList, .num x.toNat)).toList)

def Snapshot.written (s : Snapshot) : List (String × List Char × Wire.Json) :=
  ChannelId.all.map fun id => (id.name, (s.channel id).text.toList, (s.channel id).json)

theorem ChannelView.text_toList (v : ChannelView) : v.text.toList = Wire.Json.objChars v.written := by
  obtain ⟨custom, index, value⟩ := v
  cases index <;> cases value <;>
    simp [text, written, Wire.Json.objChars, Wire.Json.tailChars, Wire.Json.memberChars]

theorem Snapshot.text_toList (s : Snapshot) : s.text.toList = Wire.Json.objChars s.written := by
  simp [text_eq, written, ChannelId.all, ChannelId.name, channel, Wire.Json.objChars,
    Wire.Json.tailChars, Wire.Json.memberChars]

theorem ChannelView.json_eq (v : ChannelView) : v.json = .obj (v.written.map fun x => (x.1, x.2.2)) := by
  obtain ⟨custom, index, value⟩ := v
  cases index <;> cases value <;> simp [json, written]

theorem ChannelView.reads_text (v : ChannelView) : Wire.Json.Reads v.text.toList v.json 6 := by
  have hkeys : Wire.Json.Plain "custom" ∧ Wire.Json.Plain "index" ∧ Wire.Json.Plain "value" := by decide
  have hplain : ∀ x ∈ v.written, Wire.Json.Plain x.1 ∧ Wire.Json.Reads x.2.1 x.2.2 1 := by
    obtain ⟨custom, index, value⟩ := v
    cases index <;> cases value <;> simp [written, hkeys, Wire.Json.reads_bool, Wire.Json.reads_num]
  -- at most two members follow `custom`
  have hlen : v.written.length ≤ 3 := by
    obtain ⟨custom, index, value⟩ := v
    cases index <;> cases value <;> simp [written]
  rw [text_toList, json_eq]
  cases hw : v.written with
  | nil => simp [written] at hw
  | cons m ms =>
    rw [hw] at hplain hlen
    exact (Wire.Json.reads_obj m ms hplain).mono (by simp at hlen; omega)

theorem Snapshot.reads_text (s : Snapshot) : Wire.Json.Reads s.text.toList s.json 12 := by
  have h : ∀ x ∈ s.written, Wire.Json.Plain x.1 ∧ Wire.Json.Reads x.2.1 x.2.2 6 := by
    intro x hx
    obtain ⟨id, -, rfl⟩ := List.mem_map.mp hx
    exact ⟨id.name_plain, (s.channel id).reads_text⟩
  rw [text_toList]
  exact Wire.Json.reads_obj _ _ h

theorem Snapshot.parse_text (s : Snapshot) : Wire.Json.parse s.text = some s.json := by
  have hlen : 12 ≤ s.text.length + 1 := by
    have hkey : ",\"Brightness\":".length = 14 := by decide
    simp only [text_eq, String.length_append, hkey]
    omega
  have hread := s.reads_text _ hlen [] (by simp [Wire.Json.Stops])
  simp only [List.append_nil] at hread
  simp [Wire.Json.parse, hread, Wire.skipBlanks]

/-! ### The text's size in bytes -/

theorem toList_loop_length (bs : ByteArray) (i : Nat) (r : List UInt8) :
    (ByteArray.toList.loop bs i r).length = r.length + (bs.size - i) := by
  fun_induction ByteArray.toList.loop bs i r with
  | case1 i r h ih => rw [ih]; simp; omega
  | case2 i r h => simp; omega

theorem Utf8.length_encode (s : String) : (Utf8.encode s).length = s.utf8ByteSize := by
  simp [Utf8.encode, ByteArray.toList, toList_loop_length]

theorem utf8ByteSize_ofList_of_ascii (l : List Char) (h : ∀ c ∈ l, c.val ≤ 127) :
    (String.ofList l).utf8ByteSize = l.length := by
  induction l with
  | nil => simp
  | cons c l ih =>
    have hc : c.utf8Size = 1 := Char.utf8Size_eq_one_iff.mpr (h c (by simp))
    rw [String.ofList_cons, String.utf8ByteSize_append, String.utf8ByteSize_singleton, hc,
      ih fun d hd => h d (by simp [hd])]
    simp
    omega

theorem utf8ByteSize_toString (n : Nat) : (toString n).utf8ByteSize = (Nat.toDigits 10 n).length := by
  have htext : toString n = String.ofList (Nat.toDigits 10 n) := by
    rw [Nat.toString_eq_repr]
    exact String.ext (by simp [Nat.toList_repr])
  rw [htext, utf8ByteSize_ofList_of_ascii]
  intro c hc
  have hdig := Nat.isDigit_of_mem_toDigits (by decide) (by decide) hc
  simp only [Char.isDigit, Bool.and_eq_true, decide_eq_true_eq, UInt32.le_iff_toNat_le] at hdig ⊢
  simp at hdig ⊢
  omega

theorem ChannelView.text_utf8ByteSize (v : ChannelView) :
    v.text.utf8ByteSize = 11 + (if v.custom then 4 else 5) +
      v.index.elim 0 (fun i => 9 + (Nat.toDigits 10 i.toNat).length) +
      v.value.elim 0 (fun x => 9 + (Nat.toDigits 10 x.toNat).length) := by
  obtain ⟨custom, index, value⟩ := v
  have hopen : "\x7b\"custom\":".utf8ByteSize = 10 := by decide
  have hindex : ",\"index\":".utf8ByteSize = 9 := by decide
  have hvalue : ",\"value\":".utf8ByteSize = 9 := by decide
  have hclose : "\x7d".utf8ByteSize = 1 := by decide
  have hbool : (if custom then "true" else "false").utf8ByteSize = if custom then 4 else 5 := by
    cases custom <;> decide
  cases index <;> cases value <;>
    simp only [text, String.utf8ByteSize_append, utf8ByteSize_toString, hopen, hindex,
      hvalue, hclose, hbool] <;> simp <;> omega

theorem Snapshot.text_utf8ByteSize (s : Snapshot) :
    s.text.utf8ByteSize = 43 + s.power.text.utf8ByteSize + s.brightness.text.utf8ByteSize +
      s.colour.text.utf8ByteSize + s.motor.text.utf8ByteSize := by
  have hpower : "\x7b\"Power\":".utf8ByteSize = 9 := by decide
  have hbrightness : ",\"Brightness\":".utf8ByteSize = 14 := by decide
  have hcolour : ",\"Colour\":".utf8ByteSize = 10 := by decide
  have hmotor : ",\"Motor\":".utf8ByteSize = 9 := by decide
  have hclose : "\x7d".utf8ByteSize = 1 := by decide
  simp only [text_eq, String.utf8ByteSize_append, hpower, hbrightness, hcolour, hmotor, hclose]
  omega

/-- A channel's text takes at most 47 bytes: an index has at most three digits,
a value at most ten. -/
theorem ChannelView.text_utf8ByteSize_le (v : ChannelView) : v.text.utf8ByteSize ≤ 47 := by
  have hindex : ∀ i : UInt8, (Nat.toDigits 10 i.toNat).length ≤ 3 := fun i =>
    (Nat.length_toDigits_le_iff (by decide) (by decide)).mpr
      (Nat.lt_of_lt_of_le i.toNat_lt_size (by decide))
  have hvalue : ∀ x : UInt32, (Nat.toDigits 10 x.toNat).length ≤ 10 := fun x =>
    (Nat.length_toDigits_le_iff (by decide) (by decide)).mpr
      (Nat.lt_of_lt_of_le x.toNat_lt_size (by decide))
  rw [text_utf8ByteSize]
  obtain ⟨custom, index, value⟩ := v
  cases index with
  | none =>
    cases value with
    | none => cases custom <;> simp
    | some x => have := hvalue x; cases custom <;> simp <;> omega
  | some i =>
    have := hindex i
    cases value with
    | none => cases custom <;> simp <;> omega
    | some x => have := hvalue x; cases custom <;> simp <;> omega

/-- Every channel out of custom mode at index 255 with the value 4294967295:
the snapshot with the longest text. -/
def Snapshot.longest : Snapshot :=
  let v : ChannelView := { index := some 255, value := some 4294967295 }
  ⟨v, v, v, v⟩

theorem Snapshot.longest_utf8ByteSize : longest.text.utf8ByteSize = 231 := by
  have hview : (ChannelView.text { index := some 255, value := some 4294967295 }).utf8ByteSize = 47 := by
    rw [ChannelView.text_utf8ByteSize]
    decide
  rw [text_utf8ByteSize]
  simp only [longest, hview]

theorem Snapshot.text_utf8ByteSize_le (s : Snapshot) : s.text.utf8ByteSize ≤ 231 := by
  have := s.power.text_utf8ByteSize_le
  have := s.brightness.text_utf8ByteSize_le
  have := s.colour.text_utf8ByteSize_le
  have := s.motor.text_utf8ByteSize_le
  rw [text_utf8ByteSize]
  omega

/-- The buffer always holds a compact snapshot text, so the snapshot is always
sent. -/
theorem Wire.Json.Compact.snapshotSlice_eq {json : Wire.Codec} (hc : Wire.Json.Compact json.write)
    (s : Snapshot) : Wire.snapshotSlice json s = some (Utf8.encode s.text) := by
  have hfits : (Utf8.encode s.text).length ≤ Wire.snapshotBufferSize := by
    rw [Utf8.length_encode]
    exact Nat.le_trans s.text_utf8ByteSize_le (by decide)
  simp [Wire.snapshotSlice, Wire.toSlice, hc.write_snapshot, hfits]

/-- A snapshot's text, as a JSON library that writes compactly writes it, is
the object of the channels under their names in the order Power, Brightness,
Colour, Motor, each the object of `custom`, then `index` and `value` when
present. It takes at most 231 bytes, which the snapshot with the longest text
reaches, so the buffer always holds it; read as JSON it is the snapshot's value,
a client reading that back gets the snapshot, and so distinct snapshots have
distinct texts. -/
theorem snapshot_text_fits_and_reads_back (json : Wire.Codec) (hc : Wire.Json.Compact json.write) :
    (∀ s : Snapshot, json.write s.json = s.text ∧ (Utf8.encode (json.write s.json)).length ≤ 231 ∧
      Wire.snapshotSlice json s = some (Utf8.encode (json.write s.json)) ∧
      Wire.Json.parse (json.write s.json) = some s.json ∧ Snapshot.ofJson s.json = some s) ∧
    (Utf8.encode (json.write Snapshot.longest.json)).length = 231 ∧
    ∀ s t : Snapshot, json.write s.json = json.write t.json → s = t := by
  refine ⟨fun s => ⟨hc.write_snapshot s, ?_, ?_, ?_, s.ofJson_json⟩, ?_, ?_⟩
  · rw [Utf8.length_encode, hc.write_snapshot]
    exact s.text_utf8ByteSize_le
  · rw [hc.snapshotSlice_eq, hc.write_snapshot]
  · rw [hc.write_snapshot]
    exact s.parse_text
  · rw [Utf8.length_encode, hc.write_snapshot]
    exact Snapshot.longest_utf8ByteSize
  · intro s t hst
    -- both texts parse to the same value, which reads back as either snapshot
    have hjson : s.json = t.json := by
      have hs := s.parse_text
      rw [← hc.write_snapshot, hst, hc.write_snapshot, t.parse_text] at hs
      exact (Option.some.inj hs).symm
    have hback := s.ofJson_json
    rw [hjson, t.ofJson_json] at hback
    exact (Option.some.inj hback).symm

/-- The bench's JSON library writes compactly, so its snapshot texts fit and
read back. -/
theorem snapshot_text_fits_serde :
    Wire.Json.Compact Serde.codec.write ∧
      ((∀ s : Snapshot, Serde.codec.write s.json = s.text ∧
          (Utf8.encode (Serde.codec.write s.json)).length ≤ 231 ∧
          Wire.snapshotSlice Serde.codec s = some (Utf8.encode (Serde.codec.write s.json)) ∧
          Wire.Json.parse (Serde.codec.write s.json) = some s.json ∧ Snapshot.ofJson s.json = some s) ∧
        (Utf8.encode (Serde.codec.write Snapshot.longest.json)).length = 231 ∧
        ∀ s t : Snapshot, Serde.codec.write s.json = Serde.codec.write t.json → s = t) :=
  ⟨Serde.compact, snapshot_text_fits_and_reads_back Serde.codec Serde.compact⟩

end GalaxyProjector
