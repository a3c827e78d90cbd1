import GalaxyProjector.Wire.Json

/-!
An executable JSON library: a reader of envelopes and a compact writer, which
the server runs with on the bench. It follows serde_json_core 0.6 with the
envelope's derived reader as far as envelopes and the server's values go.

The reader is strict where the envelope's own fields are concerned and lax
about the rest:

* blanks are space, tab, CR and LF, allowed around every token and at both
  ends, and nothing else may follow the object;
* `id` is one of the four channel names exactly as written (escapes are not
  decoded), or the one-entry object `{"Name": null}`;
* `mode` and `value` are plain unsigned numbers without sign, fraction,
  exponent or leading zero, within 0..=255 and 0..=2^32-1; `value` may be
  `null` or absent;
* a key given twice is refused;
* the value of any other key is skipped: strings, arrays and objects by their
  brackets, anything else up to the next `,`, `}` or `]`.

Keys and strings are taken raw, up to the first quote not escaped by a
backslash.

The writer writes no blanks. In a string it escapes the quote, the backslash
and the control characters, the common ones by a letter and the others as
`\u00` and two lower-case hex digits.
-/

namespace GalaxyProjector

namespace Serde

open Wire

/-- The raw body of a string whose opening quote is gone, and what follows
its closing quote. A backslash takes the next character with it. -/
def rawString : List Char → Option (List Char × List Char)
  | [] => none
  | '"' :: r => some ([], r)
  | '\\' :: c :: r => (rawString r).map fun (s, r') => ('\\' :: c :: s, r')
  | c :: r => if c == '\\' then none else (rawString r).map fun (s, r') => (c :: s, r')

def string (cs : List Char) : Option (String × List Char) :=
  match skipBlanks cs with
  | '"' :: r => (rawString r).map fun (s, r') => (String.ofList s, r')
  | _ => none

def unsigned (bound : Nat) (cs : List Char) : Option (Nat × List Char) :=
  match skipBlanks cs with
  | '0' :: r => some (0, r)
  | c :: r =>
    if c.isDigit then
      let ds := c :: r.takeWhile Char.isDigit
      let n := digitsValue ds
      if n ≤ bound then some (n, r.dropWhile Char.isDigit) else none
    else none
  | [] => none

def null (cs : List Char) : Option (List Char) :=
  match skipBlanks cs with
  | 'n' :: 'u' :: 'l' :: 'l' :: r => some r
  | _ => none

def optUnsigned (bound : Nat) (cs : List Char) : Option (Option Nat × List Char) :=
  match skipBlanks cs with
  | 'n' :: _ => (null cs).map fun r => (none, r)
  | _ => (unsigned bound cs).map fun (n, r) => (some n, r)

/-- A channel: its name as a string, or `{"Name": null}`. -/
def channel (cs : List Char) : Option (ChannelId × List Char) :=
  match skipBlanks cs with
  | '"' :: _ => do
    let (s, r) ← string cs
    let id ← ChannelId.ofName? s
    return (id, r)
  | '{' :: r => do
    let (s, r) ← string r
    let id ← ChannelId.ofName? s
    let r ← match skipBlanks r with
      | ':' :: r => some r
      | _ => none
    let r ← null r
    match skipBlanks r with
    | '}' :: r => some (id, r)
    | _ => none
  | _ => none

def isDelimiter (c : Char) : Bool := c == ',' || c == '}' || c == ']'

def entryStart (close : Char) (first : Bool) (cs : List Char) :
    Option (Option (Bool × List Char)) :=
  match skipBlanks cs with
  | [] => some none
  | c :: r =>
    if c == close then none
    else if c == ',' && !first then some (some (false, skipBlanks r))
    else if first then some (some (false, c :: r))
    else some none

mutual

/-- Skip one value of any kind. `fuel` bounds the nesting and the number of
entries; each step consumes at least one character, so the length of the text
is enough. -/
def skipValue : Nat → List Char → Option (List Char)
  | 0, _ => none
  | fuel + 1, cs =>
    match skipBlanks cs with
    | [] => none
    | '"' :: r => (rawString r).map (·.2)
    | '[' :: r => do
      let r ← skipItems fuel true r
      match skipBlanks r with
      | ']' :: r => some r
      | _ => none
    | '{' :: r => do
      let r ← skipMembers fuel true r
      match skipBlanks r with
      | '}' :: r => some r
      | _ => none
    | c :: r =>
      if isDelimiter c then none
      else
        let rest := r.dropWhile (! isDelimiter ·)
        if rest.isEmpty then none else some rest

/-- Skip the items of a list, up to its closing bracket. A comma may even come
before the first item. -/
def skipItems : Nat → Bool → List Char → Option (List Char)
  | 0, _, _ => none
  | fuel + 1, first, cs =>
    match skipBlanks cs with
    | [] => none
    | ']' :: _ => some cs
    | ',' :: r =>
      match skipBlanks r with
      | [] => none
      | ']' :: _ => none
      | r' => (skipValue fuel r').bind (skipItems fuel first)
    | c :: r =>
      if first then (skipValue fuel (c :: r)).bind (skipItems fuel false) else none

def skipMembers : Nat → Bool → List Char → Option (List Char)
  | 0, _, _ => none
  | fuel + 1, first, cs =>
    match entryStart '}' first cs with
    | none => some cs
    | some none => none
    | some (some (first', r)) =>
      match r with
      | '"' :: _ => do
        let (_, r) ← string r
        let r ← colon r
        let r ← skipValue fuel r
        skipMembers fuel first' r
      | _ => none

end

structure Fields where
  id : Option ChannelId := none
  mode : Option Nat := none
  value : Option (Option Nat) := none

def members : Nat → Bool → Fields → List Char → Option (Fields × List Char)
  | 0, _, _, _ => none
  | fuel + 1, first, f, cs =>
    match entryStart '}' first cs with
    | none => some (f, cs)
    | some none => none
    | some (some (first', r)) =>
      match r with
      | '"' :: _ => do
        let (key, r) ← string r
        let r ← colon r
        if key = "id" then
          if f.id.isSome then none else
          let (id, r) ← channel r
          members fuel first' { f with id := some id } r
        else if key = "mode" then
          if f.mode.isSome then none else
          let (m, r) ← unsigned 255 r
          members fuel first' { f with mode := some m } r
        else if key = "value" then
          if f.value.isSome then none else
          let (v, r) ← optUnsigned 4294967295 r
          members fuel first' { f with value := some v } r
        else
          let r ← skipValue fuel r
          members fuel first' f r
      | _ => none

/-- Read an envelope: one object and nothing but blanks around it. -/
def readEnvelope (text : String) : Option Envelope := do
  let cs := text.toList
  let r ← match skipBlanks cs with
    | '{' :: r => some r
    | _ => none
  let (f, r) ← members (cs.length + 1) true {} r
  let r ← match skipBlanks r with
    | '}' :: r => some r
    | _ => none
  if !(skipBlanks r).isEmpty then none else
  let id ← f.id
  let mode ← f.mode
  return { id, mode := mode.toUInt8, value := (f.value.getD none).map Nat.toUInt32 }


/-! ### The writer -/

def escape (c : Char) : List Char :=
  if c = '"' then ['\\', '"']
  else if c = '\\' then ['\\', '\\']
  else if c = '\n' then ['\\', 'n']
  else if c = '\r' then ['\\', 'r']
  else if c = '\t' then ['\\', 't']
  else if c.toNat = 8 then ['\\', 'b']
  else if c.toNat = 12 then ['\\', 'f']
  else if c.toNat < 32 then ['\\', 'u', '0', '0', Nat.digitChar (c.toNat / 16), Nat.digitChar (c.toNat % 16)]
  else [c]

def quote (s : String) : String := String.ofList ('"' :: s.toList.flatMap escape ++ ['"'])

mutual

def write : Json → String
  | .null => "null"
  | .bool b => if b then "true" else "false"
  | .num n => toString n
  | .str s => quote s
  | .arr items => "[" ++ writeItems items ++ "]"
  | .obj members => "\x7b" ++ writeMembers members ++ "\x7d"

def writeItems : List Json → String
  | [] => ""
  | [v] => write v
  | v :: vs => write v ++ "," ++ writeItems vs

def writeMembers : List (String × Json) → String
  | [] => ""
  | [(k, v)] => quote k ++ ":" ++ write v
  | (k, v) :: ms => quote k ++ ":" ++ write v ++ "," ++ writeMembers ms

end

/-- The library the bench runs the server with. -/
def codec : Codec := ⟨readEnvelope, write⟩

/-! ### The writer is compact

A plain string is written as it is between quotes, and an object's members
are written in order, separated by commas. -/

theorem escape_plain {c : Char} (h : c ≠ '"' ∧ c ≠ '\\' ∧ ' ' ≤ c) : escape c = [c] := by
  obtain ⟨hq, hb, hs⟩ := h
  have h32 : 32 ≤ c.toNat := hs
  -- newline, return and tab are control characters, all below the space
  have hctl : ∀ d : Char, d.toNat < 32 → c ≠ d := fun d hd hcd => by subst hcd; omega
  simp only [escape, hq, hb, hctl '\n' (by decide), hctl '\r' (by decide), hctl '\t' (by decide),
    if_false]
  rw [if_neg (by omega), if_neg (by omega), if_neg (by omega)]

theorem flatMap_escape {cs : List Char} (h : ∀ c ∈ cs, c ≠ '"' ∧ c ≠ '\\' ∧ ' ' ≤ c) :
    cs.flatMap escape = cs := by
  induction cs with
  | nil => rfl
  | cons c cs ih =>
    rw [List.flatMap_cons, escape_plain (h c List.mem_cons_self), ih fun d hd => h d (List.mem_cons_of_mem _ hd)]
    rfl

theorem quote_plain {s : String} (h : Json.Plain s) : quote s = "\"" ++ s ++ "\"" := by
  rw [← String.toList_inj, quote, String.toList_ofList, flatMap_escape h]
  simp

theorem writeMembers_eq : ∀ ms : List (String × Json), (∀ m ∈ ms, Json.Plain m.1) →
    writeMembers ms = ",".intercalate (ms.map fun m => Json.memberText m.1 (write m.2))
  | [], _ => rfl
  | [(k, v)], h => by
    rw [writeMembers, quote_plain (h (k, v) List.mem_cons_self), ← String.toList_inj]
    simp [Json.memberText]
  | (k, v) :: m :: ms, h => by
    have hrest := writeMembers_eq (m :: ms) fun x hx => h x (List.mem_cons_of_mem _ hx)
    rw [writeMembers, quote_plain (h (k, v) List.mem_cons_self), hrest]
    · simp only [List.map_cons]
      rw [String.intercalate_cons_cons, ← String.toList_inj]
      simp [Json.memberText]
    · exact List.cons_ne_nil m ms

theorem compact : Json.Compact codec.write where
  bool _ := rfl
  num _ := rfl
  str _ h := quote_plain h
  obj ms h := by
    show "\x7b" ++ writeMembers ms ++ "\x7d" = _
    rw [writeMembers_eq ms h]
    rfl

end Serde

end GalaxyProjector
