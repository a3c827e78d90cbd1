import GalaxyProjector.Command
import GalaxyProjector.Snapshot
import GalaxyProjector.Bytes
import GalaxyProjector.Text.Unicode

/-!
The JSON the server speaks. A client's message is a bare word, or an envelope
object `{"id": .., "mode": .., "value": ..}`; the server answers with
snapshots and error replies, both JSON objects.

Reading an envelope and writing a value are the work of the JSON library the
firmware links, which is a parameter here (`Wire.Codec`). What the server
decides itself is what its values are made of and what becomes of their text:
a snapshot is the object of its four channels under their names, each the
object of `custom`, then `index` and `value` only when they are present; an
error is the object tagged `"type":"error"` with the error's short text. The
text is written into a buffer of 256 bytes for a snapshot and 128 for an
error, and a text that does not fit is not sent.

`Json.Compact` states how the library writes such values: no blanks, truth
values as `true` and `false`, numbers in decimal, strings that need no escape
between quotes, and an object's members in order as `"key":value`,
separated by commas.
-/

namespace GalaxyProjector

namespace Wire

inductive Json where
  | null
  | bool (b : Bool)
  | num (n : Nat)
  | str (s : String)
  | arr (items : List Json)
  | obj (members : List (String × Json))
  deriving Repr

def isBlank (c : Char) : Bool := c == ' ' || c == '\t' || c == '\n' || c == '\r'

def skipBlanks (cs : List Char) : List Char := cs.dropWhile isBlank

def digitsValue (ds : List Char) : Nat :=
  ds.foldl (fun n d => 10 * n + (d.toNat - '0'.toNat)) 0

def colon (cs : List Char) : Option (List Char) :=
  match skipBlanks cs with
  | ':' :: r => some r
  | _ => none

namespace Json

/-- A string that is written as it is between quotes: no quote, no backslash,
no control character. -/
def Plain (s : String) : Prop := ∀ c ∈ s.toList, c ≠ '"' ∧ c ≠ '\\' ∧ ' ' ≤ c

-- The list's own instance, by name: with Mathlib in scope, instance search
-- finds one that runs through every character there is.
instance : DecidablePred Plain := fun s => List.decidableBAll _ s.toList

def memberText (key value : String) : String := "\"" ++ key ++ "\":" ++ value

/-- How a compact writer writes the values the server builds. -/
structure Compact (write : Json → String) : Prop where
  bool : ∀ b, write (.bool b) = if b then "true" else "false"
  num : ∀ n, write (.num n) = toString n
  str : ∀ s, Plain s → write (.str s) = "\"" ++ s ++ "\""
  obj : ∀ ms : List (String × Json), (∀ m ∈ ms, Plain m.1) →
    write (.obj ms) = "\x7b" ++ ",".intercalate (ms.map fun m => memberText m.1 (write m.2)) ++ "\x7d"

end Json

/-- The JSON library: its reader of envelope texts and its writer of values. -/
structure Codec where
  readEnvelope : String → Option Envelope
  write : Json → String

def snapshotBufferSize : Nat := 256

def errorBufferSize : Nat := 128

def toSlice (c : Codec) (size : Nat) (v : Json) : Option Bytes :=
  let b := Utf8.encode (c.write v)
  if b.length ≤ size then some b else none

def envelopeCommand (c : Codec) (text : String) : Except CommandError Command :=
  match c.readEnvelope text with
  | some e => e.command
  | none => .error .malformed

/-- The command a client's message asks for: white space (in the Unicode sense)
is dropped at both ends, and a text that then starts with `{` is an envelope,
anything else a bare word. -/
def decode (c : Codec) (text : String) : Except CommandError Command :=
  let t := Text.trimWhite text
  if t.startsWith "\x7b" then envelopeCommand c t else Command.ofWord t

end Wire

/-- A channel's view as a value: `custom`, then `index` and `value`, each left
out when absent. -/
def ChannelView.json (v : ChannelView) : Wire.Json :=
  .obj (("custom", .bool v.custom) :: ((v.index.map fun i => ("index", .num i.toNat)).toList ++
    (v.value.map fun x => ("value", .num x.toNat)).toList))

/-- A snapshot as a value: the channels under their names, in the order Power,
Brightness, Colour, Motor. -/
def Snapshot.json (s : Snapshot) : Wire.Json :=
  .obj (ChannelId.all.map fun id => (id.name, (s.channel id).json))

def CommandError.json (e : CommandError) : Wire.Json :=
  .obj [("type", .str "error"), ("message", .str e.short)]

namespace Wire

def snapshotSlice (c : Codec) (s : Snapshot) : Option Bytes := toSlice c snapshotBufferSize s.json

def errorSlice (c : Codec) (e : CommandError) : Option Bytes := toSlice c errorBufferSize e.json

end Wire

end GalaxyProjector
