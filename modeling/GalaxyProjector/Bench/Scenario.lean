import GalaxyProjector.Bytes

/-!
What a bench run is asked to do: whether the firmware was built with WiFi
credentials, how long to run, when switch lines change, how the access point
behaves, and the client sessions to play against the web server. Times are in
milliseconds.
-/

namespace GalaxyProjector

structure PinChange where
  time : Nat
  gpio : Nat
  low : Bool
  deriving DecidableEq, Repr, Inhabited

structure AccessPoint where
  setConfigFails : Bool := false
  startFails : Bool := false
  /-- Whether each connection attempt succeeds; missing ones do. -/
  connects : List Bool := []
  disconnects : List Nat := []
  deriving DecidableEq, Repr, Inhabited

inductive Outgoing where
  | text (s : String)
  | binary (b : Bytes)
  | ping (s : String)
  | pong (s : String)
  | close (code : Option Nat)
  | raw (b : Bytes)
  deriving DecidableEq, Repr, Inhabited

inductive Play where
  | http (request : String)
  | websocket (path key : String) (sends : List (Nat × Outgoing))
  deriving DecidableEq, Repr, Inhabited

/-- How long a session lasts unless told otherwise, in milliseconds. -/
def defaultSessionLength : Nat := 1000

/-- How long a run lasts unless told otherwise, in milliseconds. -/
def defaultRunLength : Nat := 2000

/-- A client session: it connects at `start` and gives up at `stop`. -/
structure Session where
  start : Nat
  stop : Nat
  play : Play
  deriving DecidableEq, Repr, Inhabited

structure Scenario where
  credentials : Bool := false
  stop : Nat := defaultRunLength
  pins : List PinChange := []
  accessPoint : AccessPoint := {}
  sessions : List Session := []
  deriving DecidableEq, Repr, Inhabited

def defaultKey : String := "dGhlIHNhbXBsZSBub25jZQ=="

end GalaxyProjector
