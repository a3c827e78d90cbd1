/-!
Errors of the projector, by cause. Each family has its own text; the umbrella
`Error` prefixes the family's name, so `Error.message (.fsm e)` is
`"fsm: " ++ e.message`.
-/

namespace GalaxyProjector

inductive FsmError where
  | empty
  | full
  | duplicateState
  | unknownState
  | customStateWithoutAction
  | noCustomState
  deriving DecidableEq, Repr

inductive OutputError where
  | outOfRange (value : Int)
  | writeFailed
  deriving DecidableEq, Repr

inductive InputError where
  | readFailed
  deriving DecidableEq, Repr

inductive CommandError where
  | unknownCommand
  | unknownMode (mode : UInt8)
  | missingValue
  | outOfRange (value : UInt32)
  | noCustomState
  | valueMismatch
  | malformed
  deriving DecidableEq, Repr

inductive Error where
  | fsm (e : FsmError)
  | output (e : OutputError)
  | input (e : InputError)
  | command (e : CommandError)
  deriving DecidableEq, Repr

namespace FsmError

def message : FsmError → String
  | .empty => "no states registered"
  | .full => "state table full"
  | .duplicateState => "duplicate state name"
  | .unknownState => "unknown state"
  | .customStateWithoutAction => "custom state must have an action"
  | .noCustomState => "custom state must be installed before use"

end FsmError

namespace OutputError

def message : OutputError → String
  | .outOfRange v => s!"value {v} outside 0..=255"
  | .writeFailed => "PWM write failed"

end OutputError

namespace InputError

def message : InputError → String
  | .readFailed => "GPIO read failed"

end InputError

namespace CommandError

/-- The error's text, with the offending number where there is one. -/
def message : CommandError → String
  | .unknownCommand => "unknown command"
  | .unknownMode m => s!"unknown mode {m}"
  | .missingValue => "custom mode requires a value"
  | .outOfRange v => s!"level {v} outside 0..=255"
  | .noCustomState => "channel has no custom state"
  | .valueMismatch => "value does not fit channel"
  | .malformed => "malformed message"

/-- The short text sent back to a client: the message without numbers. -/
def short : CommandError → String
  | .unknownMode _ => "unknown mode"
  | .outOfRange _ => "level outside 0..=255"
  | e => e.message

end CommandError

namespace Error

/-- The family's name, then the family's text. -/
def message : Error → String
  | .fsm e => "fsm: " ++ e.message
  | .output e => "output: " ++ e.message
  | .input e => "input: " ++ e.message
  | .command e => "command: " ++ e.message

end Error

end GalaxyProjector
