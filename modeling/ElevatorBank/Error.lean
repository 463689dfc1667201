import ElevatorBank.Snapshot

/-!
# Errors

Why a request is refused, why a configuration is rejected, and how a subscriber
failed, each with its message.
-/
namespace ElevatorBank

inductive DispatchError
  | unknownElevator (car : CarId)
  | invalidDirection (floor : Int) (direction : Direction)
  | queueFull (capacity : Nat)
  | queueShutdown
  | commandPanicked (command reason : String)
  | configuration (message : String)
  | workerSpawn (thread reason : String)
  deriving DecidableEq, Repr, Inhabited

namespace DispatchError

/-- The name of the kind of error. -/
def kind : DispatchError → String
  | unknownElevator _ => "UnknownElevator"
  | invalidDirection .. => "InvalidDirection"
  | queueFull _ => "QueueFull"
  | queueShutdown => "QueueShutdown"
  | commandPanicked .. => "CommandPanicked"
  | configuration _ => "ConfigurationError"
  | workerSpawn .. => "WorkerSpawn"

def message : DispatchError → String
  | unknownElevator car => s!"Unknown elevator: {car}"
  | invalidDirection floor direction =>
    s!"Invalid hall call direction {direction.name} for floor {floor}"
  | queueFull capacity => s!"Command queue is full (capacity {capacity})"
  | queueShutdown => "Command queue has been shut down"
  | commandPanicked command reason => s!"Command {command} panicked: {reason}"
  | configuration message => s!"Configuration error: {message}"
  | workerSpawn thread reason => s!"Failed to spawn thread {thread}: {reason}"

end DispatchError

/-- An error of dispatch or, where something breaks down, the text it breaks down
with. -/
inductive Refusal
  | error (e : DispatchError)
  | panic (reason : String)
  deriving DecidableEq, Repr, Inhabited

inductive ConfigError
  /-- A source could not be read or understood. -/
  | load (source text : String)
  | invalidValue (field value context : String)
  | validation (text : String)
  deriving DecidableEq, Repr, Inhabited

namespace ConfigError

def kind : ConfigError → String
  | load .. => "LoadError"
  | invalidValue .. => "InvalidValue"
  | validation _ => "ValidationError"

def message : ConfigError → String
  | load source text => s!"Failed to load configuration from '{source}': {text}"
  | invalidValue field value context => s!"Invalid value '{value}' for field '{field}': {context}"
  | validation text => s!"Configuration validation failed: {text}"

/-- A configuration error as the reason for not starting. -/
def toDispatchError (e : ConfigError) : DispatchError := .configuration e.message

end ConfigError

inductive HandlerError
  | executionFailed (subscriber eventType reason : String)
  | handlerPanicked (subscriber eventType reason : String)
  | generic (text : String)
  deriving DecidableEq, Repr, Inhabited

namespace HandlerError

def message : HandlerError → String
  | executionFailed subscriber eventType reason =>
    s!"Subscriber '{subscriber}' failed on event '{eventType}': {reason}"
  | handlerPanicked subscriber eventType reason =>
    s!"Subscriber '{subscriber}' panicked on event '{eventType}': {reason}"
  | generic text => s!"Handler error: {text}"

end HandlerError
end ElevatorBank
