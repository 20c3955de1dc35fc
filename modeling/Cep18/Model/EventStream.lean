import Cep18.Model.Client

/-!
# The client's event stream

`EventEnabledContract.ts`, which `CEP18Client` extends: listeners that are registered by the name
of an event, and the messages of processed deploys that are handed on to them. The parser of
`ces-js-parser` is a parameter; a deploy's effects are whatever it reads.

A listener is told apart by its identity. Names that every object inherits (`toString`) and
listeners that register others while they run are left out.
-/

namespace Cep18

open Decoder Encoding

/-! ### Events -/

/-- The `event` of a result of the parser. -/
structure ParsedEvent (Data : Type) where
  name : String
  contractHash : Bytes
  contractPackageHash : Bytes
  data : Data

/-- A result of the parser: an event, and the error that it met with, if any. -/
structure ParseResult (Data : Type) where
  error : Option String
  event : ParsedEvent Data

/-- `Event`, with the hashes as text. -/
structure CEP18Event (Data : Type) where
  name : String
  contractHash : String
  contractPackageHash : String
  data : Data

/-- `DeployInfo`. -/
structure DeployInfo where
  deployHash : String
  timestamp : String

/-- `WithDeployInfo<CEP18Event>`. -/
structure CEP18EventWithDeployInfo (Data : Type) extends CEP18Event Data where
  deployInfo : DeployInfo

/-- The `execution_result` of a processed deploy: what a successful one did is for the parser to
read. -/
inductive ProcessedResult (Effects : Type) where
  | Success (effects : Effects)
  | Failure

/-- The `DeployProcessed` of a message. -/
structure DeployProcessed (Effects : Type) where
  execution_result : ProcessedResult Effects
  timestamp : String
  deploy_hash : String

/-- The parser: what it makes of the effects of a successful deploy. -/
abbrev Parser (Effects Data : Type) := Effects → List (ParseResult Data)

/-- The keys of `EventsMap`: the events that a typed listener can be registered for. -/
def EventsMap : List String :=
  ["Mint", "Burn", "SetAllowance", "IncreaseAllowance", "DecreaseAllowance", "Transfer",
    "TransferFrom"]

/-! ### Listeners -/

/-- `EventEnabledContract`: the parser, once there is one, and the listeners under each name that
was ever registered. -/
structure EventEnabledContract (Effects Data Listener : Type) where
  parser : Option (Parser Effects Data)
  events : String → Option (List Listener)

namespace EventEnabledContract

variable {Effects Data Listener : Type}

/-- A contract as constructed. -/
def new : EventEnabledContract Effects Data Listener := ⟨none, fun _ => none⟩

/-- `setupEventStream`, up to the subscription: the parser is created unless there is one. -/
def setupEventStream (contract : EventEnabledContract Effects Data Listener)
    (created : Parser Effects Data) : EventEnabledContract Effects Data Listener :=
  match contract.parser with
  | none => { contract with parser := some created }
  | some _ => contract

/-- `addEventListener`, which `on` calls. -/
def addEventListener (contract : EventEnabledContract Effects Data Listener) (name : String)
    (listener : Listener) : EventEnabledContract Effects Data Listener :=
  let listeners := (contract.events name).getD []
  { contract with events := Function.update contract.events name (some (listeners ++ [listener])) }

/-- `removeEventListener`, which `off` calls. -/
def removeEventListener [DecidableEq Listener]
    (contract : EventEnabledContract Effects Data Listener) (name : String)
    (listenerToRemove : Listener) :
    Except Thrown (EventEnabledContract Effects Data Listener) :=
  match contract.events name with
  | none => .error (.error ("Error: Can't remove a listener. Event \"" ++ name ++ "\" doesn't exits."))
  | some listeners =>
    let filterListeners := fun listener => listener ≠ listenerToRemove
    .ok { contract with
      events := Function.update contract.events name (some (listeners.filter filterListeners)) }

/-- `emit`: the listeners that are called, in order, each with the event. -/
def emit (contract : EventEnabledContract Effects Data Listener)
    (event : CEP18EventWithDeployInfo Data) : List (Listener × CEP18EventWithDeployInfo Data) :=
  ((contract.events event.name).getD []).map fun cb => (cb, event)

end EventEnabledContract

end Cep18
