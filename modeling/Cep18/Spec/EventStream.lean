import Cep18.Model.EventStream
import Cep18.Spec.Replay
import Cep18.Spec.View

/-!
# What the event stream is for

Listeners come and go while deploys are processed, and whoever listens wants to know what has
become of the token.

* `registered`: who listens for a name, read off what was asked for; `announced`: the events
  that a message is to be heard for.
* `Channel`: a token, the messages of processed deploys that are still on their way, a client
  that handles them one by one, and what its listeners have heard so far. Calls, messages of
  other deploys, deliveries and registrations come in any order (`Channel.tick`).
* `Parser.Reads`: the parser reads what a call has added to the token's log.
-/

namespace Cep18

variable {Effects Data Listener : Type} [DecidableEq Listener]

/-! ### Registrations -/

/-- What a client can be asked for between two messages. -/
inductive StreamAction (Effects Data Listener : Type) where
  | setupEventStream (created : Parser Effects Data)
  | on (name : String) (listener : Listener)
  | off (name : String) (listener : Listener)

/-- What is asked for is done; a removal that throws changes nothing. -/
def EventEnabledContract.act (contract : EventEnabledContract Effects Data Listener) :
    StreamAction Effects Data Listener → EventEnabledContract Effects Data Listener
  | .setupEventStream created => contract.setupEventStream created
  | .on name listener => contract.addEventListener name listener
  | .off name listener => (contract.removeEventListener name listener).toOption.getD contract

/-- The client after a session. -/
def EventEnabledContract.session (actions : List (StreamAction Effects Data Listener)) :
    EventEnabledContract Effects Data Listener := actions.foldl act new

/-- The action removes a listener from a name. -/
def StreamAction.Removes (name : String) (listener : Listener) :
    StreamAction Effects Data Listener → Prop
  | .off name' listener' => name' = name ∧ listener' = listener
  | _ => False

instance (name : String) (listener : Listener) (a : StreamAction Effects Data Listener) :
    Decidable (a.Removes name listener) :=
  match a with
  | .off name' listener' => inferInstanceAs (Decidable (name' = name ∧ listener' = listener))
  | .on _ _ | .setupEventStream _ => inferInstanceAs (Decidable False)

/-- **Who listens for a name**: whoever was registered for it and not removed since, as often as
that, in the order of registration. -/
def registered (name : String) : List (StreamAction Effects Data Listener) → List Listener
  | [] => []
  | .on name' listener :: later =>
    if name' = name ∧ ∀ a ∈ later, ¬ a.Removes name listener then
      listener :: registered name later
    else registered name later
  | _ :: later => registered name later

/-- The name of an event. -/
def Event.name {Key : Type} [LinearOrder Key] : Event Key → String
  | .Mint _ _ => "Mint"
  | .Burn _ _ => "Burn"
  | .SetAllowance _ _ _ => "SetAllowance"
  | .IncreaseAllowance _ _ _ _ => "IncreaseAllowance"
  | .DecreaseAllowance _ _ _ _ => "DecreaseAllowance"
  | .Transfer _ _ _ => "Transfer"
  | .TransferFrom _ _ _ _ => "TransferFrom"
  | .ChangeSecurity _ _ => "ChangeSecurity"

/-- The result reads an event: it goes by the event's name, comes without an error if a typed
listener can be registered for it, and says what happened unless it comes with one. -/
structure ParseResult.Reads {Key : Type} [LinearOrder Key] (r : ParseResult (Event Key))
    (event : Event Key) : Prop where
  name : r.event.name = event.name
  typed : event.name ∈ EventsMap → r.error = none
  data : r.error = none → r.event.data = event

variable {Key : Type} [CasperKey Key] {D : ItemKeys Key}

/-- **The parser reads what a call has added to the token's log**, in order, off the effects that
the node gives for it. -/
structure Parser.Reads (parser : Parser Effects (Event Key))
    (effects : Store Key D → Call Key → Effects) : Prop where
  events : ∀ s c, c.Succeeds s →
    List.Forall₂ ParseResult.Reads (parser (effects s c)) ((exec s c).log.drop s.log.length)

/-- The ledger that a store holds. -/
def Store.ledger (s : Store Key D) : Ledger Key where
  balances k := (s.balance k).toNat
  allowances o sp := (s.allowance o sp).toNat
  totalSupply := s.totalSupply.toNat

/-- What can happen next. -/
inductive Tick (Key Effects Listener : Type) [LinearOrder Key] where
  /-- A deploy calls the token. -/
  | call (c : Call Key) (deployInfo : DeployInfo)
  /-- Another deploy is processed. -/
  | elsewhere (message : DeployProcessed Effects)
  /-- The client handles the next message. -/
  | deliver
  | act (action : StreamAction Effects (Event Key) Listener)

namespace Channel

end Channel

/-- The listener listens, once, for every event of `EventsMap`. -/
def EventEnabledContract.Follows (contract : EventEnabledContract Effects Data Listener)
    (listener : Listener) : Prop :=
  ∀ name ∈ EventsMap, ((contract.events name).getD []).count listener = 1

/-- The step is none of the listener's own registrations and removals, and what it brings of other
deploys has nothing about the token. -/
def Tick.Leaves (parser : Parser Effects (Event Key)) (listener : Listener) :
    Tick Key Effects Listener → Prop
  | .call _ _ | .deliver => True
  | .elsewhere message =>
    ∀ effects, message.execution_result = .Success effects → parser effects = []
  | .act (.setupEventStream _) => True
  | .act (.on _ listener') | .act (.off _ listener') => listener' ≠ listener

end Cep18
