import Cep18.Model.Host

/-!
# Helpers of the entry points

`utils.rs`, `balances.rs`, `allowances.rs` and the recording half of `events.rs`.
-/

namespace Cep18

open Checked Constants

variable {Key : Type} [CasperKey Key] {D : ItemKeys Key}

/-! ### `utils.rs` -/

/-- `get_uref`. -/
def getUref (name : String) : HostM Key D URef := do
  let key ← unwrapOrRevertWith .missingKey (← getKey name)
  unwrapOrRevertWith .unexpectedKeyVariant (intoURef key)

/-- `read_from`. -/
def readFrom {T : Type} [CLTyped T] (name : String) : HostM Key D T := do
  let uref ← getUref name
  unwrapOrRevertWith .none (← read uref)

/-- `call_stack_element_to_address`. -/
def callStackElementToAddress : CallStackElement → Key
  | .Session accountHash => ofAccount accountHash
  | .StoredSession accountHash _ _ => ofAccount accountHash
  | .StoredContract contractPackageHash _ => ofHash contractPackageHash

/-- `get_immediate_caller_address`: the frame below the running code's own. -/
def getImmediateCallerAddress (env : Env Key) : Except Cep18Error Key :=
  -- `.rev().nth(1)`: the last frame is the running code's own
  match env.callStack.reverse[1]? with
  | some frame => .ok (callStackElementToAddress frame)
  | none => .error .InvalidContext

/-- `get_total_supply_uref`. -/
def getTotalSupplyUref : HostM Key D URef := getUref TOTAL_SUPPLY

/-- `read_total_supply_from`. -/
def readTotalSupplyFrom (uref : URef) : HostM Key D U256 := do
  unwrapOrRevertWith .none (← read uref)

/-- `write_total_supply_to`. -/
def writeTotalSupplyTo (uref : URef) (value : U256) : HostM Key D Unit := write uref value

/-- `get_named_arg_with_user_errors`. -/
def getNamedArgWithUserErrors (T : Type) [FromArg Key T] (env : Env Key) (name : String)
    (missing invalid : Cep18Error) : Except Cep18Error T :=
  match env.args name with
  | none => .error missing
  | some arg =>
    match FromArg.fromArg arg with
    | some value => .ok value
    | none => .error invalid

/-- `get_optional_named_arg_with_user_errors`. -/
def getOptionalNamedArgWithUserErrors {T : Type} [FromArg Key T] (env : Env Key) (name : String)
    (invalid : Cep18Error) : HostM Key D (Option T) :=
  -- `Phantom` stands for an argument that was not given
  match getNamedArgWithUserErrors T env name .Phantom invalid with
  | .ok val => pure (some val)
  | .error .Phantom => pure none
  | .error _ => revert invalid

/-- `sec_check`. -/
def secCheck (env : Env Key) (allowedBadgeList : List SecurityBadge) : HostM Key D Unit := do
  let caller ← unwrapOrRevert (getImmediateCallerAddress env)
  let badge ← dictionaryGet (← getUref SECURITY_BADGES) (D.ofKey caller)
  -- a key that was never given a badge has no rights either
  let badge : SecurityBadge ← unwrapOrRevertWith (Cep18Error.toApi .InsufficientRights) badge
  if badge ∈ allowedBadgeList then pure () else revert .InsufficientRights

/-- `change_sec_badge`. -/
def changeSecBadge (badgeMap : BTreeMap Key SecurityBadge) : HostM Key D Unit := do
  let secUref ← getUref SECURITY_BADGES
  badgeMap.iter.forM fun (user, badge) => dictionaryPut secUref (D.ofKey user) badge

/-! ### `balances.rs` -/

/-- `get_balances_uref`. -/
def getBalancesUref : HostM Key D URef := getUref BALANCES

/-- `write_balance_to`. -/
def writeBalanceTo (balancesUref : URef) (address : Key) (amount : U256) : HostM Key D Unit :=
  dictionaryPut balancesUref (D.ofKey address) amount

/-- `read_balance_from`: zero for an account not in the system. -/
def readBalanceFrom (balancesUref : URef) (address : Key) : HostM Key D U256 := do
  let balance ← dictionaryGet balancesUref (D.ofKey address)
  pure (balance.getD 0)

/-- `transfer_balance`: does not validate the sender. -/
def transferBalance (sender recipient : Key) (amount : U256) : HostM Key D Unit := do
  if sender = recipient ∨ amount = 0 then
    pure ()
  else
    -- both results are known to fit before either is written
    let balancesUref ← getBalancesUref
    let senderBalance ← readBalanceFrom balancesUref sender
    let newSenderBalance ←
      unwrapOrRevertWith (Cep18Error.toApi .InsufficientBalance) (checkedSub senderBalance amount)
    let recipientBalance ← readBalanceFrom balancesUref recipient
    let newRecipientBalance ←
      unwrapOrRevertWith (Cep18Error.toApi .Overflow) (checkedAdd recipientBalance amount)
    writeBalanceTo balancesUref sender newSenderBalance
    writeBalanceTo balancesUref recipient newRecipientBalance

/-! ### `allowances.rs` -/

/-- `get_allowances_uref`. -/
def getAllowancesUref : HostM Key D URef := getUref ALLOWANCES

/-- `write_allowance_to`. -/
def writeAllowanceTo (allowancesUref : URef) (owner spender : Key) (amount : U256) :
    HostM Key D Unit :=
  dictionaryPut allowancesUref (D.ofPair owner spender) amount

/-- `read_allowance_from`. -/
def readAllowanceFrom (allowancesUref : URef) (owner spender : Key) : HostM Key D U256 := do
  let allowance ← dictionaryGet allowancesUref (D.ofPair owner spender)
  pure (allowance.getD 0)

/-! ### `events.rs` -/

/-- `ces`. -/
def ces (event : Event Key) : HostM Key D Unit := emit event

/-- `record_event_dictionary`. -/
def recordEventDictionary (event : Event Key) : HostM Key D Unit := do
  let eventsMode ← unwrapOrRevert (EventsMode.tryFrom (← readFrom EVENTS_MODE))
  match eventsMode with
  | .NoEvents => pure ()
  | .CES => ces event

/-- `init_events`. -/
def initEvents : HostM Key D Unit := do
  let eventsMode ← unwrapOrRevert (EventsMode.tryFrom (← readFrom EVENTS_MODE))
  if eventsMode = .CES then cesInit else pure ()

end Cep18
