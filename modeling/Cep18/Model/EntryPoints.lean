import Cep18.Model.Utils

/-!
# The entry points

`main.rs`, from `name` to `change_security`; `invoke` runs an entry point and gives
back what it returns. A call from outside (`Call`) is rolled back by the host when it
reverts: `exec` is its effect, and a run is the effect of a list of calls.
-/

namespace Cep18

open Checked Constants Program

variable {Key : Type} [CasperKey Key] {D : ItemKeys Key}

/-! ### Queries -/

/-- `name`. -/
def name : HostM Key D String := readFrom NAME

/-- `symbol`. -/
def symbol : HostM Key D String := readFrom SYMBOL

/-- `decimals`. -/
def decimals : HostM Key D UInt8 := readFrom DECIMALS

/-- `total_supply`. -/
def totalSupply : HostM Key D U256 := readFrom TOTAL_SUPPLY

/-- `balance_of`. -/
def balanceOf (env : Env Key) : HostM Key D U256 := do
  let address : Key ← getNamedArg env ADDRESS
  let balancesUref ← getBalancesUref
  readBalanceFrom balancesUref address

/-- `allowance`. -/
def allowance (env : Env Key) : HostM Key D U256 := do
  let spender : Key ← getNamedArg env SPENDER
  let owner : Key ← getNamedArg env OWNER
  let allowancesUref ← getAllowancesUref
  readAllowanceFrom allowancesUref owner spender

/-! ### Allowances -/

/-- `approve`. -/
def approve (env : Env Key) : HostM Key D Unit := do
  let owner ← unwrapOrRevert (getImmediateCallerAddress env)
  let spender : Key ← getNamedArg env SPENDER
  if spender = owner then
    revert .CannotTargetSelfUser
  else
    let amount : U256 ← getNamedArg env AMOUNT
    let allowancesUref ← getAllowancesUref
    writeAllowanceTo allowancesUref owner spender amount
    recordEventDictionary (.SetAllowance owner spender amount)

/-- The body that `decrease_allowance` and `increase_allowance` share: they differ in how
the amount changes the allowance, and in the event. -/
def adjustAllowance (env : Env Key) (adjust : U256 → U256 → U256)
    (event : Key → Key → U256 → U256 → Event Key) : HostM Key D Unit := do
  let owner ← unwrapOrRevert (getImmediateCallerAddress env)
  let spender : Key ← getNamedArg env SPENDER
  if spender = owner then
    revert .CannotTargetSelfUser
  else
    let amount : U256 ← getNamedArg env AMOUNT
    let allowancesUref ← getAllowancesUref
    let currentAllowance ← readAllowanceFrom allowancesUref owner spender
    let newAllowance := adjust currentAllowance amount
    writeAllowanceTo allowancesUref owner spender newAllowance
    recordEventDictionary (event owner spender newAllowance amount)

/-- `decrease_allowance`. -/
def decreaseAllowance (env : Env Key) : HostM Key D Unit :=
  adjustAllowance env saturatingSub .DecreaseAllowance

/-- `increase_allowance`. -/
def increaseAllowance (env : Env Key) : HostM Key D Unit :=
  adjustAllowance env saturatingAdd .IncreaseAllowance

/-! ### Transfers -/

/-- `transfer`. -/
def transfer (env : Env Key) : HostM Key D Unit := do
  let sender ← unwrapOrRevert (getImmediateCallerAddress env)
  let recipient : Key ← getNamedArg env RECIPIENT
  if sender = recipient then
    revert .CannotTargetSelfUser
  else
    let amount : U256 ← getNamedArg env AMOUNT
    transferBalance sender recipient amount
    recordEventDictionary (.Transfer sender recipient amount)

/-- `transfer_from`. -/
def transferFrom (env : Env Key) : HostM Key D Unit := do
  let spender ← unwrapOrRevert (getImmediateCallerAddress env)
  let recipient : Key ← getNamedArg env RECIPIENT
  let owner : Key ← getNamedArg env OWNER
  if owner = recipient then
    revert .CannotTargetSelfUser
  else
    let amount : U256 ← getNamedArg env AMOUNT
    -- an early return: no allowance is looked at, and no event is recorded
    if amount = 0 then
      pure ()
    else
      let allowancesUref ← getAllowancesUref
      let spenderAllowance ← readAllowanceFrom allowancesUref owner spender
      let newSpenderAllowance ← unwrapOrRevertWith (Cep18Error.toApi .InsufficientAllowance)
        (checkedSub spenderAllowance amount)
      transferBalance owner recipient amount
      writeAllowanceTo allowancesUref owner spender newSpenderAllowance
      recordEventDictionary (.TransferFrom spender owner recipient amount)

/-! ### Supply -/

/-- `mint`. -/
def mint (env : Env Key) : HostM Key D Unit := do
  if (0 : UInt8) = (← readFrom ENABLE_MINT_BURN) then
    revert .MintBurnDisabled
  else
    secCheck env [.Admin, .Minter]
    let owner : Key ← getNamedArg env OWNER
    let amount : U256 ← getNamedArg env AMOUNT
    let balancesUref ← getBalancesUref
    let totalSupplyUref ← getTotalSupplyUref
    let balance ← readBalanceFrom balancesUref owner
    -- both sums are checked before either is written
    let newBalance ← unwrapOrRevertWith (Cep18Error.toApi .Overflow) (checkedAdd balance amount)
    let supply ← readTotalSupplyFrom totalSupplyUref
    let newTotalSupply ← unwrapOrRevertWith (Cep18Error.toApi .Overflow) (checkedAdd supply amount)
    writeBalanceTo balancesUref owner newBalance
    writeTotalSupplyTo totalSupplyUref newTotalSupply
    recordEventDictionary (.Mint owner amount)

/-- `burn`. -/
def burn (env : Env Key) : HostM Key D Unit := do
  if (0 : UInt8) = (← readFrom ENABLE_MINT_BURN) then
    revert .MintBurnDisabled
  else
    let owner : Key ← getNamedArg env OWNER
    -- no badge is asked for: anyone may burn, but only what is theirs
    if owner ≠ (← unwrapOrRevert (getImmediateCallerAddress env)) then
      revert .InvalidBurnTarget
    else
      let amount : U256 ← getNamedArg env AMOUNT
      let balancesUref ← getBalancesUref
      let totalSupplyUref ← getTotalSupplyUref
      let balance ← readBalanceFrom balancesUref owner
      let newBalance ← unwrapOrRevertWith (Cep18Error.toApi .InsufficientBalance)
        (checkedSub balance amount)
      let supply ← readTotalSupplyFrom totalSupplyUref
      let newTotalSupply ← unwrapOrRevertWith (Cep18Error.toApi .Overflow)
        (checkedSub supply amount)
      writeBalanceTo balancesUref owner newBalance
      writeTotalSupplyTo totalSupplyUref newTotalSupply
      recordEventDictionary (.Burn owner amount)

/-! ### Initialisation and security -/

/-- Gives `badge` to every key of an optional list, in its order: the loops of `init`. -/
def putBadges (securityBadgesDict : URef) (list : Option (List Key)) (badge : SecurityBadge) :
    HostM Key D Unit :=
  (list.getD []).forM fun key => dictionaryPut securityBadgesDict (D.ofKey key) badge

/-- `init`. -/
def init (env : Env Key) : HostM Key D Unit := do
  if (← getKey ALLOWANCES).isSome then
    revert .AlreadyInitialized
  else
    let packageHash : Key ← getNamedArg env PACKAGE_HASH
    putKey PACKAGE_HASH packageHash
    let _ ← newDictionary ALLOWANCES
    let balancesUref ← newDictionary BALANCES
    let initialSupply : U256 ← getNamedArg env TOTAL_SUPPLY
    -- `get_caller` is the account that started the deploy, not the frame below
    let caller := env.caller
    writeBalanceTo balancesUref (ofAccount caller) initialSupply
    let securityBadgesDict ← newDictionary SECURITY_BADGES
    dictionaryPut securityBadgesDict (D.ofKey (ofAccount env.caller)) SecurityBadge.Admin
    let adminList : Option (List Key) ←
      getOptionalNamedArgWithUserErrors env ADMIN_LIST .InvalidAdminList
    let minterList : Option (List Key) ←
      getOptionalNamedArgWithUserErrors env MINTER_LIST .InvalidMinterList
    initEvents
    -- each loop overwrites what was put before it, the installer's badge included
    putBadges securityBadgesDict minterList .Minter
    putBadges securityBadgesDict adminList .Admin
    recordEventDictionary (.Mint (ofAccount caller) initialSupply)

/-- Inserts every key of an optional list into the map, with `badge`: the loops of
`change_security`. -/
def insertAll {A : Type} [LinearOrder A] (list : Option (List A)) (badge : SecurityBadge)
    (badgeMap : BTreeMap A SecurityBadge) : BTreeMap A SecurityBadge :=
  (list.getD []).foldl (fun map key => map.insert key badge) badgeMap

/-- `change_security`. -/
def changeSecurity (env : Env Key) : HostM Key D Unit := do
  if (0 : UInt8) = (← readFrom ENABLE_MINT_BURN) then
    revert .MintBurnDisabled
  else
    secCheck env [.Admin]
    let adminList : Option (List Key) ←
      getOptionalNamedArgWithUserErrors env ADMIN_LIST .InvalidAdminList
    let minterList : Option (List Key) ←
      getOptionalNamedArgWithUserErrors env MINTER_LIST .InvalidMinterList
    let noneList : Option (List Key) ←
      getOptionalNamedArgWithUserErrors env NONE_LIST .InvalidNoneList
    -- later insertions overwrite earlier ones
    let badgeMap : BTreeMap Key SecurityBadge := .new
    let badgeMap := insertAll minterList .Minter badgeMap
    let badgeMap := insertAll adminList .Admin badgeMap
    let badgeMap := insertAll noneList .None badgeMap
    let caller ← unwrapOrRevert (getImmediateCallerAddress env)
    let badgeMap := badgeMap.remove caller
    changeSecBadge badgeMap
    recordEventDictionary
      (.ChangeSecurity (← unwrapOrRevert (getImmediateCallerAddress env)) badgeMap)

/-! ### Calls and runs -/

/-- Runs an entry point; what `runtime::ret` hands back is its value. -/
def invoke (entryPoint : EntryPoint) (env : Env Key) : HostM Key D CLValue :=
  match entryPoint with
  | .init => init env *> pure .unit
  | .name => CLTyped.fromT <$> name
  | .symbol => CLTyped.fromT <$> symbol
  | .decimals => CLTyped.fromT <$> decimals
  | .totalSupply => CLTyped.fromT <$> totalSupply
  | .balanceOf => CLTyped.fromT <$> balanceOf env
  | .transfer => transfer env *> pure .unit
  | .approve => approve env *> pure .unit
  | .allowance => CLTyped.fromT <$> allowance env
  | .decreaseAllowance => decreaseAllowance env *> pure .unit
  | .increaseAllowance => increaseAllowance env *> pure .unit
  | .transferFrom => transferFrom env *> pure .unit
  | .changeSecurity => changeSecurity env *> pure .unit
  | .burn => burn env *> pure .unit
  | .mint => mint env *> pure .unit

/-- A call of an entry point, by anyone and with any arguments. -/
structure Call (Key : Type) where
  entryPoint : EntryPoint
  env : Env Key

/-- The program a call runs. -/
def Call.program (c : Call Key) : HostM Key D CLValue := invoke c.entryPoint c.env

/-- The call succeeds in `s`. -/
def Call.Succeeds (c : Call Key) (s : Store Key D) : Prop := Program.Succeeds c.program s

instance (c : Call Key) (s : Store Key D) : Decidable (c.Succeeds s) :=
  inferInstanceAs (Decidable (Program.Succeeds c.program s))

/-- The effect of a call; a reverted call has none. -/
def exec (s : Store Key D) (c : Call Key) : Store Key D := commit c.program s

/-- The effect of a list of calls, in order. -/
def run (s : Store Key D) (calls : List (Call Key)) : Store Key D := calls.foldl exec s

theorem run_append (s : Store Key D) (calls later : List (Call Key)) :
    run s (calls ++ later) = run (run s calls) later := List.foldl_append

end Cep18
