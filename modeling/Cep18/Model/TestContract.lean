import Cep18.Model.Install

/-!
# The test contract

`cep18-test-contract/src/main.rs`: a contract that calls a token. Three of its entry points
ask the token something and keep the answer, under one named key; the other three pass a
call on. Its code runs in its own context, with the arguments its caller gave it, and
packs those for the token anew.
-/

namespace Cep18

namespace TestContract

open Constants

def TOKEN_CONTRACT := "token_contract"
def RESULT_KEY := "result"

/-- The entry points of the test contract. -/
inductive EntryPoint where
  | checkTotalSupply | checkBalanceOf | checkAllowanceOf
  | transferAsStoredContract | approveAsStoredContract | transferFromAsStoredContract
  deriving DecidableEq, Repr

variable {Key : Type} [CasperKey Key] {D : ItemKeys Key}

/-- `store_result`. -/
def storeResult {T : Type} [CLTyped T] (result : T) : HostM Key D Unit := do
  match ← getKey RESULT_KEY with
  | some key =>
    match intoURef key with
    | some uref => write uref result
    -- `unreachable!()`: the execution engine traps
    | none => throw .host
  | none =>
    let newUref ← newURef result
    putKey RESULT_KEY (ofURef newUref)

/-- `ContractHash::new(get_named_arg::<Key>(..).into_hash().unwrap_or_revert())`: every entry
point starts with it. -/
def tokenContract (env : Env Key) : HostM Key D HashAddr := do
  let key : Key ← getNamedArg env TOKEN_CONTRACT
  unwrapOrRevertWith .none (intoHash key)

/-- `runtime::call_contract::<T>`: what the callee returns is deserialized. -/
def callContractAs (T : Type) [CLTyped T] (env : Env Key) (contractHash : HashAddr)
    (entryPoint : Cep18.EntryPoint) (args : RuntimeArgs Key) : HostM Key D T := do
  let value ← callContract env contractHash entryPoint args
  unwrapOrRevertWith .bytesrepr (CLTyped.intoT value)

/-- `check_total_supply`. -/
def checkTotalSupply (env : Env Key) : HostM Key D Unit := do
  let tokenContract ← tokenContract env
  let totalSupply ← callContractAs U256 env tokenContract .totalSupply (runtimeArgs [])
  storeResult totalSupply

/-- `check_balance_of`. -/
def checkBalanceOf (env : Env Key) : HostM Key D Unit := do
  let tokenContract ← tokenContract env
  let address : Key ← getNamedArg env ADDRESS
  let balanceArgs := runtimeArgs [(ADDRESS, .ofKey address)]
  let result ← callContractAs U256 env tokenContract .balanceOf balanceArgs
  storeResult result

/-- `check_allowance_of`. -/
def checkAllowanceOf (env : Env Key) : HostM Key D Unit := do
  let tokenContract ← tokenContract env
  let owner : Key ← getNamedArg env OWNER
  let spender : Key ← getNamedArg env SPENDER
  let allowanceArgs := runtimeArgs [(OWNER, .ofKey owner), (SPENDER, .ofKey spender)]
  let result ← callContractAs U256 env tokenContract .allowance allowanceArgs
  storeResult result

/-- `transfer_as_stored_contract`. -/
def transferAsStoredContract (env : Env Key) : HostM Key D Unit := do
  let tokenContract ← tokenContract env
  let recipient : Key ← getNamedArg env RECIPIENT
  let amount : U256 ← getNamedArg env AMOUNT
  let transferArgs := runtimeArgs [(RECIPIENT, .ofKey recipient), (AMOUNT, .ofU256 amount)]
  callContractAs Unit env tokenContract .transfer transferArgs

/-- `transfer_from_as_stored_contract`. -/
def transferFromAsStoredContract (env : Env Key) : HostM Key D Unit := do
  let tokenContract ← tokenContract env
  let owner : Key ← getNamedArg env OWNER
  let recipient : Key ← getNamedArg env RECIPIENT
  let amount : U256 ← getNamedArg env AMOUNT
  let transferFromArgs := runtimeArgs
    [(OWNER, .ofKey owner), (RECIPIENT, .ofKey recipient), (AMOUNT, .ofU256 amount)]
  callContractAs Unit env tokenContract .transferFrom transferFromArgs

/-- `approve_as_stored_contract`. -/
def approveAsStoredContract (env : Env Key) : HostM Key D Unit := do
  let tokenContract ← tokenContract env
  let spender : Key ← getNamedArg env SPENDER
  let amount : U256 ← getNamedArg env AMOUNT
  let approveArgs := runtimeArgs [(SPENDER, .ofKey spender), (AMOUNT, .ofU256 amount)]
  callContractAs Unit env tokenContract .approve approveArgs

/-- Runs an entry point. -/
def invoke (entryPoint : EntryPoint) (env : Env Key) : HostM Key D Unit :=
  match entryPoint with
  | .checkTotalSupply => checkTotalSupply env
  | .checkBalanceOf => checkBalanceOf env
  | .checkAllowanceOf => checkAllowanceOf env
  | .transferAsStoredContract => transferAsStoredContract env
  | .approveAsStoredContract => approveAsStoredContract env
  | .transferFromAsStoredContract => transferFromAsStoredContract env

end TestContract

end Cep18
