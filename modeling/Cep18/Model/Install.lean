import Cep18.Model.EntryPoints

/-!
# Installing and upgrading

The session code of `main.rs`: `call` installs a token under a name, or upgrades the
one it finds there. It runs in the context of an account, whose named keys it reads
and writes; `callContract` switches to the context of a contract.

A `Deployment` is a token as a successful `install_contract` leaves it, seen from the
contract's own context: the starting point of every run of calls.
-/

namespace Cep18

open Constants

variable {Key : Type} [CasperKey Key] {D : ItemKeys Key}

/-- The contract is an enabled version of its package. -/
def Store.isEnabled (s : Store Key D) (package contract : HashAddr) : Bool :=
  match s.packages package with
  | some p => p.versions.any fun v => v.contract = contract && v.enabled
  | none => false

/-- `runtime::call_contract`: runs an entry point of a contract in that contract's context,
one frame deeper. -/
def callContract (env : Env Key) (contractHash : HashAddr) (entryPoint : EntryPoint)
    (args : RuntimeArgs Key) : HostM Key D CLValue := fun s =>
  match s.contracts contractHash with
  | none => .error .host s
  | some c =>
    if entryPoint ∈ c.entryPoints ∧ s.isEnabled c.package contractHash then
      let callee : Env Key := { env with
        callStack := env.callStack ++ [.StoredContract c.package contractHash]
        args := args }
      -- back in the caller's context; what the callee put stays with its contract
      let leave (s' : Store Key D) : Store Key D := { s' with
        named := s.named
        contracts := Function.update s'.contracts contractHash
          (some { c with namedKeys := s'.named }) }
      match (invoke entryPoint callee).run { s with named := c.namedKeys } with
      | .ok value s' => .ok value (leave s')
      | .error e s' => .error e (leave s')
    else .error .host s

/-- `upgrade`. -/
def upgrade (name : String) : HostM Key D Unit := do
  let entryPoints := generateEntryPoints
  let packageKey ← unwrapOrRevertWith .none (← getKey (HASH_KEY_NAME_PREFIX ++ name))
  let contractPackageHash ←
    unwrapOrRevertWith (Cep18Error.toApi .MissingPackageHashForUpgrade) (intoHash packageKey)
  let contractKey ← unwrapOrRevertWith .none (← getKey (CONTRACT_NAME_PREFIX ++ name))
  let previousContractHash ←
    unwrapOrRevertWith (Cep18Error.toApi .MissingPackageHashForUpgrade) (intoHash contractKey)
  -- no named keys of its own: the new version takes over those of the current one
  let (contractHash, contractVersion) ←
    addContractVersion contractPackageHash entryPoints (fun _ => none)
  disableContractVersion contractPackageHash previousContractHash
  putKey (CONTRACT_NAME_PREFIX ++ name) (ofHash contractHash)
  putKey (CONTRACT_VERSION_PREFIX ++ name) (ofURef (← newURef contractVersion))

/-- The arguments `install_contract` passes to `init`. -/
def initArgs (totalSupply : U256) (packageHash : Key) (adminList minterList : Option (List Key)) :
    RuntimeArgs Key := fun arg =>
  if arg = TOTAL_SUPPLY then some { asU256 := some totalSupply }
  else if arg = PACKAGE_HASH then some { asKey := some packageHash }
  else if arg = ADMIN_LIST then adminList.map fun list => { asKeys := some list }
  else if arg = MINTER_LIST then minterList.map fun list => { asKeys := some list }
  else none

/-- `install_contract`. -/
def installContract (env : Env Key) (name : String) : HostM Key D Unit := do
  let symbol : String ← getNamedArg env SYMBOL
  let decimals : UInt8 ← getNamedArg env DECIMALS
  let totalSupply : U256 ← getNamedArg env TOTAL_SUPPLY
  let eventsMode : Option UInt8 ←
    getOptionalNamedArgWithUserErrors env EVENTS_MODE .InvalidEventsMode
  let eventsMode := eventsMode.getD 0
  let adminList : Option (List Key) ←
    getOptionalNamedArgWithUserErrors env ADMIN_LIST .InvalidAdminList
  let minterList : Option (List Key) ←
    getOptionalNamedArgWithUserErrors env MINTER_LIST .InvalidMinterList
  let enableMintBurn : Option UInt8 ←
    getOptionalNamedArgWithUserErrors env ENABLE_MINT_BURN .InvalidEnableMBFlag
  let enableMintBurn := enableMintBurn.getD 0
  let namedKeys : NamedKeys Key := fun _ => none
  let namedKeys := Function.update namedKeys NAME (some (ofURef (← newURef name)))
  let namedKeys := Function.update namedKeys SYMBOL (some (ofURef (← newURef symbol)))
  let namedKeys := Function.update namedKeys DECIMALS (some (ofURef (← newURef decimals)))
  let namedKeys := Function.update namedKeys TOTAL_SUPPLY (some (ofURef (← newURef totalSupply)))
  let namedKeys := Function.update namedKeys EVENTS_MODE (some (ofURef (← newURef eventsMode)))
  let namedKeys :=
    Function.update namedKeys ENABLE_MINT_BURN (some (ofURef (← newURef enableMintBurn)))
  let hashKeyName := HASH_KEY_NAME_PREFIX ++ name
  let (contractHash, contractVersion) ←
    newContract generateEntryPoints namedKeys hashKeyName (ACCESS_KEY_NAME_PREFIX ++ name)
  -- read back through the named key that `newContract` has put
  let packageHash ← unwrapOrRevertWith .none (← getKey hashKeyName)
  putKey (CONTRACT_NAME_PREFIX ++ name) (ofHash contractHash)
  putKey (CONTRACT_VERSION_PREFIX ++ name) (ofURef (← newURef contractVersion))
  let _ ← callContract env contractHash .init
    (initArgs totalSupply packageHash adminList minterList)

/-- `call`. -/
def call (env : Env Key) : HostM Key D Unit := do
  let name : String ← getNamedArg env NAME
  -- whatever the key holds, that it is there is taken to mean that `name` is installed
  match ← getKey (ACCESS_KEY_NAME_PREFIX ++ name) with
  | some _ => upgrade name
  | none => installContract env name

/-- The store in the context of the contract that an account knows as `name`. -/
def Store.enter (s : Store Key D) (name : String) : Option (Store Key D) := do
  let key ← s.named (CONTRACT_NAME_PREFIX ++ name)
  let contractHash ← intoHash key
  let contract ← s.contracts contractHash
  some { s with named := contract.namedKeys }

/-- What a successful installation leaves, in the context of the new contract. -/
def deploy (env : Env Key) (name : String) (before : Store Key D) : Option (Store Key D) :=
  match (installContract env name).run before with
  | .ok _ s => s.enter name
  | .error _ _ => none

/-- **An installed token**: the session's environment and the store it started from, and
the store its installation left, in the context of the new contract. -/
structure Deployment (Key : Type) [CasperKey Key] (D : ItemKeys Key) where
  env : Env Key
  name : String
  before : Store Key D
  store : Store Key D
  deployed : deploy env name before = some store

/-- The store after a list of calls to an installed token. -/
def Deployment.after (d : Deployment Key D) (calls : List (Call Key)) : Store Key D :=
  run d.store calls

theorem Deployment.after_append (d : Deployment Key D) (calls later : List (Call Key)) :
    d.after (calls ++ later) = run (d.after calls) later := run_append d.store calls later

end Cep18
