import Cep18.Lib.Program
import Cep18.Model.Types
import Mathlib.Logic.Function.Basic

/-!
# The Casper host

What running code can reach (`Store`): the named keys of its context, and the global
state of URefs, dictionaries, event logs, contracts and packages, all of them maps.
Code is a program over the store that may stop with an error (`HostM`) and is not
rolled back by itself.

Addresses come from a generator. A host whose generator repeats an address in use
fails, so a successful allocation is a fresh one. `writes` counts the writes made, so
a program that leaves the store as it was has written nothing at all.
-/

namespace Cep18

abbrev NamedKeys (Key : Type) := String → Option Key

/-- A stored contract. -/
structure Contract (Key : Type) where
  package : HashAddr
  namedKeys : NamedKeys Key
  entryPoints : List EntryPoint

structure ContractVersion where
  number : ℕ
  contract : HashAddr
  enabled : Bool
  deriving DecidableEq, Repr

/-- A contract package; its versions are listed oldest first. -/
structure ContractPackage where
  accessKey : URef
  versions : List ContractVersion
  deriving DecidableEq, Repr

/-- The latest enabled version. -/
def ContractPackage.current (p : ContractPackage) : Option ContractVersion :=
  p.versions.reverse.find? (·.enabled)

def ContractPackage.nextVersion (p : ContractPackage) : ℕ :=
  match p.versions.getLast? with
  | some v => v.number + 1
  | none => 1

/-- What running code can reach. -/
structure Store (Key : Type) [CasperKey Key] (D : ItemKeys Key) where
  named : NamedKeys Key
  values : URef → Option CLValue
  dicts : URef → Option (D.Item → Option CLValue)
  logs : URef → Option (List (Event Key))
  contracts : HashAddr → Option (Contract Key)
  packages : HashAddr → Option ContractPackage
  address : ℕ → BitVec 256
  next : ℕ
  writes : ℕ

/-- Code run by the host. -/
abbrev HostM (Key : Type) [CasperKey Key] (D : ItemKeys Key) := EStateM ApiError (Store Key D)

variable {Key : Type} [CasperKey Key] {D : ItemKeys Key} {α : Type}

/-- The URef `u` has been handed out. -/
def Store.inUse (s : Store Key D) (u : URef) : Bool :=
  (s.values u).isSome || (s.dicts u).isSome || (s.logs u).isSome

/-! ### `runtime` -/

/-- `runtime::revert`. -/
def revert (e : Cep18Error) : HostM Key D α := throw e.toApi

/-- `unwrap_or_revert_with`, on an option. -/
def unwrapOrRevertWith (e : ApiError) : Option α → HostM Key D α
  | some a => pure a
  | none => throw e

/-- `unwrap_or_revert`, on a result of the contract. -/
def unwrapOrRevert : Except Cep18Error α → HostM Key D α
  | .ok a => pure a
  | .error e => revert e

@[simp] theorem unwrapOrRevertWith_some (e : ApiError) (a : α) :
    (unwrapOrRevertWith e (some a) : HostM Key D α) = pure a := rfl

@[simp] theorem unwrapOrRevertWith_none (e : ApiError) :
    (unwrapOrRevertWith e none : HostM Key D α) = throw e := rfl

@[simp] theorem unwrapOrRevert_ok (a : α) :
    (unwrapOrRevert (.ok a) : HostM Key D α) = pure a := rfl

@[simp] theorem unwrapOrRevert_error (e : Cep18Error) :
    (unwrapOrRevert (.error e) : HostM Key D α) = revert e := rfl

/-- `runtime::get_key`. -/
def getKey (name : String) : HostM Key D (Option Key) := fun s => .ok (s.named name) s

/-- `runtime::put_key`. -/
def putKey (name : String) (key : Key) : HostM Key D Unit := fun s =>
  .ok () { s with named := Function.update s.named name (some key), writes := s.writes + 1 }

/-- `runtime::get_named_arg`. -/
def getNamedArg {T : Type} [FromArg Key T] (env : Env Key) (name : String) : HostM Key D T :=
  match env.args name with
  | none => throw .missingArgument
  | some arg =>
    match FromArg.fromArg arg with
    | some value => pure value
    | none => throw .invalidArgument

/-! ### `storage` -/

/-- `storage::new_uref`. -/
def newURef {T : Type} [CLTyped T] (init : T) : HostM Key D URef := fun s =>
  let u := s.address s.next
  -- a generator that repeats itself hands out no address
  if s.inUse u then .error .host s
  else .ok u { s with
    values := Function.update s.values u (some (CLTyped.fromT init))
    next := s.next + 1
    writes := s.writes + 1 }

/-- `storage::read`. -/
def read {T : Type} [CLTyped T] (u : URef) : HostM Key D (Option T) := fun s =>
  match s.values u with
  | none => .ok none s
  | some v =>
    match CLTyped.intoT v with
    | some t => .ok (some t) s
    | none => .error .bytesrepr s

/-- `storage::write`. -/
def write {T : Type} [CLTyped T] (u : URef) (value : T) : HostM Key D Unit := fun s =>
  .ok () { s with
    values := Function.update s.values u (some (CLTyped.fromT value))
    writes := s.writes + 1 }

/-- `storage::new_dictionary`: a new dictionary, under a named key not in use. -/
def newDictionary (name : String) : HostM Key D URef := fun s =>
  let u := s.address s.next
  if name = "" ∨ (s.named name).isSome then .error .invalidArgument s
  else if s.inUse u then .error .host s
  else .ok u { s with
    named := Function.update s.named name (some (ofURef u))
    dicts := Function.update s.dicts u (some fun _ => none)
    next := s.next + 1
    writes := s.writes + 1 }

/-- `storage::dictionary_get`. -/
def dictionaryGet {T : Type} [CLTyped T] (u : URef) (item : D.Item) : HostM Key D (Option T) :=
  fun s =>
    match s.dicts u with
    | none => .error .host s
    | some d =>
      match d item with
      -- an item never put is no error
      | none => .ok none s
      | some v =>
        match CLTyped.intoT v with
        | some t => .ok (some t) s
        | none => .error .bytesrepr s

/-- `storage::dictionary_put`. -/
def dictionaryPut {T : Type} [CLTyped T] (u : URef) (item : D.Item) (value : T) :
    HostM Key D Unit := fun s =>
  match s.dicts u with
  | none => .error .host s
  | some d => .ok () { s with
      dicts := Function.update s.dicts u
        (some (Function.update d item (some (CLTyped.fromT value))))
      writes := s.writes + 1 }

/-- A new contract package, with no version yet, and its access URef. -/
def createContractPackage : HostM Key D (HashAddr × URef) := fun s =>
  -- one address for the package, the next for its access URef
  let package := s.address s.next
  let access := s.address (s.next + 1)
  if (s.packages package).isSome || s.inUse access then .error .host s
  else .ok (package, access) { s with
    packages := Function.update s.packages package (some ⟨access, []⟩)
    values := Function.update s.values access (some .unit)
    next := s.next + 2
    writes := s.writes + 1 }

/-- `storage::add_contract_version`: adds an enabled version. Its named keys are those of
the latest enabled version, and `namedKeys` under the names that one does not have. -/
def addContractVersion (package : HashAddr) (entryPoints : List EntryPoint)
    (namedKeys : NamedKeys Key) : HostM Key D (HashAddr × ℕ) := fun s =>
  match s.packages package with
  | none => .error .host s
  | some p =>
    let hash := s.address s.next
    if (s.contracts hash).isSome then .error .host s
    else
      -- where both have a name, the key of the previous version stays
      let previous := (p.current.bind fun v => s.contracts v.contract)
      let keys : NamedKeys Key := fun name =>
        (previous.bind fun c => c.namedKeys name).or (namedKeys name)
      .ok (hash, p.nextVersion) { s with
        contracts := Function.update s.contracts hash (some ⟨package, keys, entryPoints⟩)
        packages := Function.update s.packages package
          (some { p with versions := p.versions ++ [⟨p.nextVersion, hash, true⟩] })
        next := s.next + 1
        writes := s.writes + 1 }

/-- `storage::new_contract`: puts the package hash and the access URef under their names,
then adds the first version. -/
def newContract (entryPoints : List EntryPoint) (namedKeys : NamedKeys Key)
    (hashName accessName : String) : HostM Key D (HashAddr × ℕ) := do
  let (package, access) ← createContractPackage
  putKey hashName (ofHash package)
  putKey accessName (ofURef access)
  addContractVersion package entryPoints namedKeys

/-- `storage::disable_contract_version`. -/
def disableContractVersion (package contract : HashAddr) : HostM Key D Unit := fun s =>
  match s.packages package with
  | none => .error .host s
  | some p =>
    if p.versions.any (·.contract = contract) then
      .ok () { s with
        packages := Function.update s.packages package (some { p with
          versions := p.versions.map fun v =>
            if v.contract = contract then { v with enabled := false } else v })
        writes := s.writes + 1 }
    else .error .host s

/-! ### `casper_event_standard` -/

/-- `casper_event_standard::init`: a new, empty event log under its named key. -/
def cesInit : HostM Key D Unit := fun s =>
  let u := s.address s.next
  if (s.named Constants.EVENTS_DICT).isSome || s.inUse u then .error .host s
  else .ok () { s with
    named := Function.update s.named Constants.EVENTS_DICT (some (ofURef u))
    logs := Function.update s.logs u (some [])
    next := s.next + 1
    writes := s.writes + 1 }

/-- `casper_event_standard::emit`: appends to the event log. -/
def emit (event : Event Key) : HostM Key D Unit := fun s =>
  match (s.named Constants.EVENTS_DICT).bind intoURef with
  | none => .error .host s
  | some u =>
    match s.logs u with
    | none => .error .host s
    | some log => .ok () { s with
        logs := Function.update s.logs u (some (log ++ [event]))
        writes := s.writes + 1 }

end Cep18
