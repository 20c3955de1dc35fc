import Cep18.Lib.Encoding
import Cep18.Model.EntryPoints

/-!
# The JavaScript client

`CEP18Client.ts`, as far as it decides what the contract is asked: `changeSecurity` builds
the arguments of a deploy, which reaches the contract as a call by the sender's account.
`balanceOf` and `allowances` query the contract's dictionaries directly, under item keys
of their own making; the libraries they rest on are a parameter (`ClientLibraries`).
-/

namespace Cep18

open Decoder Encoding

variable {Key : Type}

/-- `ChangeSecurityArgs`. -/
structure ChangeSecurityArgs (Key : Type) where
  adminList : Option (List Key) := none
  minterList : Option (List Key) := none
  burnerList : Option (List Key) := none
  mintAndBurnList : Option (List Key) := none
  noneList : Option (List Key) := none

/-- `runtimeArgs.insert`, of a list that was given. -/
def insertList (name : String) (list : Option (List Key)) (runtimeArgs : List (String × List Key)) :
    List (String × List Key) :=
  match list with
  | some list => runtimeArgs ++ [(name, list)]
  | none => runtimeArgs

/-- The named arguments of a deploy that carries lists of keys. -/
def listArgs (runtimeArgs : List (String × List Key)) : RuntimeArgs Key := fun name =>
  (runtimeArgs.find? (·.1 = name)).map fun p => { asKeys := some p.2 }

/-- `callEntrypoint`: the call that a deploy signed by `sender` comes to. -/
def callEntrypoint (contractPackageHash contractHash : HashAddr) (entryPoint : EntryPoint)
    (runtimeArgs : RuntimeArgs Key) (sender : AccountHash) : Call Key where
  entryPoint := entryPoint
  env := {
    callStack := [.Session sender, .StoredContract contractPackageHash contractHash]
    caller := sender
    args := runtimeArgs }

/-! ### Queries -/

/-- What the client can throw: an `Error`, by its `toString`, or anything else. -/
inductive Thrown where
  | error (text : String)
  | other
  deriving DecidableEq, Repr

/-- `String.includes`. -/
def includes (text part : String) : Bool := decide (part.toList <:+: text.toList)

/-- What the client calls of `casper-js-sdk` and `@noble/hashes`: the bytes of a `CLKey`, the
hash with a length of output, and the query of a dictionary of the contract by name. -/
structure ClientLibraries (Key : Type) where
  toBytes : Key → Bytes
  blake2b : Bytes → ℕ → Bytes
  queryContractDictionary : String → String → Except Thrown CLValue

/-- `new Uint8Array(length)`. -/
def newUint8Array (length : ℕ) : Bytes := List.replicate length 0

/-- `target.set(source, offset)`. -/
def setBytes (target source : Bytes) (offset : ℕ) : Except Thrown Bytes :=
  if offset + source.length ≤ target.length then
    .ok (target.take offset ++ source ++ target.drop (offset + source.length))
  else .error (.error "RangeError: offset is out of bounds")

/-- `(value as CLU256).value()`. -/
def CLValue.asU256 : CLValue → Except Thrown ℕ
  | .u256 value => .ok value.toNat
  -- the cast itself is unchecked; a value of another type has no number to give
  | _ => .error .other

/-- The query that `balanceOf` and `allowances` make in the same way: an item that is missing
counts as zero. -/
def queryNumber (lib : ClientLibraries Key) (dictionaryName dictKey : String) :
    Except Thrown ℕ :=
  match lib.queryContractDictionary dictionaryName dictKey >>= CLValue.asU256 with
  | .ok number => .ok number
  | .error (.error text) =>
    if includes text "Error: Query failed" then .ok 0 else .error (.error text)
  | .error .other => .error .other

namespace CEP18Client

/-- `balanceOf`. -/
def balanceOf (lib : ClientLibraries Key) (account : Key) : Except Thrown ℕ :=
  let keyBytes := lib.toBytes account
  let dictKey := encodeBase64 keyBytes
  queryNumber lib "balances" dictKey

/-- `allowances`. -/
def allowances (lib : ClientLibraries Key) (owner spender : Key) : Except Thrown ℕ := do
  let keyOwner := lib.toBytes owner
  let keySpender := lib.toBytes spender
  let finalBytes := newUint8Array (keyOwner.length + keySpender.length)
  let finalBytes ← setBytes finalBytes keyOwner 0
  let finalBytes ← setBytes finalBytes keySpender keyOwner.length
  let blaked := lib.blake2b finalBytes 32
  let dictKey := encodeBase16 blaked
  queryNumber lib "allowances" dictKey

/-- `changeSecurity`. -/
def changeSecurity (contractPackageHash contractHash : HashAddr) (args : ChangeSecurityArgs Key)
    (sender : AccountHash) : Except String (Call Key) :=
  let runtimeArgs := []
  let runtimeArgs := insertList "admin_list" args.adminList runtimeArgs
  let runtimeArgs := insertList "minter_list" args.minterList runtimeArgs
  let runtimeArgs := insertList "burner_list" args.burnerList runtimeArgs
  let runtimeArgs := insertList "mint_and_burn_list" args.mintAndBurnList runtimeArgs
  let runtimeArgs := insertList "none_list" args.noneList runtimeArgs
  if runtimeArgs.length = 0 then .error "Should provide at least one arg"
  else .ok (callEntrypoint contractPackageHash contractHash .changeSecurity (listArgs runtimeArgs)
    sender)

end CEP18Client

end Cep18
