import Cep18.Lib.Checked
import Cep18.Lib.Decoder
import Mathlib.Order.Std
import Std.Data.ExtTreeMap

/-!
# Data types

The types of `casper-types` that the contract handles, as far as it looks into them
(`Key`, call-stack frames, named arguments, stored values), and its own: constants
(`constants.rs`), errors (`error.rs`), modalities (`modalities.rs`), security badges
(`utils.rs`) and events (`events.rs`).

32-byte addresses are 256-bit words. `Key` is a parameter: any type with the
constructors and projections of `CasperKey`. Dictionary items are addressed through
`ItemKeys`; the hosts considered keep different keys apart (`DistinctItemKeys`).
-/

namespace Cep18

open Decoder

abbrev U256 := BitVec 256

/-- `U256::MAX`. -/
def U256.MAX : ℕ := Checked.maxWord 256

abbrev AccountHash := BitVec 256

abbrev HashAddr := BitVec 256

/-- A URef, by its address. -/
abbrev URef := BitVec 256

/-- `casper_types::Key`, as far as the contract looks into it: three of its
constructors, `into_hash` and the conversion to a URef. Keys are ordered, as
`BTreeMap` needs them to be. -/
class CasperKey (Key : Type) extends LinearOrder Key where
  ofAccount : AccountHash → Key
  ofHash : HashAddr → Key
  ofURef : URef → Key
  intoHash : Key → Option HashAddr
  intoURef : Key → Option URef
  intoHash_ofHash : ∀ h, intoHash (ofHash h) = some h
  intoURef_ofURef : ∀ u, intoURef (ofURef u) = some u

export CasperKey (ofAccount ofHash ofURef intoHash intoURef)

attribute [simp] CasperKey.intoHash_ofHash CasperKey.intoURef_ofURef

/-- `alloc::collections::BTreeMap`. -/
abbrev BTreeMap (Key Val : Type) [LinearOrder Key] := Std.ExtTreeMap Key Val compare

namespace BTreeMap

variable {Key Val : Type} [LinearOrder Key]

def new : BTreeMap Key Val := ∅

def insert (map : BTreeMap Key Val) (key : Key) (value : Val) : BTreeMap Key Val :=
  Std.ExtTreeMap.insert map key value

def remove (map : BTreeMap Key Val) (key : Key) : BTreeMap Key Val := Std.ExtTreeMap.erase map key

def get (map : BTreeMap Key Val) (key : Key) : Option Val := Std.ExtTreeMap.get? map key

def len (map : BTreeMap Key Val) : ℕ := Std.ExtTreeMap.size map

/-- The entries, in the order of their keys. -/
def iter (map : BTreeMap Key Val) : List (Key × Val) := Std.ExtTreeMap.toList map

@[simp] theorem iter_length (map : BTreeMap Key Val) : map.iter.length = map.len :=
  Std.ExtTreeMap.length_toList

theorem iter_inj {map map' : BTreeMap Key Val} (h : map.iter = map'.iter) : map = map' :=
  Std.ExtTreeMap.toList_inj.1 h

theorem len_insert_new (key : Key) (value : Val) :
    (insert (new : BTreeMap Key Val) key value).len = 1 := by
  simp [len, insert, new, Std.ExtTreeMap.size_insert]

/-- A map with one entry is that entry, inserted into an empty one. -/
theorem eq_insert_new {map : BTreeMap Key Val} {key : Key} {value : Val}
    (h : map.iter = [(key, value)]) : map = insert new key value := by
  apply Std.ExtTreeMap.ext_getElem?
  intro k
  apply Option.ext
  intro v
  have hmem : (k, v) ∈ map.iter ↔ map[k]? = some v :=
    Std.ExtTreeMap.mem_toList_iff_getElem?_eq_some
  rw [← hmem, h, List.mem_singleton, insert, Std.ExtTreeMap.getElem?_insert]
  by_cases hk : key = k
  · subst hk; simp [eq_comm]
  · simp [hk, Ne.symm hk, new]

@[simp] theorem get_remove_self (map : BTreeMap Key Val) (key : Key) :
    (map.remove key).get key = none := Std.ExtTreeMap.getElem?_erase_self

end BTreeMap

/-- How the items of a dictionary are addressed: balances and badges by a key,
allowances by an owner and a spender. -/
structure ItemKeys (Key : Type) where
  Item : Type
  decItem : DecidableEq Item
  ofKey : Key → Item
  ofPair : Key → Key → Item

instance {Key : Type} (D : ItemKeys Key) : DecidableEq D.Item := D.decItem

/-- **Distinct keys use distinct dictionary items**, and so do distinct pairs of keys. -/
structure DistinctItemKeys (Key : Type) extends ItemKeys Key where
  ofKey_inj : ∀ k k', ofKey k = ofKey k' → k = k'
  ofPair_inj : ∀ o s o' s', ofPair o s = ofPair o' s' → o = o' ∧ s = s'

/-! ### Constants -/

namespace Constants

def NAME := "name"
def SYMBOL := "symbol"
def DECIMALS := "decimals"
def BALANCES := "balances"
def ALLOWANCES := "allowances"
def TOTAL_SUPPLY := "total_supply"

def HASH_KEY_NAME_PREFIX := "cep18_contract_package_"
def ACCESS_KEY_NAME_PREFIX := "cep18_contract_package_access_"
def CONTRACT_NAME_PREFIX := "cep18_contract_hash_"
def CONTRACT_VERSION_PREFIX := "cep18_contract_version_"

def ADDRESS := "address"
def OWNER := "owner"
def SPENDER := "spender"
def AMOUNT := "amount"
def RECIPIENT := "recipient"
def PACKAGE_HASH := "package_hash"
def EVENTS_MODE := "events_mode"
def SECURITY_BADGES := "security_badges"
def ADMIN_LIST := "admin_list"
def MINTER_LIST := "minter_list"
def NONE_LIST := "none_list"
def ENABLE_MINT_BURN := "enable_mint_burn"

/-- The named key under which the event standard keeps its dictionary of events. -/
def EVENTS_DICT := "__events"

end Constants

/-! ### Errors -/

/-- `Cep18Error`. -/
inductive Cep18Error where
  | InvalidContext
  | InsufficientBalance
  | InsufficientAllowance
  | Overflow
  | PackageHashMissing
  | PackageHashNotPackage
  | InvalidEventsMode
  | MissingEventsMode
  | Phantom
  | FailedToGetArgBytes
  | InsufficientRights
  | InvalidAdminList
  | InvalidMinterList
  | InvalidNoneList
  | InvalidEnableMBFlag
  | AlreadyInitialized
  | MintBurnDisabled
  | CannotTargetSelfUser
  | InvalidBurnTarget
  | MissingPackageHashForUpgrade
  deriving DecidableEq, Repr

/-- The discriminant of an error. -/
def Cep18Error.code : Cep18Error → ℕ
  | .InvalidContext => 60000
  | .InsufficientBalance => 60001
  | .InsufficientAllowance => 60002
  | .Overflow => 60003
  | .PackageHashMissing => 60004
  | .PackageHashNotPackage => 60005
  | .InvalidEventsMode => 60006
  | .MissingEventsMode => 60007
  | .Phantom => 60008
  | .FailedToGetArgBytes => 60009
  | .InsufficientRights => 60010
  | .InvalidAdminList => 60011
  | .InvalidMinterList => 60012
  | .InvalidNoneList => 60013
  | .InvalidEnableMBFlag => 60014
  | .AlreadyInitialized => 60015
  | .MintBurnDisabled => 60016
  | .CannotTargetSelfUser => 60017
  | .InvalidBurnTarget => 60018
  | .MissingPackageHashForUpgrade => 60019

/-- The errors a call can stop with: those of `casper_types::ApiError` that the
contract can meet, and `host` for an error of the execution engine itself. -/
inductive ApiError where
  | none
  | missingKey
  | missingArgument
  | invalidArgument
  | unexpectedKeyVariant
  | bytesrepr
  | user (code : ℕ)
  | host
  deriving DecidableEq, Repr

/-- `impl From<Cep18Error> for ApiError`. -/
def Cep18Error.toApi (e : Cep18Error) : ApiError := .user e.code

/-- Different errors of the contract reach its caller as different errors. -/
theorem Cep18Error.toApi_inj {e e' : Cep18Error} (h : e.toApi = e'.toApi) : e = e' := by
  have hc : e.code = e'.code := ApiError.user.inj h
  cases e <;> cases e' <;> first | rfl | (revert hc; decide)

/-! ### Modalities -/

/-- `EventsMode`. -/
inductive EventsMode where
  | NoEvents
  | CES
  deriving DecidableEq, Repr

/-- `impl TryFrom<u8> for EventsMode`. -/
def EventsMode.tryFrom (value : UInt8) : Except Cep18Error EventsMode :=
  if value = 0 then .ok .NoEvents
  else if value = 1 then .ok .CES
  else .error .InvalidEventsMode

/-- `MintBurn`. -/
inductive MintBurn where
  | Disabled
  | MintAndBurn
  deriving DecidableEq, Repr

/-- `impl TryFrom<u8> for MintBurn`. -/
def MintBurn.tryFrom (value : UInt8) : Except Cep18Error MintBurn :=
  if value = 0 then .ok .Disabled
  else if value = 1 then .ok .MintAndBurn
  else .error .InvalidEnableMBFlag

/-! ### Security badges -/

/-- `SecurityBadge`. -/
inductive SecurityBadge where
  | Admin
  | Minter
  | None
  deriving DecidableEq, Repr

/-- The errors of `bytesrepr`. -/
inductive BytesreprError where
  | EarlyEndOfStream
  | Formatting
  | LeftOverBytes
  | OutOfMemory
  deriving DecidableEq, Repr

/-- `*self as u8`. -/
def SecurityBadge.toU8 : SecurityBadge → UInt8
  | .Admin => 0
  | .Minter => 1
  | .None => 2

/-- `impl ToBytes for SecurityBadge`. -/
def SecurityBadge.toBytes (badge : SecurityBadge) : Bytes := [badge.toU8]

/-- `impl FromBytes for SecurityBadge`. -/
def SecurityBadge.fromBytes : Bytes → Decoded BytesreprError SecurityBadge
  -- `bytes[0]` is read unchecked
  | [] => .panic
  -- what is left is `&[]`, whatever follows the badge
  | b :: _ =>
    if b = 0 then .ok .Admin []
    else if b = 1 then .ok .Minter []
    else if b = 2 then .ok .None []
    else .err .LeftOverBytes

/-! ### Call stacks, arguments and stored values -/

/-- `CallStackElement`. -/
inductive CallStackElement where
  | Session (accountHash : AccountHash)
  | StoredSession (accountHash : AccountHash) (contractPackageHash contractHash : HashAddr)
  | StoredContract (contractPackageHash contractHash : HashAddr)
  deriving DecidableEq, Repr

/-- A named argument, as the contract can see it: what `bytesrepr::deserialize`
makes of its bytes at each type it is read at (`none` is an error). -/
structure Arg (Key : Type) where
  asKey : Option Key := none
  asU256 : Option U256 := none
  asU8 : Option UInt8 := none
  asString : Option String := none
  asKeys : Option (List Key) := none

/-- The types named arguments are read at. -/
class FromArg (Key : Type) (T : Type) where
  fromArg : Arg Key → Option T

instance (Key : Type) : FromArg Key Key := ⟨Arg.asKey⟩
instance (Key : Type) : FromArg Key U256 := ⟨Arg.asU256⟩
instance (Key : Type) : FromArg Key UInt8 := ⟨Arg.asU8⟩
instance (Key : Type) : FromArg Key String := ⟨Arg.asString⟩
instance (Key : Type) : FromArg Key (List Key) := ⟨Arg.asKeys⟩

/-- `RuntimeArgs`. -/
abbrev RuntimeArgs (Key : Type) := String → Option (Arg Key)

/-- An argument that is a key. -/
def Arg.ofKey {Key : Type} (k : Key) : Arg Key := { asKey := some k }

/-- An argument that is a number. -/
def Arg.ofU256 {Key : Type} (n : U256) : Arg Key := { asU256 := some n }

/-- An argument that is a byte. -/
def Arg.ofU8 {Key : Type} (n : UInt8) : Arg Key := { asU8 := some n }

/-- An argument that is a string. -/
def Arg.ofString {Key : Type} (text : String) : Arg Key := { asString := some text }

/-- `runtime_args!`. -/
def runtimeArgs {Key : Type} (args : List (String × Arg Key)) : RuntimeArgs Key := fun name =>
  (args.find? (·.1 = name)).map (·.2)

/-- What running code knows of its call: `get_call_stack` (its own frame last),
`get_caller` (the account that started the deploy) and its named arguments. -/
structure Env (Key : Type) where
  callStack : List CallStackElement
  caller : AccountHash
  args : RuntimeArgs Key

/-- A stored `CLValue`. -/
inductive CLValue where
  | unit
  | u8 (value : UInt8)
  | u32 (value : ℕ)
  | u256 (value : U256)
  | string (value : String)
  deriving DecidableEq, Repr

/-- `CLTyped + ToBytes + FromBytes`: the types the contract stores. A stored value
comes back as it was put. -/
class CLTyped (T : Type) where
  fromT : T → CLValue
  intoT : CLValue → Option T
  intoT_fromT : ∀ t, intoT (fromT t) = some t

attribute [simp] CLTyped.intoT_fromT

instance : CLTyped Unit where
  fromT _ := .unit
  intoT | .unit => some () | _ => none
  intoT_fromT _ := rfl

instance : CLTyped UInt8 where
  fromT := .u8
  intoT | .u8 v => some v | _ => none
  intoT_fromT _ := rfl

instance : CLTyped U256 where
  fromT := .u256
  intoT | .u256 v => some v | _ => none
  intoT_fromT _ := rfl

instance : CLTyped String where
  fromT := .string
  intoT | .string v => some v | _ => none
  intoT_fromT _ := rfl

/-- Version numbers: `u32` at the source, natural numbers here. -/
instance : CLTyped ℕ where
  fromT := .u32
  intoT | .u32 v => some v | _ => none
  intoT_fromT _ := rfl

/-- A badge is stored as the `u8` its `cl_type` says it is. -/
instance : CLTyped SecurityBadge where
  fromT badge := .u8 badge.toU8
  intoT
    | .u8 v => match SecurityBadge.fromBytes [v] with
      | .ok badge [] => some badge
      | _ => none
    | _ => none
  intoT_fromT badge := by cases badge <;> rfl

/-! ### Events -/

/-- `Event`, with the fields of the event structures. -/
inductive Event (Key : Type) [LinearOrder Key] where
  | Mint (recipient : Key) (amount : U256)
  | Burn (owner : Key) (amount : U256)
  | SetAllowance (owner spender : Key) (allowance : U256)
  | IncreaseAllowance (owner spender : Key) (allowance incBy : U256)
  | DecreaseAllowance (owner spender : Key) (allowance decrBy : U256)
  | Transfer (sender recipient : Key) (amount : U256)
  | TransferFrom (spender owner recipient : Key) (amount : U256)
  | ChangeSecurity (admin : Key) (secChangeMap : BTreeMap Key SecurityBadge)

/-! ### Entry points -/

/-- The entry points of the contract (`entry_points.rs`), all public. -/
inductive EntryPoint where
  | init | name | symbol | decimals | totalSupply | balanceOf | transfer | approve | allowance
  | decreaseAllowance | increaseAllowance | transferFrom | changeSecurity | burn | mint
  deriving DecidableEq, Repr

/-- `generate_entry_points`. -/
def generateEntryPoints : List EntryPoint :=
  [.init, .name, .symbol, .decimals, .totalSupply, .balanceOf, .transfer, .approve, .allowance,
    .decreaseAllowance, .increaseAllowance, .transferFrom, .changeSecurity, .burn, .mint]

end Cep18
