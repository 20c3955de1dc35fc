import Cep18.Lib.Ledger
import Cep18.Model.EntryPoints

/-!
# The abstract token

What the contract is for, in exact numbers and with no storage: a ledger, a table of
security badges, two modalities and a log of events, all indexed by keys. `step` says
when an operation is refused, with which error, and what it does otherwise. The
operations carry the identity of the caller and their arguments; an entry point's call
comes down to one of them (`Call.op?`) once its caller is known and its arguments are
well formed.
-/

namespace Cep18

open Checked Constants

/-- The abstract token. -/
structure Token (A : Type) [LinearOrder A] extends Ledger A where
  name : String
  symbol : String
  decimals : UInt8
  badges : A → Option SecurityBadge
  enableMintBurn : UInt8
  eventsMode : EventsMode
  log : List (Event A)

/-- The operations, with the caller's identity first. -/
inductive Op (A : Type) where
  | query
  | init
  | approve (owner spender : A) (amount : U256)
  | decreaseAllowance (owner spender : A) (amount : U256)
  | increaseAllowance (owner spender : A) (amount : U256)
  | transfer (sender recipient : A) (amount : U256)
  | transferFrom (spender owner recipient : A) (amount : U256)
  | mint (caller owner : A) (amount : U256)
  | burn (caller owner : A) (amount : U256)
  | changeSecurity (caller : A) (adminList minterList noneList : Option (List A))

/-- What an installation is given. -/
structure Config (A : Type) where
  installer : A
  name : String
  symbol : String
  decimals : UInt8
  totalSupply : U256
  eventsMode : EventsMode
  enableMintBurn : UInt8
  adminList : Option (List A)
  minterList : Option (List A)

namespace Token

section Step

variable {A : Type} [LinearOrder A]

/-- The token with another ledger. -/
def withLedger (T : Token A) (L : Ledger A) : Token A := { T with toLedger := L }

/-- Appends to the log, if the token keeps one. -/
def record (T : Token A) (event : Event A) : Token A :=
  { T with log := T.log ++ if T.eventsMode = .CES then [event] else [] }

/-- The badge changes a call of `change_security` asks for: no change for the caller, else
the strongest list naming the key. -/
def secChangeMap (caller : A) (adminList minterList noneList : Option (List A)) :
    BTreeMap A SecurityBadge :=
  (insertAll noneList .None (insertAll adminList .Admin (insertAll minterList .Minter .new))).remove
    caller

/-- Applies badge changes. -/
def setBadges (T : Token A) (changes : BTreeMap A SecurityBadge) : Token A :=
  { T with badges := fun a => (changes.get a).or (T.badges a) }

/-- What an operation does, or the error it is refused with. -/
def step (T : Token A) : Op A → Except Cep18Error (Token A)
  | .query => .ok T
  | .init => .error .AlreadyInitialized
  | .approve owner spender amount =>
    if spender = owner then .error .CannotTargetSelfUser
    else .ok (T.withLedger (T.setAllowance owner spender amount.toNat)
      |>.record (.SetAllowance owner spender amount))
  | .decreaseAllowance owner spender amount =>
    if spender = owner then .error .CannotTargetSelfUser
    else
      -- at most down to zero
      let new := T.allowances owner spender - amount.toNat
      .ok (T.withLedger (T.setAllowance owner spender new)
        |>.record (.DecreaseAllowance owner spender (BitVec.ofNat 256 new) amount))
  | .increaseAllowance owner spender amount =>
    if spender = owner then .error .CannotTargetSelfUser
    else
      -- at most up to the largest word
      let new := min (T.allowances owner spender + amount.toNat) U256.MAX
      .ok (T.withLedger (T.setAllowance owner spender new)
        |>.record (.IncreaseAllowance owner spender (BitVec.ofNat 256 new) amount))
  | .transfer sender recipient amount =>
    if sender = recipient then .error .CannotTargetSelfUser
    else if T.balances sender < amount.toNat then .error .InsufficientBalance
    else if U256.MAX < T.balances recipient + amount.toNat then .error .Overflow
    else .ok (T.withLedger (T.move sender recipient amount.toNat)
      |>.record (.Transfer sender recipient amount))
  | .transferFrom spender owner recipient amount =>
    if owner = recipient then .error .CannotTargetSelfUser
    -- nothing is moved, spent or recorded
    else if amount = 0 then .ok T
    else if T.allowances owner spender < amount.toNat then .error .InsufficientAllowance
    else if T.balances owner < amount.toNat then .error .InsufficientBalance
    else if U256.MAX < T.balances recipient + amount.toNat then .error .Overflow
    else .ok (T.withLedger ((T.move owner recipient amount.toNat).setAllowance owner spender
        (T.allowances owner spender - amount.toNat))
      |>.record (.TransferFrom spender owner recipient amount))
  | .mint caller owner amount =>
    if T.enableMintBurn = 0 then .error .MintBurnDisabled
    else if T.badges caller ≠ some .Admin ∧ T.badges caller ≠ some .Minter then
      .error .InsufficientRights
    else if U256.MAX < T.balances owner + amount.toNat then .error .Overflow
    else if U256.MAX < T.totalSupply + amount.toNat then .error .Overflow
    else .ok (T.withLedger (T.issue owner amount.toNat) |>.record (.Mint owner amount))
  | .burn caller owner amount =>
    if T.enableMintBurn = 0 then .error .MintBurnDisabled
    else if owner ≠ caller then .error .InvalidBurnTarget
    else if T.balances owner < amount.toNat then .error .InsufficientBalance
    else if T.totalSupply < amount.toNat then .error .Overflow
    else .ok (T.withLedger (T.retire owner amount.toNat) |>.record (.Burn owner amount))
  | .changeSecurity caller adminList minterList noneList =>
    if T.enableMintBurn = 0 then .error .MintBurnDisabled
    else if T.badges caller ≠ some .Admin then .error .InsufficientRights
    else
      let changes := secChangeMap caller adminList minterList noneList
      .ok (T.setBadges changes |>.record (.ChangeSecurity caller changes))

/-- The effect of an operation; a refused one has none, and neither has a call that comes
down to no operation. -/
def exec (T : Token A) (op : Option (Op A)) : Token A :=
  match op with
  | none => T
  | some op =>
    match T.step op with
    | .ok T' => T'
    | .error _ => T

end Step

end Token

/-- The token as installed: the installer holds the whole supply and, with no list naming
it, the first Admin badge; the lists are gone through minters first. -/
def Config.token {A : Type} [LinearOrder A] (c : Config A) : Token A :=
  Token.record {
    balances := Function.update (fun _ => 0) c.installer c.totalSupply.toNat
    allowances := fun _ _ => 0
    totalSupply := c.totalSupply.toNat
    name := c.name
    symbol := c.symbol
    decimals := c.decimals
    badges := fun a =>
      if a ∈ c.adminList.getD [] then some .Admin
      else if a ∈ c.minterList.getD [] then some .Minter
      else if a = c.installer then some .Admin else none
    enableMintBurn := c.enableMintBurn
    eventsMode := c.eventsMode
    log := [] } (.Mint c.installer c.totalSupply)

variable {Key : Type} [CasperKey Key]

/-- A well-formed named argument. -/
def Env.arg? (T : Type) [FromArg Key T] (env : Env Key) (name : String) : Option T :=
  (env.args name).bind FromArg.fromArg

/-- A named argument that may be missing, but not malformed. -/
def Env.optArg? (T : Type) [FromArg Key T] (env : Env Key) (name : String) : Option (Option T) :=
  match env.args name with
  | none => some none
  | some arg => (FromArg.fromArg arg).map some

/-- The identity of the immediate caller, if the call stack has one. -/
def Env.callerIdentity (env : Env Key) : Option Key :=
  (getImmediateCallerAddress env).toOption

/-- What an installation session is given, if its arguments are well formed and its events
mode is known. -/
def Env.config? (env : Env Key) (name : String) : Option (Config Key) := do
  let symbol ← env.arg? String SYMBOL
  let decimals ← env.arg? UInt8 DECIMALS
  let totalSupply ← env.arg? U256 TOTAL_SUPPLY
  let eventsMode ← env.optArg? UInt8 EVENTS_MODE
  let adminList ← env.optArg? (List Key) ADMIN_LIST
  let minterList ← env.optArg? (List Key) MINTER_LIST
  let enableMintBurn ← env.optArg? UInt8 ENABLE_MINT_BURN
  let eventsMode ← (EventsMode.tryFrom (eventsMode.getD 0)).toOption
  some {
    installer := ofAccount env.caller
    name, symbol, decimals, totalSupply, eventsMode
    enableMintBurn := enableMintBurn.getD 0
    adminList, minterList }

/-- What an installation is given, argument by argument. -/
structure Env.Gives (env : Env Key) (name : String) (c : Config Key) : Prop where
  installer : c.installer = ofAccount env.caller
  name : c.name = name
  symbol : env.arg? String SYMBOL = some c.symbol
  decimals : env.arg? UInt8 DECIMALS = some c.decimals
  totalSupply : env.arg? U256 TOTAL_SUPPLY = some c.totalSupply
  adminList : env.optArg? (List Key) ADMIN_LIST = some c.adminList
  minterList : env.optArg? (List Key) MINTER_LIST = some c.minterList
  eventsMode : ∃ m, env.optArg? UInt8 EVENTS_MODE = some m ∧
    EventsMode.tryFrom (m.getD 0) = .ok c.eventsMode
  enableMintBurn : ∃ flag, env.optArg? UInt8 ENABLE_MINT_BURN = some flag ∧
    c.enableMintBurn = flag.getD 0

theorem Env.gives_of_config? {env : Env Key} {name : String} {c : Config Key}
    (h : env.config? name = some c) : env.Gives name c := by
  simp only [Env.config?, Option.bind_eq_bind, Option.bind_eq_some_iff] at h
  obtain ⟨symbol, h1, decimals, h2, supply, h3, m, h4, admins, h5, minters, h6, flag, h7, mode, h8,
    ⟨⟩⟩ := h
  have hmode : EventsMode.tryFrom (m.getD 0) = .ok mode := by
    cases he : EventsMode.tryFrom (m.getD 0) with
    | error e => rw [he] at h8; cases h8
    | ok mode' => rw [he] at h8; cases h8; rfl
  exact ⟨rfl, rfl, h1, h2, h3, h5, h6, ⟨m, h4, hmode⟩, ⟨flag, h7, rfl⟩⟩

/-- The operation a call comes down to, if its caller is known and its arguments are well
formed. -/
def Call.op? (c : Call Key) : Option (Op Key) :=
  match c.entryPoint with
  | .init => some .init
  | .name | .symbol | .decimals | .totalSupply => some .query
  | .balanceOf => do
    let _ ← c.env.arg? Key ADDRESS
    some .query
  | .allowance => do
    let _ ← c.env.arg? Key SPENDER
    let _ ← c.env.arg? Key OWNER
    some .query
  | .approve => do
    let owner ← c.env.callerIdentity
    let spender ← c.env.arg? Key SPENDER
    let amount ← c.env.arg? U256 AMOUNT
    some (.approve owner spender amount)
  | .decreaseAllowance => do
    let owner ← c.env.callerIdentity
    let spender ← c.env.arg? Key SPENDER
    let amount ← c.env.arg? U256 AMOUNT
    some (.decreaseAllowance owner spender amount)
  | .increaseAllowance => do
    let owner ← c.env.callerIdentity
    let spender ← c.env.arg? Key SPENDER
    let amount ← c.env.arg? U256 AMOUNT
    some (.increaseAllowance owner spender amount)
  | .transfer => do
    let sender ← c.env.callerIdentity
    let recipient ← c.env.arg? Key RECIPIENT
    let amount ← c.env.arg? U256 AMOUNT
    some (.transfer sender recipient amount)
  | .transferFrom => do
    let spender ← c.env.callerIdentity
    let recipient ← c.env.arg? Key RECIPIENT
    let owner ← c.env.arg? Key OWNER
    let amount ← c.env.arg? U256 AMOUNT
    some (.transferFrom spender owner recipient amount)
  | .mint => do
    let caller ← c.env.callerIdentity
    let owner ← c.env.arg? Key OWNER
    let amount ← c.env.arg? U256 AMOUNT
    some (.mint caller owner amount)
  | .burn => do
    let owner ← c.env.arg? Key OWNER
    let caller ← c.env.callerIdentity
    let amount ← c.env.arg? U256 AMOUNT
    some (.burn caller owner amount)
  | .changeSecurity => do
    let caller ← c.env.callerIdentity
    let adminList ← c.env.optArg? (List Key) ADMIN_LIST
    let minterList ← c.env.optArg? (List Key) MINTER_LIST
    let noneList ← c.env.optArg? (List Key) NONE_LIST
    some (.changeSecurity caller adminList minterList noneList)

end Cep18
