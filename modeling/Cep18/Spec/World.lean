import Cep18.Model.TestContract
import Cep18.Spec.Upgrades

/-!
# Tokens side by side

One host, on which accounts install tokens and everyone calls them, directly or through the
test contract, in any order.

* `Deed`: one thing that happens there; `Deed.run` is the effect of a list of them.
* `Deed.request`: the call of a token that a deed comes to. A call that the test contract
  passes on is one of its own, with the arguments it was given (`TestContract.forwarded`).
* `Deed.callsTo`: the calls that reach one of the tokens.
* `Deed.kept`: what the test contract keeps of a deed.
* `NamedKeys.Uses`: the URefs that a token keeps its data in.
* `Store.NoContracts`: the host before anyone has installed anything.
* `Store.Respects`: what calls by one party leave to the others.
-/

namespace Cep18

open Program Constants

variable {Key : Type} [CasperKey Key] {D : ItemKeys Key}

/-! ### What a token uses -/

/-- The named keys that lead a token to its data. -/
def tokenNames : List String :=
  [NAME, SYMBOL, DECIMALS, TOTAL_SUPPLY, EVENTS_MODE, ENABLE_MINT_BURN, BALANCES, ALLOWANCES,
    SECURITY_BADGES, EVENTS_DICT]

/-- One of the named keys of a token leads to the URef. -/
def NamedKeys.Uses (named : NamedKeys Key) (u : URef) : Prop :=
  ∃ name ∈ tokenNames, (named name).bind intoURef = some u

/-- The two stores have the same at the URef. -/
structure Store.SameAt (u : URef) (s s' : Store Key D) : Prop where
  values : s'.values u = s.values u
  dicts : s'.dicts u = s.dicts u
  logs : s'.logs u = s.logs u

/-- **Nothing but what is kept at URefs of `U` has changed**, and what was in use still is. -/
structure Store.Confined (U : URef → Prop) (s s' : Store Key D) : Prop where
  named : s'.named = s.named
  contracts : s'.contracts = s.contracts
  packages : s'.packages = s.packages
  same : ∀ u, ¬ U u → s.SameAt u s'
  inUse : ∀ u, s.inUse u → s'.inUse u

/-- No contract is installed, and the test contract has no result yet. -/
structure Store.NoContracts (s : Store Key D) : Prop where
  contracts : ∀ h, s.contracts h = none
  result : s.named TestContract.RESULT_KEY = none

/-! ### What happens -/

/-- Where the test contract is. -/
structure TestContract.Hashes where
  package : HashAddr
  contract : HashAddr

/-- The test contract's own frame comes last while it runs. -/
def TestContract.Hashes.enter (self : TestContract.Hashes) (env : Env Key) : Env Key :=
  { env with callStack := env.callStack ++ [.StoredContract self.package self.contract] }

/-- An account with the named keys `account` installs a token, or anyone calls a token or the
test contract. -/
inductive Deed (Key : Type) where
  | install (account : NamedKeys Key) (env : Env Key) (name : String)
  | call (contract : HashAddr) (request : Request Key)
  | test (entryPoint : TestContract.EntryPoint) (env : Env Key)

/-- The effect of a deed on a store in the context of the test contract. -/
def Deed.perform (self : TestContract.Hashes) (s : Store Key D) : Deed Key → Store Key D
  | .install account env name =>
    { commit (installContract env name) { s with named := account } with named := s.named }
  | .call contract r => commit (callContract r.env contract r.entryPoint r.args) s
  | .test entryPoint env => commit (TestContract.invoke entryPoint (self.enter env)) s

/-- The effect of a list of deeds, in order. -/
def Deed.run (self : TestContract.Hashes) (s : Store Key D) (deeds : List (Deed Key)) :
    Store Key D :=
  deeds.foldl (Deed.perform self) s

/-- Anyone calls entry points of the test contract, one after the other. -/
def TestContract.calls (tests : List (TestContract.EntryPoint × Env Key)) : List (Deed Key) :=
  tests.map fun t => .test t.1 t.2

/-- The token that the test contract is told to call. -/
def TestContract.target (env : Env Key) : Option HashAddr :=
  (env.arg? Key TestContract.TOKEN_CONTRACT).bind intoHash

/-- What the test contract asks of the token: an entry point and its arguments, packed anew. -/
def TestContract.forwarded (entryPoint : TestContract.EntryPoint) (env : Env Key) :
    Option (Cep18.EntryPoint × RuntimeArgs Key) :=
  match entryPoint with
  | .checkTotalSupply => some (.totalSupply, runtimeArgs [])
  | .checkBalanceOf => do
    let address ← env.arg? Key ADDRESS
    some (.balanceOf, runtimeArgs [(ADDRESS, .ofKey address)])
  | .checkAllowanceOf => do
    let owner ← env.arg? Key OWNER
    let spender ← env.arg? Key SPENDER
    some (.allowance, runtimeArgs [(OWNER, .ofKey owner), (SPENDER, .ofKey spender)])
  | .transferAsStoredContract => do
    let recipient ← env.arg? Key RECIPIENT
    let amount ← env.arg? U256 AMOUNT
    some (.transfer, runtimeArgs [(RECIPIENT, .ofKey recipient), (AMOUNT, .ofU256 amount)])
  | .transferFromAsStoredContract => do
    let owner ← env.arg? Key OWNER
    let recipient ← env.arg? Key RECIPIENT
    let amount ← env.arg? U256 AMOUNT
    some (.transferFrom, runtimeArgs
      [(OWNER, .ofKey owner), (RECIPIENT, .ofKey recipient), (AMOUNT, .ofU256 amount)])
  | .approveAsStoredContract => do
    let spender ← env.arg? Key SPENDER
    let amount ← env.arg? U256 AMOUNT
    some (.approve, runtimeArgs [(SPENDER, .ofKey spender), (AMOUNT, .ofU256 amount)])

/-- The entry points that ask a token something and keep the answer. -/
def TestContract.EntryPoint.checks : TestContract.EntryPoint → Bool
  | .checkTotalSupply | .checkBalanceOf | .checkAllowanceOf => true
  | _ => false

/-- The number that the test contract asks a token for. -/
def TestContract.asked (entryPoint : TestContract.EntryPoint) (env : Env Key)
    (token : Store Key D) : Option U256 :=
  match entryPoint with
  | .checkTotalSupply => some token.totalSupply
  | .checkBalanceOf => do
    let address ← env.arg? Key ADDRESS
    some (token.balance address)
  | .checkAllowanceOf => do
    let owner ← env.arg? Key OWNER
    let spender ← env.arg? Key SPENDER
    some (token.allowance owner spender)
  | _ => none

/-- There is a URef for the test contract's result, or an address for a new one. -/
def TestContract.HasRoom (s : Store Key D) : Prop :=
  (s.named TestContract.RESULT_KEY).isSome ∨ s.inUse (s.address s.next) = false

instance (s : Store Key D) : Decidable (TestContract.HasRoom s) :=
  inferInstanceAs (Decidable (_ ∨ _))

/-- The number that a deed makes the test contract keep. -/
def Deed.kept (s : Store Key D) : Deed Key → Option U256
  | .test entryPoint env =>
    if TestContract.HasRoom s then do
      let contract ← TestContract.target env
      let c ← s.contracts contract
      TestContract.asked entryPoint env { s with named := c.namedKeys }
    else none
  | _ => none

/-- The contract that a deed addresses, and what it asks of it. -/
def Deed.request (self : TestContract.Hashes) : Deed Key → Option (HashAddr × Request Key)
  | .install _ _ _ => none
  | .call contract r => some (contract, r)
  | .test entryPoint env => do
    let contract ← TestContract.target env
    let (tokenEntryPoint, args) ← TestContract.forwarded entryPoint env
    some (contract, ⟨self.enter env, tokenEntryPoint, args⟩)

/-- The call of the token at `contract` that a deed comes to, if it addresses that token. -/
def Deed.callTo (self : TestContract.Hashes) (package contract : HashAddr) (deed : Deed Key) :
    Option (Call Key) := do
  let (target, r) ← deed.request self
  if target = contract then some (r.call package contract) else none

/-- The calls that reach the token at `contract`, in order. -/
def Deed.callsTo (self : TestContract.Hashes) (package contract : HashAddr)
    (deeds : List (Deed Key)) : List (Call Key) :=
  deeds.filterMap (Deed.callTo self package contract)

/-- **What others than `a` have is touched only as far as they let `a` do it**: each loses no more
than `a` has spent of what they granted. -/
structure Store.Respects (a : Key) (s s' : Store Key D) : Prop where
  balance : ∀ k, k ≠ a → (s.balance k).toNat + (s'.allowance k a).toNat ≤
    (s'.balance k).toNat + (s.allowance k a).toNat
  granted : ∀ owner, owner ≠ a → (s'.allowance owner a).toNat ≤ (s.allowance owner a).toNat
  others : ∀ owner spender, owner ≠ a → spender ≠ a →
    s'.allowance owner spender = s.allowance owner spender
  totalSupply : s'.totalSupply = s.totalSupply
  badge : ∀ k, s'.badge k = s.badge k

end Cep18
