import Cep18.Spec.Account
import Cep18.Spec.View

/-!
# What becomes of an installed token

Once a token is installed under a name, further runs of `call` with that name upgrade it.
Between them, anyone may call the token, through the version that is current.

* `Request`: a call of the token as it is made, without knowing the version it will reach.
* `History name package start k requests s`: from `start` to `s`, by `k` successful runs of
  `call` with the name, and the requests, in any order.
* `Store.OneLive k`: the token has been upgraded `k` times, and has one version to call.
* `Store.SameToken`: what two contracts show of themselves is the same.
-/

namespace Cep18

open Program Constants

variable {Key : Type} [CasperKey Key] {D : ItemKeys Key}

/-- The contract of the current version of a package. -/
def Store.live (s : Store Key D) (package : HashAddr) : Option HashAddr :=
  ((s.packages package).bind ContractPackage.current).map ContractVersion.contract

/-- A call of the token, as it is made: where from, of what, and with which arguments. -/
structure Request (Key : Type) where
  env : Env Key
  entryPoint : EntryPoint
  args : RuntimeArgs Key

namespace Request

/-- A request goes to the current version. -/
def program (r : Request Key) (package : HashAddr) : HostM Key D CLValue := fun s =>
  match s.live package with
  | some contract => callContract r.env contract r.entryPoint r.args s
  | none => .error .host s

/-- The effect of a request; a reverted one has none. -/
def exec (package : HashAddr) (s : Store Key D) (r : Request Key) : Store Key D :=
  commit (r.program package) s

/-- The effect of a list of requests, in order. -/
def run (package : HashAddr) (s : Store Key D) (requests : List (Request Key)) : Store Key D :=
  requests.foldl (exec package) s

/-- The call that reaches a version of the token. -/
def call (r : Request Key) (package contract : HashAddr) : Call Key where
  entryPoint := r.entryPoint
  env := { r.env with
    callStack := r.env.callStack ++ [.StoredContract package contract]
    args := r.args }

end Request

/-- **Runs of `call` under one name, and requests, in any order**: `k` of the runs have
succeeded, and those that reverted have had no effect. -/
inductive History (name : String) (package : HashAddr) (start : Store Key D) :
    ℕ → List (Request Key) → Store Key D → Prop
  | start : History name package start 0 [] start
  | upgraded {k : ℕ} {requests : List (Request Key)} {s : Store Key D} {env : Env Key} :
      History name package start k requests s → env.arg? String NAME = some name →
      Succeeds (call env) s → History name package start (k + 1) requests (commit (call env) s)
  | reverted {k : ℕ} {requests : List (Request Key)} {s : Store Key D} {env : Env Key} :
      History name package start k requests s → env.arg? String NAME = some name →
      ¬ Succeeds (call env) s → History name package start k requests (commit (call env) s)
  | requested {k : ℕ} {requests : List (Request Key)} {s : Store Key D} {r : Request Key} :
      History name package start k requests s →
      History name package start k (requests ++ [r]) (r.exec package s)

/-- The account's store after an installation. -/
def Deployment.account (d : Deployment Key D) : Store Key D :=
  commit (installContract d.env d.name) d.before

/-- The package that the account knows an installed token by. -/
def Deployment.package (d : Deployment Key D) : HashAddr :=
  ((d.account.named (HASH_KEY_NAME_PREFIX ++ d.name)).bind intoHash).getD 0

/-- **The package has one version more than it has had upgrades, one of them enabled**, and the
named keys hold that one. -/
structure Store.OneLive (s : Store Key D) (name : String) (package : HashAddr) (k : ℕ)
    (p : ContractPackage) (v : ContractVersion) (number : URef) : Prop where
  keys : s.TokenKeys name package p v number
  count : p.versions.length = k + 1
  enabled : p.versions.filter (·.enabled) = [v]
  number : v.number = k + 1

/-- Two stores, each in the context of a contract, show the same token. -/
structure Store.SameToken (s t : Store Key D) : Prop where
  balance : ∀ k, s.balance k = t.balance k
  allowance : ∀ owner spender, s.allowance owner spender = t.allowance owner spender
  totalSupply : s.totalSupply = t.totalSupply
  badge : ∀ k, s.badge k = t.badge k
  eventsMode : s.eventsMode = t.eventsMode
  enableMintBurn : s.enableMintBurn = t.enableMintBurn
  log : s.log = t.log

end Cep18
