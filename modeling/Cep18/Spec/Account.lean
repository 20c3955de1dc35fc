import Cep18.Model.Install
import Cep18.Spec.Token

/-!
# An account and its tokens

What the runs of `call` by one account are about: tokens, each installed once under a
name. `Account` adds to the store a record of which package was installed under which
name, which the program does not keep and cannot read.

* `Session`: one run of `call`, rolled back if it reverts.
* `Reached P s a`: the account has arrived at `a` from the store `s` by runs that all
  meet the condition `P`.
* `Store.HoldsToken`: the four named keys that belong to a name hold a given token.
* `TakesBranch`: a run installs what is new and upgrades what is installed.
* `Apart`: the condition under which both go on being true.
-/

namespace Cep18

open Program Constants

variable {Key : Type} [CasperKey Key] {D : ItemKeys Key}

/-- The store an account has, and the package of the token it installed under each name. -/
structure Account (Key : Type) [CasperKey Key] (D : ItemKeys Key) where
  store : Store Key D
  tokens : String → Option HashAddr

namespace Account

/-- The account has installed a token under the name. -/
def Has (a : Account Key D) (name : String) : Prop := (a.tokens name).isSome

/-- One run of `call`. A run that creates a package, under a name with no token yet,
installs that package as the token of that name. -/
inductive Session (a : Account Key D) (env : Env Key) : Account Key D → Prop
  | created {name : String} {package : HashAddr} (named : env.arg? String NAME = some name)
      (first : a.tokens name = none) (before : a.store.packages package = none)
      (after : ((commit (call env) a.store).packages package).isSome) :
      Session a env ⟨commit (call env) a.store, Function.update a.tokens name (some package)⟩
  | kept (none_created : ∀ name, env.arg? String NAME = some name → a.tokens name = none →
        ∀ package, a.store.packages package = none →
          (commit (call env) a.store).packages package = none) :
      Session a env ⟨commit (call env) a.store, a.tokens⟩

/-- What the account can arrive at from the store `s`, where it has no token, by runs of
`call` that all meet the condition `P`. -/
inductive Reached (P : Account Key D → Env Key → Prop) (s : Store Key D) : Account Key D → Prop
  | start : Reached P s ⟨s, fun _ => none⟩
  | session {a a' : Account Key D} {env : Env Key} :
      Reached P s a → P a env → Session a env a' → Reached P s a'

/-- A name that is used for the first time, and any name installed before, are not one
another with `access_` in front. -/
def Apart (a : Account Key D) (env : Env Key) : Prop :=
  ∀ name, env.arg? String NAME = some name → a.tokens name = none →
    ∀ m, a.Has m → name ≠ "access_" ++ m ∧ m ≠ "access_" ++ name

end Account

/-- The four named keys of `name` hold the hash of a package, its access URef, and the
contract hash and the number of its current version. -/
structure Store.TokenKeys (s : Store Key D) (name : String) (package : HashAddr)
    (p : ContractPackage) (v : ContractVersion) (number : URef) : Prop where
  stored : s.packages package = some p
  current : p.current = some v
  contract : (s.contracts v.contract).isSome
  numbered : s.values number = some (CLTyped.fromT v.number)
  hashKey : s.named (HASH_KEY_NAME_PREFIX ++ name) = some (ofHash package)
  accessKey : s.named (ACCESS_KEY_NAME_PREFIX ++ name) = some (ofURef p.accessKey)
  contractKey : s.named (CONTRACT_NAME_PREFIX ++ name) = some (ofHash v.contract)
  versionKey : s.named (CONTRACT_VERSION_PREFIX ++ name) = some (ofURef number)

/-- **The named keys of `name` are those of the package**, at its current version. -/
def Store.HoldsToken (s : Store Key D) (name : String) (package : HashAddr) : Prop :=
  ∃ p v number, s.TokenKeys name package p v number

/-- A run of `call` takes the branch that its name asks for: a name with no token is
installed, and one with a token is upgraded, which adds a version to that token's package
and changes no other. -/
def Account.TakesBranch (a : Account Key D) (env : Env Key) : Prop :=
  ∀ name, env.arg? String NAME = some name →
    (a.tokens name = none →
      (call env).run a.store = (installContract env name).run a.store) ∧
    ∀ package, a.tokens name = some package →
      (call env).run a.store = (upgrade name).run a.store ∧
      ∀ s', (upgrade name).run a.store = .ok () s' →
        ∃ p p' version, a.store.packages package = some p ∧ s'.packages package = some p' ∧
          p'.current = some version ∧ version.number = p.nextVersion ∧
          ∀ other, other ≠ package → s'.packages other = a.store.packages other

/-- The account has not run `call` yet: it has no access key. -/
def Store.Untouched (s : Store Key D) : Prop :=
  ∀ name, s.named (ACCESS_KEY_NAME_PREFIX ++ name) = none

end Cep18
