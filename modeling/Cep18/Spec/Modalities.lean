import Cep18.Model.Install
import Cep18.Spec.Token
import Cep18.Spec.View

/-!
# Modalities

An installation is given two bytes, `events_mode` and `enable_mint_burn`, each of them
optional, and zero where it is missing. `EventsMode` and `MintBurn` say which bytes stand
for something.

* `Guarded`: an installation lets in the documented bytes and no others, and what it has let
  in stays.
* `Store.Fresh n`: the host has `n` addresses to hand out that are not in use.
-/

namespace Cep18

open Program Constants

variable {Key : Type} [CasperKey Key] {D : ItemKeys Key}

/-- The host's next `n` addresses are all different, and none of them is in use. -/
structure Store.Fresh (n : ℕ) (s : Store Key D) : Prop where
  distinct : ∀ i < n, ∀ j < n, s.address (s.next + i) = s.address (s.next + j) → i = j
  urefs : ∀ i < n, s.inUse (s.address (s.next + i)) = false
  contracts : ∀ i < n, s.contracts (s.address (s.next + i)) = none
  packages : ∀ i < n, s.packages (s.address (s.next + i)) = none

/-- The byte a modality is installed with. -/
def Env.modality (env : Env Key) (name : String) : UInt8 := (env.arg? UInt8 name).getD 0

/-- The argument is malformed, or its byte is one that `check` rejects. -/
def Env.Outside {M : Type} (env : Env Key) (name : String) (check : UInt8 → Except Cep18Error M) :
    Prop :=
  ∀ byte, env.optArg? UInt8 name = some byte → ∀ mode, check (byte.getD 0) ≠ .ok mode

/-- The other arguments are there, and well formed. -/
structure Env.Complete (env : Env Key) : Prop where
  symbol : (env.arg? String SYMBOL).isSome
  decimals : (env.arg? UInt8 DECIMALS).isSome
  totalSupply : (env.arg? U256 TOTAL_SUPPLY).isSome
  adminList : (env.optArg? (List Key) ADMIN_LIST).isSome
  minterList : (env.optArg? (List Key) MINTER_LIST).isSome

/-- **Only documented modalities are installed.** The bytes of an installed token are the
ones given, `EventsMode` and `MintBurn` accept them, and they stay through every run of
calls. Any other argument stops the installation with the error that names it, and
nothing of it is left. -/
structure Guarded (env : Env Key) (name : String) (before : Store Key D) : Prop where
  installed : ∀ store, deploy env name before = some store →
    (∃ mode, EventsMode.tryFrom (env.modality EVENTS_MODE) = .ok mode) ∧
    (∃ mode, MintBurn.tryFrom (env.modality ENABLE_MINT_BURN) = .ok mode) ∧
    ∀ calls, (run store calls).value UInt8 EVENTS_MODE = some (env.modality EVENTS_MODE) ∧
      (run store calls).value UInt8 ENABLE_MINT_BURN = some (env.modality ENABLE_MINT_BURN)
  refused : env.Outside EVENTS_MODE EventsMode.tryFrom ∨
      env.Outside ENABLE_MINT_BURN MintBurn.tryFrom →
    ¬ Succeeds (installContract env name) before ∧
      commit (installContract env name) before = before
  named : env.Complete → env.Outside EVENTS_MODE EventsMode.tryFrom ∨
      env.Outside ENABLE_MINT_BURN MintBurn.tryFrom →
    ∃ (e : Cep18Error) (s : Store Key D), (installContract env name).run before =
        .error e.toApi s ∧
      (e = .InvalidEventsMode ∧ env.Outside EVENTS_MODE EventsMode.tryFrom ∨
        e = .InvalidEnableMBFlag ∧ env.Outside ENABLE_MINT_BURN MintBurn.tryFrom)

end Cep18
