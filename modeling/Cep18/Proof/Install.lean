import Cep18.Proof.Success
import Mathlib.Data.List.Infix

/-!
# What an installation did

`install_contract` allocates six URefs for single values, then a package, a contract and
a version number, and calls `init`. `installContract_ok` says what a successful
installation allocated, which named keys it put in the account, and that `init` ran on
the prepared values.

`init` writes dictionaries, the event log and named keys of its own context only
(`init_keeps`).
-/

namespace Cep18

open Program Constants

variable {Key : Type} [CasperKey Key]

section Prepared

variable {D : ItemKeys Key} {l : Layout} {s s' : Store Key D}

/-- The named keys of the six URefs an installation allocates. -/
def valueNames : List String := [NAME, SYMBOL, DECIMALS, TOTAL_SUPPLY, EVENTS_MODE, ENABLE_MINT_BURN]

/-- The URefs of single values are in place, with the values given. -/
structure Prepared (l : Layout) (name symbol : String) (decimals flag mode : UInt8) (supply : U256)
    (s : Store Key D) : Prop where
  name : s.Cell NAME l.name name
  symbol : s.Cell SYMBOL l.symbol symbol
  decimals : s.Cell DECIMALS l.decimals decimals
  enableMintBurn : s.Cell ENABLE_MINT_BURN l.enableMintBurn flag
  eventsMode : s.Cell EVENTS_MODE l.eventsMode mode
  totalSupply : s.Cell TOTAL_SUPPLY l.totalSupply supply
  apart : l.totalSupply ∉ [l.name, l.symbol, l.decimals, l.enableMintBurn, l.eventsMode]

theorem Prepared.extends {name symbol : String} {decimals flag mode : UInt8} {supply : U256}
    (h : Prepared l name symbol decimals flag mode supply s) (hs : s.Extends s')
    (hn : ∀ n ∈ valueNames, s'.named n = s.named n) :
    Prepared l name symbol decimals flag mode supply s' where
  name := h.name.extends hs (hn _ (by simp [valueNames]))
  symbol := h.symbol.extends hs (hn _ (by simp [valueNames]))
  decimals := h.decimals.extends hs (hn _ (by simp [valueNames]))
  enableMintBurn := h.enableMintBurn.extends hs (hn _ (by simp [valueNames]))
  eventsMode := h.eventsMode.extends hs (hn _ (by simp [valueNames]))
  totalSupply := h.totalSupply.extends hs (hn _ (by simp [valueNames]))
  apart := h.apart

end Prepared

section Install

variable {D : ItemKeys Key} {s s' : Store Key D} {env : Env Key} {name : String}

/-! ### What `init` leaves alone -/

/-- Single values, contracts and packages. -/
def Store.frame (s : Store Key D) :
    (URef → Option CLValue) × (HashAddr → Option (Contract Key)) ×
      (HashAddr → Option ContractPackage) :=
  (s.values, s.contracts, s.packages)

section Reads

-- what only reads leaves any view as it was
variable {γ : Type} {f : Store Key D → γ}

theorem getKey_keeps (name : String) : Keeps f (getKey name : HostM Key D (Option Key)) :=
  fun _ _ _ h => by rw [(getKey_ok h).2]

theorem unwrapOrRevertWith_keeps {α : Type} (e : ApiError) (o : Option α) :
    Keeps f (unwrapOrRevertWith e o : HostM Key D α) :=
  fun _ _ _ h => by rw [(unwrapOrRevertWith_ok h).2]

theorem unwrapOrRevert_keeps {α : Type} (r : Except Cep18Error α) :
    Keeps f (unwrapOrRevert r : HostM Key D α) :=
  fun _ _ _ h => by rw [(unwrapOrRevert_eq_ok h).2]

theorem getNamedArg_keeps {V : Type} [FromArg Key V] (env : Env Key) (name : String) :
    Keeps f (getNamedArg env name : HostM Key D V) :=
  fun _ _ _ h => by rw [(getNamedArg_ok h).2]

theorem getOptionalNamedArg_keeps {V : Type} [FromArg Key V] (env : Env Key) (name : String)
    {invalid : Cep18Error} (hi : invalid ≠ .Phantom) :
    Keeps f
      (getOptionalNamedArgWithUserErrors env name invalid : HostM Key D (Option V)) :=
  fun _ _ _ h => by rw [(getOptionalNamedArg_ok hi h).2]

theorem read_keeps {V : Type} [CLTyped V] (u : URef) :
    Keeps f (read u : HostM Key D (Option V)) := by
  intro s v s' h
  unfold read EStateM.run at h
  beta_reduce at h
  split at h
  · cases h; rfl
  · split at h
    · cases h; rfl
    · cases h

theorem readFrom_keeps {V : Type} [CLTyped V] (name : String) :
    Keeps f (readFrom name : HostM Key D V) := by
  unfold readFrom getUref
  exact ((getKey_keeps _).bind fun _ => (unwrapOrRevertWith_keeps _ _).bind fun _ =>
    unwrapOrRevertWith_keeps _ _).bind fun _ => (read_keeps _).bind fun _ =>
    unwrapOrRevertWith_keeps _ _

end Reads

theorem putKey_keeps (name : String) (key : Key) :
    Keeps Store.frame (putKey name key : HostM Key D Unit) :=
  fun _ _ _ h => by rw [putKey_ok h]; rfl

theorem newDictionary_keeps (name : String) :
    Keeps Store.frame (newDictionary name : HostM Key D URef) :=
  fun _ _ _ h => by rw [(newDictionary_ok h).2.2]; rfl

theorem dictionaryPut_keeps {V : Type} [CLTyped V] (u : URef) (item : D.Item) (v : V) :
    Keeps Store.frame (dictionaryPut u item v : HostM Key D Unit) := by
  intro s r s' h
  obtain ⟨d, -, he⟩ := dictionaryPut_ok h
  rw [he]; rfl

theorem putBadges_keeps (u : URef) (list : Option (List Key)) (badge : SecurityBadge) :
    Keeps Store.frame (putBadges u list badge : HostM Key D Unit) :=
  Keeps.forM (fun _ => dictionaryPut_keeps _ _ _) _

theorem cesInit_keeps : Keeps Store.frame (cesInit : HostM Key D Unit) := by
  intro s r s' h
  obtain ⟨e, -, -, he⟩ := cesInit_ok h
  rw [he]; rfl

/-- Recording an event leaves any view as it was that does not see event logs and writes. -/
theorem emit_keeps {γ : Type} {f : Store Key D → γ}
    (hf : ∀ s logs writes, f { s with logs := logs, writes := writes } = f s) (event : Event Key) :
    Keeps f (emit event : HostM Key D Unit) := by
  intro s r s' h
  unfold emit EStateM.run at h
  beta_reduce at h
  split at h
  · cases h
  · split at h
    · cases h
    · cases h; exact hf _ _ _

theorem recordEventDictionary_keeps {γ : Type} {f : Store Key D → γ}
    (hf : ∀ s logs writes, f { s with logs := logs, writes := writes } = f s) (event : Event Key) :
    Keeps f (recordEventDictionary event : HostM Key D Unit) := by
  unfold recordEventDictionary
  refine (readFrom_keeps _).bind fun _ => (unwrapOrRevert_keeps _).bind fun mode => ?_
  cases mode with
  | NoEvents => exact Keeps.pure _ _
  | CES => exact emit_keeps hf event

theorem initEvents_keeps : Keeps Store.frame (initEvents : HostM Key D Unit) := by
  unfold initEvents
  exact (readFrom_keeps _).bind fun _ => (unwrapOrRevert_keeps _).bind fun _ =>
    cesInit_keeps.ite (Keeps.pure _ _)

/-- **`init` writes no single value, contract or package.** -/
theorem init_keeps (env : Env Key) : Keeps Store.frame (init env : HostM Key D Unit) := by
  unfold init
  refine (getKey_keeps _).bind fun _ => Keeps.ite (Keeps.throw _ _) ?_
  refine (getNamedArg_keeps _ _).bind fun _ => (putKey_keeps _ _).bind fun _ => ?_
  refine (newDictionary_keeps _).bind fun _ => (newDictionary_keeps _).bind fun _ => ?_
  refine (getNamedArg_keeps _ _).bind fun _ => (dictionaryPut_keeps _ _ _).bind fun _ => ?_
  refine (newDictionary_keeps _).bind fun _ => (dictionaryPut_keeps _ _ _).bind fun _ => ?_
  refine (getOptionalNamedArg_keeps _ _ (by decide)).bind fun _ => ?_
  refine (getOptionalNamedArg_keeps _ _ (by decide)).bind fun _ => ?_
  refine initEvents_keeps.bind fun _ => (putBadges_keeps _ _ _).bind fun _ => ?_
  exact (putBadges_keeps _ _ _).bind fun _ =>
    recordEventDictionary_keeps (fun _ _ _ => rfl) _

/-! ### Installing -/

/-- Named keys, contracts and packages. -/
def Store.host (s : Store Key D) :
    NamedKeys Key × (HashAddr → Option (Contract Key)) × (HashAddr → Option ContractPackage) :=
  (s.named, s.contracts, s.packages)

theorem newURef_keeps {V : Type} [CLTyped V] (v : V) :
    Keeps Store.host (newURef v : HostM Key D URef) :=
  fun _ _ _ h => by rw [(newURef_ok h).2]; rfl

theorem newURef_value {V : Type} [CLTyped V] {v : V} {u : URef}
    (h : (newURef v : HostM Key D URef).run s = .ok u s') :
    s'.values u = some (CLTyped.fromT v) := by
  rw [(newURef_ok h).2]; exact Function.update_self ..

theorem Store.Extends.value (h : s.Extends s') {u : URef} {v : CLValue} (hu : s.values u = some v) :
    s'.values u = some v := (h u (inUse_of_value hu)).1.trans hu

/-- A URef with a value differs from one that is handed out later. -/
theorem Store.Extends.ne_fresh (h : s.Extends s') {u u' : URef} {v : CLValue}
    (hu : s.values u = some v) (hu' : s'.inUse u' = false) : u ≠ u' :=
  ne_of_inUse (h.inUse (inUse_of_value hu)) hu'

theorem invoke_init_ok {v : CLValue}
    (h : (invoke .init env : HostM Key D CLValue).run s = .ok v s') :
    (init env : HostM Key D Unit).run s = .ok () s' := by
  unfold invoke at h
  rw [seqRight_eq_bind] at h
  obtain ⟨_, t, ht, h⟩ := bind_eq_ok.1 h
  cases h; exact ht

/-- **A new contract** is the first version of a new package, whose hash and access URef are
put under the names given. -/
theorem newContract_ok {entryPoints : List EntryPoint} {namedKeys : NamedKeys Key}
    {hashName accessName : String} {r : HashAddr × ℕ}
    (h : (newContract entryPoints namedKeys hashName accessName :
      HostM Key D (HashAddr × ℕ)).run s = .ok r s') :
    ∃ package access, s.packages package = none ∧ s.contracts r.1 = none ∧ r.2 = 1 ∧
      s.Extends s' ∧
      s'.named = Function.update (Function.update s.named hashName (some (ofHash package)))
        accessName (some (ofURef access)) ∧
      s'.contracts = Function.update s.contracts r.1 (some ⟨package, namedKeys, entryPoints⟩) ∧
      s'.packages =
        Function.update s.packages package (some ⟨access, [⟨1, r.1, true⟩]⟩) := by
  unfold newContract at h
  obtain ⟨⟨package, access⟩, s₁, h₁, h⟩ := bind_eq_ok.1 h
  obtain ⟨_, s₂, h₂, h⟩ := bind_eq_ok.1 h
  obtain ⟨_, s₃, h₃, h⟩ := bind_eq_ok.1 h
  have hext := createContractPackage_extends h₁
  obtain ⟨hpkg, -, rfl⟩ := createContractPackage_ok h₁
  obtain rfl := putKey_ok h₂
  obtain rfl := putKey_ok h₃
  obtain ⟨p, hp, hc, hnumber, rfl⟩ := addContractVersion_ok h
  have hpe : p = ⟨access, []⟩ := by simpa using hp.symm
  subst hpe
  refine ⟨package, access, hpkg, hc, hnumber, fun u hu => hext u hu, rfl, ?_, ?_⟩
  · simp [ContractPackage.current]
  · simp [ContractPackage.nextVersion]

/-- The named keys an installation, or an upgrade, puts in the account. -/
def putNamed (name : String) (package : HashAddr) (access : URef) (contract : HashAddr)
    (version : URef) (named : NamedKeys Key) : NamedKeys Key :=
  Function.update (Function.update (Function.update (Function.update named
    (HASH_KEY_NAME_PREFIX ++ name) (some (ofHash package)))
    (ACCESS_KEY_NAME_PREFIX ++ name) (some (ofURef access)))
    (CONTRACT_NAME_PREFIX ++ name) (some (ofHash contract)))
    (CONTRACT_VERSION_PREFIX ++ name) (some (ofURef version))

/-- Names with two prefixes, neither of which begins the other, are never the same. -/
theorem append_ne_append {p q : String} (hpq : ¬ p.toList <+: q.toList)
    (hqp : ¬ q.toList <+: p.toList) (a b : String) : p ++ a ≠ q ++ b := by
  intro h
  have hl : p.toList ++ a.toList = q.toList ++ b.toList := by
    rw [← String.toList_append, h, String.toList_append]
  have hq : q.toList <+: p.toList ++ a.toList := hl ▸ List.prefix_append q.toList b.toList
  -- of two prefixes of one name, one begins the other
  rcases List.prefix_or_prefix_of_prefix (List.prefix_append p.toList a.toList) hq with h1 | h1
  · exact hpq h1
  · exact hqp h1

theorem hash_ne_contract (n m : String) : HASH_KEY_NAME_PREFIX ++ n ≠ CONTRACT_NAME_PREFIX ++ m :=
  append_ne_append (by decide) (by decide) n m

theorem hash_ne_version (n m : String) :
    HASH_KEY_NAME_PREFIX ++ n ≠ CONTRACT_VERSION_PREFIX ++ m :=
  append_ne_append (by decide) (by decide) n m

theorem access_ne_contract (n m : String) :
    ACCESS_KEY_NAME_PREFIX ++ n ≠ CONTRACT_NAME_PREFIX ++ m :=
  append_ne_append (by decide) (by decide) n m

theorem access_ne_version (n m : String) :
    ACCESS_KEY_NAME_PREFIX ++ n ≠ CONTRACT_VERSION_PREFIX ++ m :=
  append_ne_append (by decide) (by decide) n m

theorem contract_ne_version (n m : String) :
    CONTRACT_NAME_PREFIX ++ n ≠ CONTRACT_VERSION_PREFIX ++ m :=
  append_ne_append (by decide) (by decide) n m

/-- **The prefix of access keys begins with that of package hashes**, so the two kinds of
named keys can coincide. -/
theorem hash_eq_access_iff (n m : String) :
    HASH_KEY_NAME_PREFIX ++ n = ACCESS_KEY_NAME_PREFIX ++ m ↔ n = "access_" ++ m := by
  have h : ACCESS_KEY_NAME_PREFIX = HASH_KEY_NAME_PREFIX ++ "access_" := by decide
  rw [h, String.append_assoc, String.append_right_inj]

/-- The named keys of the new contract. -/
def valueKeys (l : Layout) : NamedKeys Key :=
  Function.update (Function.update (Function.update (Function.update (Function.update
    (Function.update (fun _ => none) NAME (some (ofURef l.name)))
    SYMBOL (some (ofURef l.symbol)))
    DECIMALS (some (ofURef l.decimals)))
    TOTAL_SUPPLY (some (ofURef l.totalSupply)))
    EVENTS_MODE (some (ofURef l.eventsMode)))
    ENABLE_MINT_BURN (some (ofURef l.enableMintBurn))

/-- The six URefs hold their values, and the total supply has one of its own. -/
structure Stored (l : Layout) (name symbol : String) (decimals flag mode : UInt8) (supply : U256)
    (s : Store Key D) : Prop where
  name : s.values l.name = some (CLTyped.fromT name)
  symbol : s.values l.symbol = some (CLTyped.fromT symbol)
  decimals : s.values l.decimals = some (CLTyped.fromT decimals)
  enableMintBurn : s.values l.enableMintBurn = some (CLTyped.fromT flag)
  eventsMode : s.values l.eventsMode = some (CLTyped.fromT mode)
  totalSupply : s.values l.totalSupply = some (CLTyped.fromT supply)
  apart : l.totalSupply ∉ [l.name, l.symbol, l.decimals, l.enableMintBurn, l.eventsMode]

section Stored

variable {l : Layout} {symbol : String} {decimals flag mode : UInt8} {supply : U256}

theorem Stored.extends (h : Stored l name symbol decimals flag mode supply s) (hs : s.Extends s') :
    Stored l name symbol decimals flag mode supply s' where
  name := hs.value h.name
  symbol := hs.value h.symbol
  decimals := hs.value h.decimals
  enableMintBurn := hs.value h.enableMintBurn
  eventsMode := hs.value h.eventsMode
  totalSupply := hs.value h.totalSupply
  apart := h.apart

/-- Seen from the new contract, the values are in place under their names. -/
theorem Stored.prepared (h : Stored l name symbol decimals flag mode supply s) :
    Prepared l name symbol decimals flag mode supply { s with named := valueKeys l } where
  name := ⟨rfl, h.name⟩
  symbol := ⟨rfl, h.symbol⟩
  decimals := ⟨rfl, h.decimals⟩
  enableMintBurn := ⟨rfl, h.enableMintBurn⟩
  eventsMode := ⟨rfl, h.eventsMode⟩
  totalSupply := ⟨rfl, h.totalSupply⟩
  apart := h.apart

/-- Six URefs allocated one after the other hold their values, apart from each other. -/
theorem stored_of_newURefs {s₁ s₂ s₃ s₄ s₅ s₆ : Store Key D} {u₁ u₂ u₃ u₄ u₅ u₆ : URef}
    (h₁ : (newURef name : HostM Key D URef).run s = .ok u₁ s₁)
    (h₂ : (newURef symbol : HostM Key D URef).run s₁ = .ok u₂ s₂)
    (h₃ : (newURef decimals : HostM Key D URef).run s₂ = .ok u₃ s₃)
    (h₄ : (newURef supply : HostM Key D URef).run s₃ = .ok u₄ s₄)
    (h₅ : (newURef mode : HostM Key D URef).run s₄ = .ok u₅ s₅)
    (h₆ : (newURef flag : HostM Key D URef).run s₅ = .ok u₆ s₆) :
    Stored ⟨u₁, u₂, u₃, u₄, u₅, u₆, 0, 0, 0, 0⟩ name symbol decimals flag mode supply s₆ ∧
      s.Extends s₆ ∧ s₆.host = s.host := by
  have e₅ : s₅.Extends s₆ := newURef_extends h₆
  have e₄ : s₄.Extends s₆ := (newURef_extends h₅).trans e₅
  have e₃ : s₃.Extends s₆ := (newURef_extends h₄).trans e₄
  have e₂ : s₂.Extends s₆ := (newURef_extends h₃).trans e₃
  have e₁ : s₁.Extends s₆ := (newURef_extends h₂).trans e₂
  have v₁ := newURef_value h₁
  have v₂ := newURef_value h₂
  have v₃ := newURef_value h₃
  have v₄ := newURef_value h₄
  -- the fourth differs from those in use before it, and from those fresh after it
  have hfresh := (newURef_ok h₄).1
  have x₂ := newURef_extends h₃
  have x₁ := (newURef_extends h₂).trans x₂
  have n₁ : u₁ ≠ u₄ := x₁.ne_fresh v₁ hfresh
  have n₂ : u₂ ≠ u₄ := x₂.ne_fresh v₂ hfresh
  have n₃ : u₃ ≠ u₄ := (Store.Extends.refl _).ne_fresh v₃ hfresh
  have n₅ : u₄ ≠ u₅ := (Store.Extends.refl _).ne_fresh v₄ (newURef_ok h₅).1
  have n₆ : u₄ ≠ u₆ := (newURef_extends h₅).ne_fresh v₄ (newURef_ok h₆).1
  refine ⟨?_, (newURef_extends h₁).trans e₁, ?_⟩
  · exact {
      name := e₁.value v₁
      symbol := e₂.value v₂
      decimals := e₃.value v₃
      enableMintBurn := newURef_value h₆
      eventsMode := e₅.value (newURef_value h₅)
      totalSupply := e₄.value v₄
      apart := by simp [n₁.symm, n₂.symm, n₃.symm, n₅, n₆] }
  · rw [newURef_keeps _ _ _ _ h₆, newURef_keeps _ _ _ _ h₅, newURef_keeps _ _ _ _ h₄,
      newURef_keeps _ _ _ _ h₃, newURef_keeps _ _ _ _ h₂, newURef_keeps _ _ _ _ h₁]

end Stored

/-- A new contract and its four named keys, as `installContract` leaves them for `init`. -/
theorem register_ok {entryPoints : List EntryPoint} {namedKeys : NamedKeys Key}
    {contract : HashAddr} {number : ℕ} {version : URef} {r r' : Unit} {s₁ s₂ s₃ t : Store Key D}
    (h₁ : (newContract entryPoints namedKeys (HASH_KEY_NAME_PREFIX ++ name)
      (ACCESS_KEY_NAME_PREFIX ++ name) : HostM Key D (HashAddr × ℕ)).run s = .ok (contract, number) s₁)
    (h₂ : (putKey (CONTRACT_NAME_PREFIX ++ name) (ofHash contract) : HostM Key D Unit).run s₁ =
      .ok r s₂)
    (h₃ : (newURef number : HostM Key D URef).run s₂ = .ok version s₃)
    (h₄ : (putKey (CONTRACT_VERSION_PREFIX ++ name) (ofURef version) : HostM Key D Unit).run s₃ =
      .ok r' t) :
    ∃ package access, s.packages package = none ∧ s.contracts contract = none ∧ s.Extends t ∧
      t.values version = some (CLTyped.fromT 1) ∧
      t.named = putNamed name package access contract version s.named ∧
      t.contracts = Function.update s.contracts contract
        (some ⟨package, namedKeys, entryPoints⟩) ∧
      t.packages =
        Function.update s.packages package (some ⟨access, [⟨1, contract, true⟩]⟩) := by
  obtain ⟨package, access, hpackage, hcontract, rfl, e₁, hn, hc, hp⟩ := newContract_ok h₁
  have he₂ := putKey_ok h₂
  have he₃ := (newURef_ok h₃).2
  have he₄ := putKey_ok h₄
  have e₂ : s₁.Extends s₂ := by rw [he₂]; exact .of_eq rfl rfl rfl
  have e₄ : s₃.Extends t := by rw [he₄]; exact .of_eq rfl rfl rfl
  refine ⟨package, access, hpackage, hcontract,
    e₁.trans (e₂.trans ((newURef_extends h₃).trans e₄)), e₄.value (newURef_value h₃), ?_, ?_, ?_⟩
  · rw [he₄, he₃, he₂, hn]; rfl
  · rw [he₄, he₃, he₂, hc]
  · rw [he₄, he₃, he₂, hp]

/-- A new package with one version has been installed as `name`. -/
structure Installed (name : String) (package : HashAddr) (access : URef) (contract : HashAddr)
    (version : URef) (s s' : Store Key D) : Prop where
  newPackage : s.packages package = none
  newContract : s.contracts contract = none
  packages : s'.packages =
    Function.update s.packages package (some ⟨access, [⟨1, contract, true⟩]⟩)
  registered : ∃ keys, s'.contracts contract = some ⟨package, keys, generateEntryPoints⟩
  named : s'.named = putNamed name package access contract version s.named
  values : ∀ u v, s.values u = some v → s'.values u = some v
  version : s'.values version = some (CLTyped.fromT 1)
  contracts : ∀ h, (s.contracts h).isSome → (s'.contracts h).isSome
  contract : (s'.contracts contract).isSome

/-- `init` has run on the values that the arguments of the session describe, in the context
of `contract`. -/
structure InitRan (env : Env Key) (name : String) (contract : HashAddr) (s' : Store Key D)
    (l : Layout) (symbol : String) (decimals : UInt8) (supply : U256)
    (mode flag : Option UInt8) (adminList minterList : Option (List Key))
    (start final : Store Key D) : Prop where
  symbolArg : env.arg? String SYMBOL = some symbol
  decimalsArg : env.arg? UInt8 DECIMALS = some decimals
  totalSupplyArg : env.arg? U256 TOTAL_SUPPLY = some supply
  eventsModeArg : env.optArg? UInt8 EVENTS_MODE = some mode
  adminListArg : env.optArg? (List Key) ADMIN_LIST = some adminList
  minterListArg : env.optArg? (List Key) MINTER_LIST = some minterList
  enableMintBurnArg : env.optArg? UInt8 ENABLE_MINT_BURN = some flag
  prepared : Prepared l name symbol decimals (flag.getD 0) (mode.getD 0) supply start
  ran : ∃ frame packageHash, (init { env with
      callStack := env.callStack ++ [frame]
      args := initArgs supply packageHash adminList minterList } : HostM Key D Unit).run start =
    .ok () final
  namedKeys : ∃ c : Contract Key, s'.contracts contract = some { c with namedKeys := final.named }
  values : s'.values = final.values
  dicts : s'.dicts = final.dicts
  logs : s'.logs = final.logs

/-- **A successful installation.** -/
theorem installContract_ok {r : Unit}
    (h : (installContract env name : HostM Key D Unit).run s = .ok r s') :
    ∃ package access contract version, Installed name package access contract version s s' ∧
      ∃ l symbol decimals supply mode flag adminList minterList start final,
        InitRan env name contract s' l symbol decimals supply mode flag adminList minterList
          start final := by
  unfold installContract at h
  -- the arguments
  obtain ⟨symbol, s₀, h₀, h⟩ := bind_eq_ok.1 h
  obtain ⟨hsymbol, rfl⟩ := getNamedArg_ok h₀
  obtain ⟨decimals, s₀, h₀, h⟩ := bind_eq_ok.1 h
  obtain ⟨hdecimals, rfl⟩ := getNamedArg_ok h₀
  obtain ⟨supply, s₀, h₀, h⟩ := bind_eq_ok.1 h
  obtain ⟨hsupply, rfl⟩ := getNamedArg_ok h₀
  obtain ⟨mode, s₀, h₀, h⟩ := bind_eq_ok.1 h
  obtain ⟨hmode, rfl⟩ := getOptionalNamedArg_ok (by decide) h₀
  obtain ⟨adminList, s₀, h₀, h⟩ := bind_eq_ok.1 h
  obtain ⟨hadmin, rfl⟩ := getOptionalNamedArg_ok (by decide) h₀
  obtain ⟨minterList, s₀, h₀, h⟩ := bind_eq_ok.1 h
  obtain ⟨hminter, rfl⟩ := getOptionalNamedArg_ok (by decide) h₀
  obtain ⟨flag, s₀, h₀, h⟩ := bind_eq_ok.1 h
  obtain ⟨hflag, rfl⟩ := getOptionalNamedArg_ok (by decide) h₀
  -- the values
  obtain ⟨u₁, s₁, h₁, h⟩ := bind_eq_ok.1 h
  obtain ⟨u₂, s₂, h₂, h⟩ := bind_eq_ok.1 h
  obtain ⟨u₃, s₃, h₃, h⟩ := bind_eq_ok.1 h
  obtain ⟨u₄, s₄, h₄, h⟩ := bind_eq_ok.1 h
  obtain ⟨u₅, s₅, h₅, h⟩ := bind_eq_ok.1 h
  obtain ⟨u₆, s₆, h₆, h⟩ := bind_eq_ok.1 h
  obtain ⟨hstored, e₆, hhost⟩ := stored_of_newURefs h₁ h₂ h₃ h₄ h₅ h₆
  obtain ⟨hn₆, hc₆, hp₆⟩ : s₆.named = s.named ∧ s₆.contracts = s.contracts ∧
      s₆.packages = s.packages := by simpa [Store.host] using hhost
  -- the contract and its named keys
  obtain ⟨⟨contract, number⟩, s₇, h₇, h⟩ := bind_eq_ok.1 h
  obtain ⟨k, s₀, h₀, h⟩ := bind_eq_ok.1 h
  obtain ⟨-, rfl⟩ := getKey_ok h₀
  obtain ⟨packageHash, s₀, h₀, h⟩ := bind_eq_ok.1 h
  obtain ⟨-, rfl⟩ := unwrapOrRevertWith_ok h₀
  obtain ⟨_, s₈, h₈, h⟩ := bind_eq_ok.1 h
  obtain ⟨version, s₉, h₉, h⟩ := bind_eq_ok.1 h
  obtain ⟨_, t, h₁₀, h⟩ := bind_eq_ok.1 h
  obtain ⟨package, access, hpackage, hcontract, e, hversion, hnamed, hcontracts, hpackages⟩ :=
    register_ok h₇ h₈ h₉ h₁₀
  rw [hp₆] at hpackage hpackages
  rw [hc₆] at hcontract hcontracts
  rw [hn₆] at hnamed
  -- the call of `init`, in the context of the contract
  obtain ⟨_, _, h₁₁, h⟩ := bind_eq_ok.1 h
  cases h
  obtain ⟨c, final, hc, hinit, rfl⟩ := callContract_ok h₁₁
  let l : Layout := ⟨u₁, u₂, u₃, u₄, u₅, u₆, 0, 0, 0, 0⟩
  have hce : c = ⟨package, valueKeys l, generateEntryPoints⟩ := by
    rw [hcontracts, Function.update_self] at hc
    exact (Option.some.inj hc).symm
  subst hce
  replace hinit := invoke_init_ok hinit
  obtain ⟨fv, fc, fp⟩ : final.values = t.values ∧ final.contracts = t.contracts ∧
      final.packages = t.packages := by simpa [Store.frame] using init_keeps _ _ _ _ hinit
  refine ⟨package, access, contract, version, ⟨hpackage, hcontract, fp.trans hpackages,
    ⟨_, Function.update_self ..⟩, hnamed, ?_, ?_, ?_, ?_⟩, l, symbol, decimals, supply, mode, flag, adminList, minterList, _, final,
    hsymbol, hdecimals, hsupply, hmode, hadmin, hminter, hflag, (hstored.extends e).prepared,
    ⟨_, _, hinit⟩, ⟨_, Function.update_self ..⟩, rfl, rfl, rfl⟩
  · intro u v hu
    rw [← (e₆.trans e).value hu, ← fv]
  · rw [← hversion, ← fv]
  · intro a ha
    by_cases hac : a = contract
    · subst hac; simp
    · simp only [Function.update_of_ne hac, fc, hcontracts]; exact ha
  · simp

/-! ### Upgrading -/

/-- A package after an upgrade: one more version, and `previous` disabled. -/
def ContractPackage.upgraded (p : ContractPackage) (contract previous : HashAddr) :
    ContractPackage :=
  { p with
    versions := (p.versions ++ [ContractVersion.mk p.nextVersion contract true]).map fun v =>
      if v.contract = previous then { v with enabled := false } else v }

/-- The added version is the current one, unless it is the one disabled. -/
theorem ContractPackage.upgraded_current (p : ContractPackage) {contract previous : HashAddr}
    (h : contract ≠ previous) :
    (p.upgraded contract previous).current = some ⟨p.nextVersion, contract, true⟩ := by
  unfold upgraded current
  rw [List.map_append, List.map_singleton, List.reverse_append, List.reverse_singleton,
    List.singleton_append, if_neg h]
  exact List.find?_cons_of_pos rfl

/-- The package that the account knows as `name` has a new version, and no other package has
changed. -/
structure Upgraded (name : String) (package previous : HashAddr) (p : ContractPackage)
    (contract : HashAddr) (version : URef) (s s' : Store Key D) : Prop where
  hashKey : (s.named (HASH_KEY_NAME_PREFIX ++ name)).bind intoHash = some package
  contractKey : (s.named (CONTRACT_NAME_PREFIX ++ name)).bind intoHash = some previous
  stored : s.packages package = some p
  newContract : s.contracts contract = none
  packages : s'.packages =
    Function.update s.packages package (some (p.upgraded contract previous))
  inherits : s'.contracts = Function.update s.contracts contract (some ⟨package, fun key =>
    (p.current.bind fun v => s.contracts v.contract).bind fun c => c.namedKeys key,
    generateEntryPoints⟩)
  grows : s.Extends s'
  logs : s'.logs = s.logs
  named : s'.named = Function.update (Function.update s.named
    (CONTRACT_NAME_PREFIX ++ name) (some (ofHash contract)))
    (CONTRACT_VERSION_PREFIX ++ name) (some (ofURef version))
  values : ∀ u v, s.values u = some v → s'.values u = some v
  version : s'.values version = some (CLTyped.fromT p.nextVersion)
  contracts : ∀ h, (s.contracts h).isSome → (s'.contracts h).isSome
  contract : (s'.contracts contract).isSome

theorem upgrade_ok {name : String} {r : Unit}
    (h : (upgrade name : HostM Key D Unit).run s = .ok r s') :
    ∃ package previous p contract version,
      Upgraded name package previous p contract version s s' := by
  unfold upgrade at h
  obtain ⟨packageKey, s₀, h₀, h⟩ := bind_eq_ok.1 h
  obtain ⟨hpk, rfl⟩ := getKey_ok h₀
  obtain ⟨packageKey, s₀, h₀, h⟩ := bind_eq_ok.1 h
  obtain ⟨rfl, rfl⟩ := unwrapOrRevertWith_ok h₀
  obtain ⟨package, s₀, h₀, h⟩ := bind_eq_ok.1 h
  obtain ⟨hpackage, rfl⟩ := unwrapOrRevertWith_ok h₀
  obtain ⟨contractKey, s₀, h₀, h⟩ := bind_eq_ok.1 h
  obtain ⟨hck, rfl⟩ := getKey_ok h₀
  obtain ⟨contractKey, s₀, h₀, h⟩ := bind_eq_ok.1 h
  obtain ⟨rfl, rfl⟩ := unwrapOrRevertWith_ok h₀
  obtain ⟨previous, s₀, h₀, h⟩ := bind_eq_ok.1 h
  obtain ⟨hprevious, rfl⟩ := unwrapOrRevertWith_ok h₀
  obtain ⟨⟨contract, number⟩, s₁, h₁, h⟩ := bind_eq_ok.1 h
  obtain ⟨_, s₂, h₂, h⟩ := bind_eq_ok.1 h
  obtain ⟨_, s₃, h₃, h⟩ := bind_eq_ok.1 h
  obtain ⟨version, s₄, h₄, h₅⟩ := bind_eq_ok.1 h
  obtain ⟨p, hp, hc, hnumber, rfl⟩ := addContractVersion_ok h₁
  obtain ⟨p', hp', rfl⟩ := disableContractVersion_ok h₂
  obtain rfl := putKey_ok h₃
  have hvalue := newURef_value h₄
  have hext := newURef_extends h₄
  obtain ⟨-, rfl⟩ := newURef_ok h₄
  obtain rfl := putKey_ok h₅
  simp only at hnumber
  have hpe : p' = { p with versions := p.versions ++ [⟨p.nextVersion, contract, true⟩] } := by
    simpa using hp'.symm
  subst hpe hnumber
  refine ⟨package, previous, p, contract, version, ?_, ?_, hp, hc, ?_, ?_, fun u hu => hext u hu,
    rfl, rfl, ?_, hvalue, ?_, ?_⟩
  · rw [hpk]; exact hpackage
  · rw [hck]; exact hprevious
  · exact Function.update_idem ..
  · simp only [Option.or_none]
  · exact fun u v hu => hext.value hu
  · intro a ha
    by_cases hac : a = contract
    · rw [hac]; simp
    · simp only [Function.update_of_ne hac]; exact ha
  · simp

end Install

end Cep18
