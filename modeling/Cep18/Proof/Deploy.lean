import Cep18.Proof.Install
import Cep18.Proof.Refine

/-!
# Installing a token

`Deployment.rep`: whatever a successful installation was given, the store it leaves, in
the context of the new contract, holds the token that the arguments describe
(`Config.token`). From there on, the contract refines the abstract token.
-/

namespace Cep18

open Program Constants

variable {Key : Type} [CasperKey Key]

section Prepared

variable {D : ItemKeys Key} {l : Layout} {s s' : Store Key D}

theorem newDictionary_named {name n : String} {u : URef} (hn : n ≠ name)
    (h : (newDictionary name : HostM Key D URef).run s = .ok u s') : s'.named n = s.named n := by
  obtain ⟨-, -, rfl⟩ := newDictionary_ok h
  exact Function.update_of_ne hn _ _

theorem Prepared.newDictionary {name symbol : String} {decimals flag mode : UInt8} {supply : U256}
    (hp : Prepared l name symbol decimals flag mode supply s) {dict : String} {u : URef}
    (hd : dict ∉ valueNames) (h : (newDictionary dict : HostM Key D URef).run s = .ok u s') :
    Prepared l name symbol decimals flag mode supply s' :=
  hp.extends (newDictionary_extends h) fun n hn =>
    newDictionary_named (fun he : n = dict => hd (he ▸ hn)) h

theorem Prepared.dictionaryPut {name symbol : String} {decimals flag mode : UInt8} {supply : U256}
    (hp : Prepared l name symbol decimals flag mode supply s) {V : Type} [CLTyped V] {u : URef}
    {i : D.Item} {v : V} {r : Unit}
    (h : (dictionaryPut u i v : HostM Key D Unit).run s = .ok r s') :
    Prepared l name symbol decimals flag mode supply s' := by
  obtain ⟨d, -, rfl⟩ := dictionaryPut_ok h
  exact ⟨⟨hp.name.1, hp.name.2⟩, ⟨hp.symbol.1, hp.symbol.2⟩, ⟨hp.decimals.1, hp.decimals.2⟩,
    ⟨hp.enableMintBurn.1, hp.enableMintBurn.2⟩, ⟨hp.eventsMode.1, hp.eventsMode.2⟩,
    ⟨hp.totalSupply.1, hp.totalSupply.2⟩, hp.apart⟩

theorem Store.Dict.put_self {V : Type} [CLTyped V] {name : String} {u : URef}
    {d : D.Item → Option CLValue} (h : s.Dict name u d) {i : D.Item} {v : V} {r : Unit}
    (hp : (dictionaryPut u i v : HostM Key D Unit).run s = .ok r s') :
    s'.Dict name u (Function.update d i (some (CLTyped.fromT v))) := by
  obtain ⟨d', hd, rfl⟩ := dictionaryPut_ok hp
  rw [h.items] at hd
  cases hd
  exact ⟨h.named, Function.update_self ..⟩

theorem Store.Dict.put_ne {V : Type} [CLTyped V] {name : String} {u u' : URef}
    {d : D.Item → Option CLValue} (h : s.Dict name u d) (hne : u ≠ u') {i : D.Item} {v : V}
    {r : Unit} (hp : (dictionaryPut u' i v : HostM Key D Unit).run s = .ok r s') :
    s'.Dict name u d := by
  obtain ⟨d', -, rfl⟩ := dictionaryPut_ok hp
  exact h.of_write rfl rfl hne

end Prepared

section Init

variable {D : DistinctItemKeys Key} {l : Layout} {T : Token Key} {s s' : Store Key D.toItemKeys}
variable {env : Env Key}

theorem putBadges_ensures (list : Option (List Key)) (badge : SecurityBadge) :
    Ensures (Rep (D := D) l T) (putBadges l.securityBadges list badge)
      (Rep l { T with badges := fun k =>
        if k ∈ list.getD [] then some badge else T.badges k }) := by
  have hT : (list.getD []).foldl (fun T k => Token.putBadge T k badge) T =
      { T with badges := fun k => if k ∈ list.getD [] then some badge else T.badges k } := by
    -- the loop over the keys is one over entries with the same badge
    have hfold := foldl_putBadge T ((list.getD []).map fun k => (k, badge))
    rw [List.foldl_map, List.foldl_map] at hfold
    rw [hfold]
    congr 1
    funext k
    exact Overlay.foldl_update_const (some badge) k _ T.badges
  rw [← hT]
  exact Ensures.forM (I := Rep (D := D) l) (g := fun T k => Token.putBadge T k badge)
    (fun T k => putBadge_ensures k badge) _ T

/-- `init_events`, on a store without an event log: its mode is known, and a log is there if
the mode asks for one. -/
theorem initEvents_ok {m : UInt8} {u : URef} {r : Unit} (hm : s.Cell EVENTS_MODE u m)
    (h : (initEvents : HostM Key D.toItemKeys Unit).run s = .ok r s') :
    ∃ mode e, EventsMode.tryFrom m = .ok mode ∧ s.Extends s' ∧
      (∀ n, n ≠ EVENTS_DICT → s'.named n = s.named n) ∧
      (mode = .CES → s'.named EVENTS_DICT = some (ofURef e) ∧ s'.logs e = some []) := by
  unfold initEvents at h
  rw [bind_of_ok (readFrom_run hm)] at h
  obtain ⟨mode, t, ht, h⟩ := bind_eq_ok.1 h
  obtain ⟨hmode, rfl⟩ := unwrapOrRevert_eq_ok ht
  cases mode with
  | NoEvents =>
    cases h
    exact ⟨.NoEvents, 0, hmode, .refl _, fun _ _ => rfl, fun hc => by cases hc⟩
  | CES =>
    obtain ⟨e, -, he, rfl⟩ := cesInit_ok h
    refine ⟨.CES, e, hmode, fun x hx => ⟨rfl, rfl, ?_⟩, fun n hn => ?_, fun _ => ⟨?_, ?_⟩⟩
    · exact Function.update_of_ne (ne_of_inUse hx he) _ s.logs
    · exact Function.update_of_ne hn _ s.named
    · simp
    · simp

section Steps

-- the steps of `init` that make its dictionaries
variable {packageHash : Key} {supply : U256} {ua ub us : URef} {r₁ r₄ r₆ : Unit}
variable {s₁ s₂ s₃ s₄ s₅ s₆ s₇ : Store Key D.toItemKeys}
variable (h₁ : (putKey PACKAGE_HASH packageHash : HostM Key D.toItemKeys Unit).run s = .ok r₁ s₁)
variable (h₂ : (newDictionary ALLOWANCES : HostM Key D.toItemKeys URef).run s₁ = .ok ua s₂)
variable (h₃ : (newDictionary BALANCES : HostM Key D.toItemKeys URef).run s₂ = .ok ub s₃)
variable (h₄ : (writeBalanceTo ub (ofAccount env.caller) supply : HostM Key D.toItemKeys Unit).run
  s₃ = .ok r₄ s₄)
variable (h₅ : (newDictionary SECURITY_BADGES : HostM Key D.toItemKeys URef).run s₄ = .ok us s₅)
variable (h₆ : (dictionaryPut us (D.ofKey (ofAccount env.caller)) SecurityBadge.Admin :
  HostM Key D.toItemKeys Unit).run s₅ = .ok r₆ s₆)
include h₁ h₂ h₃ h₄ h₅ h₆

/-- The prepared values stay in place. -/
theorem init_prepared {name symbol : String} {decimals flag m : UInt8}
    (hp : Prepared l name symbol decimals flag m supply s) :
    Prepared l name symbol decimals flag m supply s₆ := by
  have hp₁ : Prepared l name symbol decimals flag m supply s₁ := by
    obtain rfl := putKey_ok h₁
    exact hp.extends (.of_eq rfl rfl rfl) fun n hn =>
      Function.update_of_ne (fun he : n = PACKAGE_HASH => absurd (he ▸ hn) (by decide)) _ _
  have hp₃ := (hp₁.newDictionary (by decide) h₂).newDictionary (by decide) h₃
  exact ((hp₃.dictionaryPut h₄).newDictionary (by decide) h₅).dictionaryPut h₆

/-- No other named key is put. -/
theorem init_named {n : String} (hn : n ∉ [PACKAGE_HASH, ALLOWANCES, BALANCES, SECURITY_BADGES]) :
    s₆.named n = s.named n := by
  simp only [List.mem_cons, List.not_mem_nil, or_false, not_or] at hn
  obtain ⟨n₁, n₂, n₃, n₄⟩ := hn
  have e₁ : s₁.named n = s.named n := by
    rw [putKey_ok h₁]
    exact Function.update_of_ne n₁ _ _
  have e₄ : s₄.named n = s₃.named n := by
    obtain ⟨d, -, rfl⟩ := dictionaryPut_ok h₄
    rfl
  have e₆ : s₆.named n = s₅.named n := by
    obtain ⟨d, -, rfl⟩ := dictionaryPut_ok h₆
    rfl
  rw [e₆, newDictionary_named n₄ h₅, e₄, newDictionary_named n₃ h₃, newDictionary_named n₂ h₂, e₁]

/-- **Once the events are initialised, the rest of `init` succeeds**, and leaves the token that its
caller, its arguments and the prepared values describe. -/
theorem init_rest {name symbol : String} {decimals flag m : UInt8} {r₇ : Unit}
    (hp : Prepared l name symbol decimals flag m supply s)
    (h₇ : (initEvents : HostM Key D.toItemKeys Unit).run s₆ = .ok r₇ s₇)
    (adminList minterList : Option (List Key)) :
    ∃ l' mode r s', EventsMode.tryFrom m = .ok mode ∧
      (do
        putBadges us minterList .Minter
        putBadges us adminList .Admin
        recordEventDictionary (.Mint (ofAccount env.caller) supply) :
          HostM Key D.toItemKeys Unit).run s₇ = .ok r s' ∧
      Rep l' (Config.token ⟨ofAccount env.caller, name, symbol, decimals, supply, mode, flag,
        adminList, minterList⟩) s' := by
  -- the three dictionaries are new one after the other
  have da₂ := newDictionary_dict h₂
  have da₃ := da₂.extends (newDictionary_extends h₃) (newDictionary_named (by decide) h₃)
  have db₃ := newDictionary_dict h₃
  have hab : ua ≠ ub := ne_of_inUse (inUse_of_items da₂.items) (newDictionary_ok h₃).2.1
  have da₄ := da₃.put_ne hab h₄
  have db₄ := db₃.put_self h₄
  have has : ua ≠ us := ne_of_inUse (inUse_of_items da₄.items) (newDictionary_ok h₅).2.1
  have hbs : ub ≠ us := ne_of_inUse (inUse_of_items db₄.items) (newDictionary_ok h₅).2.1
  have da₆ := (da₄.extends (newDictionary_extends h₅) (newDictionary_named (by decide) h₅)).put_ne
    has h₆
  have db₆ := (db₄.extends (newDictionary_extends h₅) (newDictionary_named (by decide) h₅)).put_ne
    hbs h₆
  have ds₆ := (newDictionary_dict h₅).put_self h₆
  have hp₆ := init_prepared h₁ h₂ h₃ h₄ h₅ h₆ hp
  -- events, and all of it together
  obtain ⟨mode, e, hmode, hext, hnamed, hlog⟩ := initEvents_ok hp₆.eventsMode h₇
  have hp₇ := hp₆.extends hext fun n hn => hnamed n fun he : n = EVENTS_DICT =>
    absurd (he ▸ hn) (by decide)
  have da₇ := da₆.extends hext (hnamed _ (by decide))
  have db₇ := db₆.extends hext (hnamed _ (by decide))
  have ds₇ := ds₆.extends hext (hnamed _ (by decide))
  let installer : Key := ofAccount env.caller
  let l' : Layout := { l with balances := ub, allowances := ua, securityBadges := us, events := e }
  let T : Token Key := {
    balances := Function.update (fun _ => 0) installer supply.toNat
    allowances := fun _ _ => 0
    totalSupply := supply.toNat
    name := name
    symbol := symbol
    decimals := decimals
    badges := fun k => if k = installer then some .Admin else none
    enableMintBurn := flag
    eventsMode := mode
    log := [] }
  have hrep : Rep l' T s₇ := by
    refine ⟨⟨hp₇.name, hp₇.symbol, hp₇.decimals, hp₇.enableMintBurn, ⟨m, hp₇.eventsMode, hmode⟩,
      ⟨supply, hp₇.totalSupply, rfl⟩, hp₇.apart⟩, ⟨⟨_, db₇, ?_⟩, ⟨_, da₇, ?_⟩, ⟨_, ds₇, ?_⟩,
      ⟨hab.symm, hbs, has⟩⟩, ⟨hlog, fun _ => rfl⟩⟩
    · exact holdsAmount_update D.ofKey_inj (fun _ => Or.inl ⟨rfl, rfl⟩) installer supply
    · exact fun _ _ => Or.inl ⟨rfl, rfl⟩
    · intro k
      by_cases hk : k = installer
      · subst hk; simp [T, installer]
      · rw [Function.update_of_ne fun h => hk (D.ofKey_inj _ _ h)]
        simp [T, hk]
  obtain ⟨r, s', hrun, hT⟩ := ((putBadges_ensures minterList .Minter).bind fun _ =>
    (putBadges_ensures adminList .Admin).bind fun _ =>
      recordEventDictionary_ensures (.Mint installer supply)) s₇ hrep
  exact ⟨l', mode, r, s', hmode, hrun, hT⟩

end Steps

/-- **A successful `init`** leaves a store that holds the token its caller, its arguments and
the prepared values describe. -/
theorem init_ok {name symbol : String} {decimals flag m : UInt8} {supply : U256} {r : Unit}
    (hp : Prepared l name symbol decimals flag m supply s)
    (hs : env.arg? U256 TOTAL_SUPPLY = some supply)
    (h : (init env : HostM Key D.toItemKeys Unit).run s = .ok r s') :
    ∃ l' mode adminList minterList, EventsMode.tryFrom m = .ok mode ∧
      env.optArg? (List Key) ADMIN_LIST = some adminList ∧
      env.optArg? (List Key) MINTER_LIST = some minterList ∧
      Rep l' (Config.token ⟨ofAccount env.caller, name, symbol, decimals, supply, mode, flag,
        adminList, minterList⟩) s' := by
  unfold init at h
  obtain ⟨k, s₀, h₀, h⟩ := bind_eq_ok.1 h
  obtain ⟨-, rfl⟩ := getKey_ok h₀
  split at h
  · cases h
  obtain ⟨packageHash, s₀, h₀, h⟩ := bind_eq_ok.1 h
  obtain ⟨-, rfl⟩ := getNamedArg_ok h₀
  obtain ⟨_, s₁, h₁, h⟩ := bind_eq_ok.1 h
  obtain ⟨ua, s₂, h₂, h⟩ := bind_eq_ok.1 h
  obtain ⟨ub, s₃, h₃, h⟩ := bind_eq_ok.1 h
  obtain ⟨supply', s₀, h₀, h⟩ := bind_eq_ok.1 h
  obtain ⟨hs', rfl⟩ := getNamedArg_ok h₀
  cases hs.symm.trans hs'
  obtain ⟨_, s₄, h₄, h⟩ := bind_eq_ok.1 h
  obtain ⟨us, s₅, h₅, h⟩ := bind_eq_ok.1 h
  obtain ⟨_, s₆, h₆, h⟩ := bind_eq_ok.1 h
  obtain ⟨adminList, s₀, h₀, h⟩ := bind_eq_ok.1 h
  obtain ⟨hadmin, rfl⟩ := getOptionalNamedArg_ok (by decide) h₀
  obtain ⟨minterList, s₀, h₀, h⟩ := bind_eq_ok.1 h
  obtain ⟨hminter, rfl⟩ := getOptionalNamedArg_ok (by decide) h₀
  obtain ⟨_, s₇, h₇, h⟩ := bind_eq_ok.1 h
  obtain ⟨l', mode, r', t, hmode, hrun, hrep⟩ :=
    init_rest h₁ h₂ h₃ h₄ h₅ h₆ hp h₇ adminList minterList
  rw [h] at hrun
  cases hrun
  exact ⟨l', mode, adminList, minterList, hmode, hadmin, hminter, hrep⟩

end Init

/-! ### Deployments -/

variable {D : DistinctItemKeys Key}

omit [CasperKey Key] in
/-- `init` is given the lists as they were given to the installation. -/
theorem initArgs_lists {env : Env Key} {supply : U256} {packageHash : Key}
    {adminList minterList : Option (List Key)}
    (h : env.args = initArgs supply packageHash adminList minterList) :
    env.optArg? (List Key) ADMIN_LIST = some adminList ∧
      env.optArg? (List Key) MINTER_LIST = some minterList := by
  unfold Env.optArg?
  rw [h]
  constructor
  · cases adminList <;> rfl
  · cases minterList <;> rfl

/-- The account finds the new contract under its name. -/
theorem Installed.enter {D : ItemKeys Key} {s s' : Store Key D} {name : String} {package : HashAddr}
    {access version : URef} {contract : HashAddr}
    (h : Installed name package access contract version s s') {c : Contract Key}
    (hc : s'.contracts contract = some c) :
    s'.enter name = some { s' with named := c.namedKeys } := by
  have hname : s'.named (CONTRACT_NAME_PREFIX ++ name) = some (ofHash contract) := by
    rw [h.named]
    unfold putNamed
    rw [Function.update_of_ne (contract_ne_version _ _), Function.update_self]
  unfold Store.enter
  simp only [hname, Option.bind_eq_bind, Option.bind_some, CasperKey.intoHash_ofHash, hc]

/-- A deployment is a successful installation, entered. -/
theorem deploy_eq_some {D : ItemKeys Key} {env : Env Key} {name : String} {before store : Store Key D} :
    deploy env name before = some store ↔
      ∃ r s, (installContract env name).run before = .ok r s ∧ s.enter name = some store := by
  unfold deploy
  cases h : (installContract env name).run before with
  | ok r s =>
    constructor
    · intro hs
      exact ⟨r, s, rfl, hs⟩
    · rintro ⟨r', s', hr, hs⟩
      cases hr; exact hs
  | error e s =>
    constructor
    · intro hs; cases hs
    · rintro ⟨r', s', hr, -⟩
      cases hr

/-- What a deployment starts from is what `init` left, running on the values that the arguments
of the session describe. -/
theorem deploy_init {D : ItemKeys Key} {env : Env Key} {name : String} {before store : Store Key D}
    (hd : deploy env name before = some store) :
    ∃ contract s l symbol decimals supply mode flag adminList minterList start final,
      InitRan env name contract s l symbol decimals supply mode flag adminList minterList
          start final ∧
        store.named = final.named ∧ store.values = final.values ∧ store.dicts = final.dicts ∧
          store.logs = final.logs := by
  obtain ⟨r, s, hs, henter⟩ := deploy_eq_some.1 hd
  obtain ⟨package, access, contract, version, hinst, l, symbol, decimals, supply, mode, flag,
    adminList, minterList, start, final, hran⟩ := installContract_ok hs
  obtain ⟨k, hk⟩ := hran.namedKeys
  -- the context of the new contract
  obtain rfl : { s with named := final.named } = store :=
    Option.some.inj ((hinst.enter hk).symm.trans henter)
  exact ⟨contract, s, l, symbol, decimals, supply, mode, flag, adminList, minterList, start, final,
    hran, rfl, hran.values, hran.dicts, hran.logs⟩

/-- A successful installation is a deployment. -/
theorem deploy_of_ok {D : ItemKeys Key} {env : Env Key} {name : String} {before s : Store Key D}
    {r : Unit} (h : (installContract env name).run before = .ok r s) :
    ∃ store, deploy env name before = some store := by
  obtain ⟨package, access, contract, version, hinst, -⟩ := installContract_ok h
  obtain ⟨keys, hkeys⟩ := hinst.registered
  exact ⟨_, deploy_eq_some.2 ⟨r, s, h, hinst.enter hkeys⟩⟩

theorem deploy_rep {env : Env Key} {name : String} {before store : Store Key D.toItemKeys}
    (hd : deploy env name before = some store) :
    ∃ c l, env.config? name = some c ∧ Rep l c.token store := by
  obtain ⟨contract, s, l, symbol, decimals, supply, mode, flag, adminList, minterList, start, final,
    hran, hn, hv, hd, hl⟩ := deploy_init hd
  obtain ⟨frame, packageHash, hinit⟩ := hran.ran
  -- the arguments of the session, as `init` receives them
  obtain ⟨l', eventsMode, admins, minters, hmode, hadmin, hminter, hrep⟩ :=
    init_ok hran.prepared rfl hinit
  have hadmin' : admins = adminList := Option.some.inj (hadmin.symm.trans (initArgs_lists rfl).1)
  have hminter' : minters = minterList := Option.some.inj (hminter.symm.trans (initArgs_lists rfl).2)
  subst hadmin' hminter'
  refine ⟨_, l', ?_, hrep.congr hn hv hd hl⟩
  simp only [Env.config?, hran.symbolArg, hran.decimalsArg, hran.totalSupplyArg,
    hran.eventsModeArg, hran.adminListArg, hran.minterListArg, hran.enableMintBurnArg, hmode,
    Option.bind_eq_bind, Option.bind_some, Except.toOption]

/-- **A deployment holds the token its arguments describe.** -/
theorem Deployment.rep (d : Deployment Key D.toItemKeys) :
    ∃ c l, d.env.config? d.name = some c ∧ Rep l c.token d.store := deploy_rep d.deployed

/-! ### What the arguments become -/

omit [CasperKey Key] in
theorem Env.arg?_of_optArg? {V : Type} [FromArg Key V] {env : Env Key} {name : String}
    {v : Option V} (h : env.optArg? V name = some v) : env.arg? V name = v := by
  unfold Env.optArg? at h
  unfold Env.arg?
  cases ha : env.args name with
  | none => rw [ha] at h; cases h; rfl
  | some arg =>
    rw [ha] at h
    simp only at h
    cases hv : (FromArg.fromArg arg : Option V) with
    | none => rw [hv] at h; cases h
    | some w => rw [hv] at h; cases h; simp [hv]

/-- The installed supply is the argument of the installation. -/
theorem Deployment.totalSupply (d : Deployment Key D.toItemKeys) :
    d.env.arg? U256 TOTAL_SUPPLY = some d.store.totalSupply := by
  obtain ⟨c, l, hc, hr⟩ := d.rep
  have hs : d.store.totalSupply = c.totalSupply := BitVec.eq_of_toNat_eq hr.totalSupply
  rw [hs]
  exact (Env.gives_of_config? hc).totalSupply

/-- The modality is the argument of the installation; a missing one is zero. -/
theorem Deployment.enableMintBurn (d : Deployment Key D.toItemKeys) :
    d.store.enableMintBurn = (d.env.arg? UInt8 ENABLE_MINT_BURN).getD 0 := by
  obtain ⟨c, l, hc, hr⟩ := d.rep
  obtain ⟨flag, hflag, hf⟩ := (Env.gives_of_config? hc).enableMintBurn
  rw [hr.enableMintBurn, Env.arg?_of_optArg? hflag]
  exact hf

end Cep18
