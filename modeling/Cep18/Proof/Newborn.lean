import Cep18.Proof.Confine
import Cep18.Proof.Upgrades

/-!
# What an installation adds

An installation leaves everything as it was that the host had, and adds a package with one
contract, which uses nothing that was in use before (`installContract_gains`). Inside, `init`
runs in the context of a contract whose named keys lead to new URefs only (`Newborn`), makes
more of them, and writes to no other.
-/

namespace Cep18

open Program Constants

variable {Key : Type} [CasperKey Key] {D : ItemKeys Key} {before s s' : Store Key D}

/-- Seen from a new contract: what was in use before is as it was, and the contract uses none
of it. -/
structure Newborn (before s : Store Key D) : Prop where
  grows : before.Extends s
  fresh : ∀ u, s.named.Uses u → before.inUse u = false ∧ s.inUse u = true

/-- What is new was new before. -/
theorem Store.Extends.not_inUse (h : s.Extends s') {u : URef} (hu : s'.inUse u = false) :
    s.inUse u = false := by
  cases hs : s.inUse u with
  | false => rfl
  | true => rw [h.inUse hs] at hu; cases hu

/-- A further named key that leads to a new URef. -/
theorem Newborn.step (h : Newborn before s) (hs : s.Extends s') {name : String} {u : URef}
    (hn : s'.named = Function.update s.named name (some (ofURef u))) (hu : s.inUse u = false)
    (hin : s'.inUse u = true) : Newborn before s' := by
  refine ⟨h.grows.trans hs, ?_⟩
  rintro w ⟨m, hm, hw⟩
  rw [hn] at hw
  by_cases hmn : m = name
  · subst hmn
    rw [Function.update_self, Option.bind_some, CasperKey.intoURef_ofURef] at hw
    cases hw
    exact ⟨h.grows.not_inUse hu, hin⟩
  · rw [Function.update_of_ne hmn] at hw
    obtain ⟨h1, h2⟩ := h.fresh w ⟨m, hm, hw⟩
    exact ⟨h1, hs.inUse h2⟩

/-- A write to a URef that was not in use before. -/
theorem Newborn.write (h : Newborn before s) {u : URef} (hu : before.inUse u = false)
    (hn : s'.named = s.named) (hs : ∀ w, w ≠ u → s.SameAt w s')
    (hin : ∀ w, s.inUse w = true → s'.inUse w = true) : Newborn before s' := by
  constructor
  · intro w hw
    have hne : w ≠ u := ne_of_inUse hw hu
    obtain ⟨h1, h2, h3⟩ := h.grows w hw
    exact ⟨(hs w hne).values.trans h1, (hs w hne).dicts.trans h2, (hs w hne).logs.trans h3⟩
  · intro w hw
    rw [hn] at hw
    exact ⟨(h.fresh w hw).1, hin w (h.fresh w hw).2⟩

theorem newDictionary_newborn (name : String) :
    Maintains (Newborn before) (newDictionary name : HostM Key D URef) := by
  intro s u s' hs h
  have hext := newDictionary_extends h
  have hd := newDictionary_dict h
  obtain ⟨-, hu, rfl⟩ := newDictionary_ok h
  exact hs.step hext rfl hu (inUse_of_items hd.items)

/-- The dictionary is not one that was there before. -/
theorem newDictionary_new {name : String} (s : Store Key D) (u : URef) (s' : Store Key D)
    (hs : Newborn before s) (h : (newDictionary name : HostM Key D URef).run s = .ok u s') :
    before.inUse u = false := hs.grows.not_inUse (newDictionary_ok h).2.1

theorem dictionaryPut_newborn {V : Type} [CLTyped V] {u : URef} (hu : before.inUse u = false)
    (i : D.Item) (v : V) :
    Maintains (Newborn before) (dictionaryPut u i v : HostM Key D Unit) := by
  intro s r s' hs h
  obtain ⟨d, hd, rfl⟩ := dictionaryPut_ok h
  refine hs.write hu rfl (fun w hw => ⟨rfl, Function.update_of_ne hw _ _, rfl⟩) fun w hw => ?_
  unfold Store.inUse at hw ⊢
  by_cases hwu : w = u
  · subst hwu; simp
  · simp only [Function.update_of_ne hwu]; exact hw

theorem putKey_newborn {name : String} (hn : name ∉ tokenNames) (k : Key) :
    Maintains (Newborn before) (putKey name k : HostM Key D Unit) := by
  intro s r s' hs h
  obtain rfl := putKey_ok h
  refine ⟨hs.grows.trans (.of_eq rfl rfl rfl), ?_⟩
  rintro w ⟨m, hm, hw⟩
  simp only at hw
  rw [Function.update_of_ne fun he : m = name => hn (he ▸ hm)] at hw
  exact hs.fresh w ⟨m, hm, hw⟩

theorem initEvents_newborn : Maintains (Newborn before) (initEvents : HostM Key D Unit) := by
  unfold initEvents
  refine (Maintains.of_reads (readFrom_keeps _)).bind fun _ => ?_
  refine (Maintains.of_reads (unwrapOrRevert_keeps _)).bind fun _ => Maintains.ite ?_ (.pure _)
  intro s r s' hs h
  obtain ⟨e, -, he, rfl⟩ := cesInit_ok h
  refine hs.step (fun w hw => ⟨rfl, rfl, ?_⟩) rfl he (by simp [Store.inUse])
  exact Function.update_of_ne (ne_of_inUse hw he) _ _

theorem record_newborn (event : Event Key) :
    Maintains (Newborn before) (recordEventDictionary event : HostM Key D Unit) := by
  intro s r s' hs h
  -- wherever it is written, the contract's own named key led there
  obtain ⟨hn, -, -, hsame, hin⟩ := record_confined event s r s' (.refl _ s) h
  constructor
  · intro w hw
    have hnot : ¬ s.named.Uses w := fun huses => by
      rw [(hs.fresh w huses).1] at hw; cases hw
    obtain ⟨h1, h2, h3⟩ := hs.grows w hw
    exact ⟨(hsame w hnot).values.trans h1, (hsame w hnot).dicts.trans h2,
      (hsame w hnot).logs.trans h3⟩
  · intro w hw
    rw [hn] at hw
    exact ⟨(hs.fresh w hw).1, hin w (hs.fresh w hw).2⟩

/-- **`init` keeps the new contract to itself.** -/
theorem init_newborn (env : Env Key) :
    Maintains (Newborn before) (init env : HostM Key D Unit) := by
  unfold init
  refine (Maintains.of_reads (getKey_keeps _)).bind fun _ => (Maintains.throw _).ite ?_
  refine (Maintains.of_reads (getNamedArg_keeps _ _)).bind fun _ => ?_
  refine (putKey_newborn (by decide) _).bind fun _ => (newDictionary_newborn _).bind fun _ => ?_
  refine (newDictionary_newborn _).bind_of newDictionary_new fun u hu => ?_
  refine (Maintains.of_reads (getNamedArg_keeps _ _)).bind fun _ => ?_
  refine (dictionaryPut_newborn hu _ _).bind fun _ => ?_
  refine (newDictionary_newborn _).bind_of newDictionary_new fun w hw => ?_
  refine (dictionaryPut_newborn hw _ _).bind fun _ => ?_
  refine (Maintains.of_reads (getOptionalNamedArg_keeps _ _ (by decide))).bind fun _ => ?_
  refine (Maintains.of_reads (getOptionalNamedArg_keeps _ _ (by decide))).bind fun _ => ?_
  refine initEvents_newborn.bind fun _ => ?_
  refine (Maintains.forM (fun _ => dictionaryPut_newborn hw _ _) _).bind fun _ => ?_
  exact (Maintains.forM (fun _ => dictionaryPut_newborn hw _ _) _).bind fun _ => record_newborn _

/-! ### Installing -/

/-- From `s` to `s'`, the host has one token more: the contract `c`, of a package of its own. -/
structure Store.Gains (s s' : Store Key D) (contract : HashAddr) (c : Contract Key) : Prop where
  newContract : s.contracts contract = none
  newPackage : s.packages c.package = none
  contracts : s'.contracts = Function.update s.contracts contract (some c)
  packages : ∃ access, s'.packages =
    Function.update s.packages c.package (some ⟨access, [⟨1, contract, true⟩]⟩)
  entryPoints : c.entryPoints = generateEntryPoints
  grows : s.Extends s'
  fresh : ∀ u, c.namedKeys.Uses u → s.inUse u = false ∧ s'.inUse u = true

/-- The values prepared for a new contract are at new URefs. -/
theorem Stored.newborn {l : Layout} {name symbol : String} {decimals flag mode : UInt8}
    {supply : U256} {t : Store Key D} (h : Stored l name symbol decimals flag mode supply t) (ht : before.Extends t)
    (hnew : ∀ u ∈ [l.name, l.symbol, l.decimals, l.totalSupply, l.eventsMode, l.enableMintBurn],
      before.inUse u = false) : Newborn before { t with named := valueKeys l } := by
  refine ⟨ht.trans (.of_eq rfl rfl rfl), ?_⟩
  rintro u ⟨n, hn, hu⟩
  have hmem : u ∈ [l.name, l.symbol, l.decimals, l.totalSupply, l.eventsMode, l.enableMintBurn] ∧
      t.inUse u = true := by
    simp only [tokenNames, List.mem_cons, List.not_mem_nil, or_false] at hn
    rcases hn with rfl | rfl | rfl | rfl | rfl | rfl | rfl | rfl | rfl | rfl <;>
      simp [valueKeys, NAME, SYMBOL, DECIMALS, TOTAL_SUPPLY, EVENTS_MODE,
        ENABLE_MINT_BURN, BALANCES, ALLOWANCES, SECURITY_BADGES, EVENTS_DICT] at hu
    · subst hu; exact ⟨by simp, inUse_of_value h.name⟩
    · subst hu; exact ⟨by simp, inUse_of_value h.symbol⟩
    · subst hu; exact ⟨by simp, inUse_of_value h.decimals⟩
    · subst hu; exact ⟨by simp, inUse_of_value h.totalSupply⟩
    · subst hu; exact ⟨by simp, inUse_of_value h.eventsMode⟩
    · subst hu; exact ⟨by simp, inUse_of_value h.enableMintBurn⟩
  exact ⟨hnew u hmem.1, hmem.2⟩

/-- Six values at URefs of their own make a new contract, whatever else has become of the store. -/
theorem newborn_of_newURefs {name symbol : String} {decimals flag mode : UInt8} {supply : U256}
    {s₁ s₂ s₃ s₄ s₅ s₆ t : Store Key D} {u₁ u₂ u₃ u₄ u₅ u₆ : URef}
    (h₁ : (newURef name : HostM Key D URef).run s = .ok u₁ s₁)
    (h₂ : (newURef symbol : HostM Key D URef).run s₁ = .ok u₂ s₂)
    (h₃ : (newURef decimals : HostM Key D URef).run s₂ = .ok u₃ s₃)
    (h₄ : (newURef supply : HostM Key D URef).run s₃ = .ok u₄ s₄)
    (h₅ : (newURef mode : HostM Key D URef).run s₄ = .ok u₅ s₅)
    (h₆ : (newURef flag : HostM Key D URef).run s₅ = .ok u₆ s₆) (e : s₆.Extends t) :
    Newborn s { t with named := valueKeys ⟨u₁, u₂, u₃, u₄, u₅, u₆, 0, 0, 0, 0⟩ } := by
  obtain ⟨hstored, e₆, -⟩ := stored_of_newURefs h₁ h₂ h₃ h₄ h₅ h₆
  have e₁ : s.Extends s₁ := newURef_extends h₁
  have e₂ : s.Extends s₂ := e₁.trans (newURef_extends h₂)
  have e₃ : s.Extends s₃ := e₂.trans (newURef_extends h₃)
  have e₄ : s.Extends s₄ := e₃.trans (newURef_extends h₄)
  have e₅ : s.Extends s₅ := e₄.trans (newURef_extends h₅)
  refine (hstored.extends e).newborn (e₆.trans e) fun u hu => ?_
  simp only [List.mem_cons, List.not_mem_nil, or_false] at hu
  rcases hu with rfl | rfl | rfl | rfl | rfl | rfl
  · exact (newURef_ok h₁).1
  · exact e₁.not_inUse (newURef_ok h₂).1
  · exact e₂.not_inUse (newURef_ok h₃).1
  · exact e₃.not_inUse (newURef_ok h₄).1
  · exact e₄.not_inUse (newURef_ok h₅).1
  · exact e₅.not_inUse (newURef_ok h₆).1

/-- **A successful installation adds one token**, and the account finds it under its name. -/
theorem installContract_gains {env : Env Key} {name : String} {r : Unit}
    (h : (installContract env name : HostM Key D Unit).run s = .ok r s') :
    ∃ contract c, s.Gains s' contract c ∧ s'.enter name = some (s'.within c) := by
  unfold installContract at h
  obtain ⟨symbol, s₀, h₀, h⟩ := bind_eq_ok.1 h
  obtain ⟨-, rfl⟩ := getNamedArg_ok h₀
  obtain ⟨decimals, s₀, h₀, h⟩ := bind_eq_ok.1 h
  obtain ⟨-, rfl⟩ := getNamedArg_ok h₀
  obtain ⟨supply, s₀, h₀, h⟩ := bind_eq_ok.1 h
  obtain ⟨-, rfl⟩ := getNamedArg_ok h₀
  obtain ⟨mode, s₀, h₀, h⟩ := bind_eq_ok.1 h
  obtain ⟨-, rfl⟩ := getOptionalNamedArg_ok (by decide) h₀
  obtain ⟨adminList, s₀, h₀, h⟩ := bind_eq_ok.1 h
  obtain ⟨-, rfl⟩ := getOptionalNamedArg_ok (by decide) h₀
  obtain ⟨minterList, s₀, h₀, h⟩ := bind_eq_ok.1 h
  obtain ⟨-, rfl⟩ := getOptionalNamedArg_ok (by decide) h₀
  obtain ⟨flag, s₀, h₀, h⟩ := bind_eq_ok.1 h
  obtain ⟨-, rfl⟩ := getOptionalNamedArg_ok (by decide) h₀
  -- six new URefs
  obtain ⟨u₁, s₁, h₁, h⟩ := bind_eq_ok.1 h
  obtain ⟨u₂, s₂, h₂, h⟩ := bind_eq_ok.1 h
  obtain ⟨u₃, s₃, h₃, h⟩ := bind_eq_ok.1 h
  obtain ⟨u₄, s₄, h₄, h⟩ := bind_eq_ok.1 h
  obtain ⟨u₅, s₅, h₅, h⟩ := bind_eq_ok.1 h
  obtain ⟨u₆, s₆, h₆, h⟩ := bind_eq_ok.1 h
  obtain ⟨-, -, hhost⟩ := stored_of_newURefs h₁ h₂ h₃ h₄ h₅ h₆
  obtain ⟨-, hc₆, hp₆⟩ : s₆.named = s.named ∧ s₆.contracts = s.contracts ∧
      s₆.packages = s.packages := by simpa [Store.host] using hhost
  -- the contract and its named keys
  obtain ⟨⟨contract, number⟩, s₇, h₇, h⟩ := bind_eq_ok.1 h
  obtain ⟨k, s₀, h₀, h⟩ := bind_eq_ok.1 h
  obtain ⟨-, rfl⟩ := getKey_ok h₀
  obtain ⟨packageHash, s₀, h₀, h⟩ := bind_eq_ok.1 h
  obtain ⟨-, rfl⟩ := unwrapOrRevertWith_ok h₀
  obtain ⟨_, s₈, h₈, h⟩ := bind_eq_ok.1 h
  obtain ⟨version, s₉, h₉, h⟩ := bind_eq_ok.1 h
  obtain ⟨_, t, h₁₀, h⟩ := bind_eq_ok.1 h
  obtain ⟨package, access, hpackage, hcontract, e, -, hnamed, hcontracts, hpackages⟩ :=
    register_ok h₇ h₈ h₉ h₁₀
  rw [hp₆] at hpackage hpackages
  rw [hc₆] at hcontract hcontracts
  -- `init` runs in the context of the contract, which is a new one
  obtain ⟨_, _, h₁₁, h⟩ := bind_eq_ok.1 h
  cases h
  obtain ⟨c, final, hc, hinit, rfl⟩ := callContract_ok h₁₁
  let l : Layout := ⟨u₁, u₂, u₃, u₄, u₅, u₆, 0, 0, 0, 0⟩
  obtain rfl : c = ⟨package, valueKeys l, generateEntryPoints⟩ := by
    rw [hcontracts, Function.update_self] at hc
    exact (Option.some.inj hc).symm
  replace hinit := invoke_init_ok hinit
  obtain ⟨-, fc, fp⟩ : final.values = t.values ∧ final.contracts = t.contracts ∧
      final.packages = t.packages := by simpa [Store.frame] using init_keeps _ _ _ _ hinit
  have hborn : Newborn s { t with named := valueKeys l } :=
    newborn_of_newURefs h₁ h₂ h₃ h₄ h₅ h₆ e
  have hfinal : Newborn s final := init_newborn _ _ _ _ hborn hinit
  refine ⟨contract, ⟨package, final.named, generateEntryPoints⟩, ⟨hcontract, hpackage, ?_,
    ⟨access, fp.trans hpackages⟩, rfl, hfinal.grows.trans (.of_eq rfl rfl rfl), hfinal.fresh⟩, ?_⟩
  · show Function.update final.contracts _ _ = _
    rw [fc, hcontracts, Function.update_idem]
  · have hname : t.named (CONTRACT_NAME_PREFIX ++ name) = some (ofHash contract) := by
      rw [hnamed]
      unfold putNamed
      rw [Function.update_of_ne (contract_ne_version _ _), Function.update_self]
    unfold Store.enter
    simp only [hname, Option.bind_eq_bind, Option.bind_some, CasperKey.intoHash_ofHash,
      Function.update_self]
    rfl

end Cep18
