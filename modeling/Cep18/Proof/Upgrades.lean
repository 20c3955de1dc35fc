import Cep18.Model.Reference
import Cep18.Proof.Maintain
import Cep18.Proof.Modalities
import Cep18.Spec.Upgrades

/-!
# Upgrades

An upgrade adds a version that takes over the named keys of the current one, and disables
the current one. So requests always run in the same context, and a history refines the
abstract token that its requests lead to, whatever upgrades there were in between.

* `LeftAlone`: what no call of a token changes.
* `Live`: a token, after `k` upgrades, as the account's store holds it. `Live.requested` and
  `Live.upgraded` are what a step of a history keeps of it, `History.live` what all of it keeps.
* `upgrades_invisible`: with and without the upgrades, the token is the same.
-/

namespace Cep18

open Program Constants

variable {Key : Type} [CasperKey Key]

/-! ### What calls leave alone -/

section LeftAlone

/-- The host's state, every single value but the one at `ts`, and, if no events are recorded,
the event logs are as they were at the start. -/
structure LeftAlone {D : ItemKeys Key} (ts : URef) (start s : Store Key D) : Prop where
  named : s.named = start.named
  contracts : s.contracts = start.contracts
  packages : s.packages = start.packages
  values : ∀ u, u ≠ ts → s.values u = start.values u
  logs : EventsMode.tryFrom start.eventsMode = .ok .NoEvents → s.logs = start.logs

/-- What an event log is not part of. -/
def Store.unlogged {D : ItemKeys Key} (s : Store Key D) :
    NamedKeys Key × (HashAddr → Option (Contract Key)) × (HashAddr → Option ContractPackage) ×
      (URef → Option CLValue) :=
  (s.named, s.contracts, s.packages, s.values)

variable {D : DistinctItemKeys Key} {l : Layout} {T : Token Key} {start s s' : Store Key D.toItemKeys}

theorem LeftAlone.refl (ts : URef) (s : Store Key D.toItemKeys) : LeftAlone ts s s :=
  ⟨rfl, rfl, rfl, fun _ _ => rfl, fun _ => rfl⟩

theorem dictionaryPut_leavesAlone {V : Type} [CLTyped V] {ts : URef} (u : URef) (i : D.Item) (v : V) :
    Maintains (LeftAlone ts start) (dictionaryPut u i v : HostM Key D.toItemKeys Unit) := by
  intro s r s' hs h
  obtain ⟨d, -, rfl⟩ := dictionaryPut_ok h
  exact ⟨hs.named, hs.contracts, hs.packages, hs.values, hs.logs⟩

/-- The events mode stays where it is, and what it is. -/
theorem LeftAlone.eventsMode (hr : Rep l T start) (h : LeftAlone l.totalSupply start s) :
    ∃ m, s.Cell EVENTS_MODE l.eventsMode m ∧ EventsMode.tryFrom m = .ok T.eventsMode := by
  obtain ⟨m, hm, hmode⟩ := hr.cells.eventsMode
  have hne : l.eventsMode ≠ l.totalSupply := by
    intro he
    have hapart := hr.cells.apart
    rw [← he] at hapart
    simp at hapart
  exact ⟨m, ⟨by rw [h.named]; exact hm.named, (h.values _ hne).trans hm.value⟩, hmode⟩

theorem record_leavesAlone (hr : Rep l T start) (event : Event Key) :
    Maintains (LeftAlone l.totalSupply start)
      (recordEventDictionary event : HostM Key D.toItemKeys Unit) := by
  intro s r s' hs h
  have hkeeps := recordEventDictionary_keeps (f := Store.unlogged) (fun _ _ _ => rfl) event s r s' h
  obtain ⟨hn, hc, hp, hv⟩ : s'.named = s.named ∧ s'.contracts = s.contracts ∧
      s'.packages = s.packages ∧ s'.values = s.values := by simpa [Store.unlogged] using hkeeps
  refine ⟨hn.trans hs.named, hc.trans hs.contracts, hp.trans hs.packages, fun u hu => ?_,
    fun hno => ?_⟩
  · rw [hv]; exact hs.values u hu
  · -- nothing is recorded
    obtain ⟨m, hm, hmode⟩ := hs.eventsMode hr
    have hT : T.eventsMode = .NoEvents := Except.ok.inj (hr.eventsMode.symm.trans hno)
    unfold recordEventDictionary at h
    rw [bind_of_ok (readFrom_run hm), hmode, hT] at h
    cases h
    exact hs.logs hno

/-- **No call changes any of it**, where the total supply is kept at `ts`. -/
theorem LeftAlone.callInvariant (hr : Rep l T start) :
    CallInvariant (LeftAlone l.totalSupply start) where
  initialised s hs := by
    obtain ⟨d, hd, -⟩ := hr.tables.allowances
    rw [hs.named, hd.named]; rfl
  putAmount u i v := dictionaryPut_leavesAlone u i v
  putBadge _ u _ _ _ i badge := dictionaryPut_leavesAlone u i badge
  writeSupply s u s' hs hu v := by
    obtain ⟨n, hn, -⟩ := hr.cells.totalSupply
    rw [getUref_run (by rw [hs.named]; exact hn.named)] at hu
    cases hu
    intro t r t' ht h
    cases h
    exact ⟨ht.named, ht.contracts, ht.packages,
      fun w hw => (Function.update_of_ne hw ..).trans (ht.values w hw), ht.logs⟩
  record event := record_leavesAlone hr event

theorem exec_leavesAlone (hr : Rep l T s) (c : Call Key) : LeftAlone l.totalSupply s (exec s c) :=
  (program_maintains (LeftAlone.callInvariant hr) c).commit (.refl _ s)

end LeftAlone

/-! ### The context of a contract -/

section Within

variable {D : ItemKeys Key} {s : Store Key D} {c : Contract Key}

/-- The store in the context of a contract. -/
def Store.within (s : Store Key D) (c : Contract Key) : Store Key D := { s with named := c.namedKeys }

/-- A context entered and left leaves things as they were. -/
theorem Store.leave_within {contract : HashAddr} (h : s.contracts contract = some c) :
    s.leave contract c (s.within c) = s := by
  unfold leave within
  simp only
  rw [← h, Function.update_eq_self]

/-- **A call of a contract that answers**, rolled back if it reverts, is the call in its context. -/
theorem commit_callContract {env : Env Key} {contract : HashAddr} {entryPoint : EntryPoint}
    {args : RuntimeArgs Key} (hc : s.contracts contract = some c)
    (ha : entryPoint ∈ c.entryPoints ∧ s.isEnabled c.package contract) :
    commit (callContract env contract entryPoint args) s = s.leave contract c
      (exec (s.within c) (Request.call ⟨env, entryPoint, args⟩ c.package contract)) := by
  have hrun : (callContract env contract entryPoint args : HostM Key D CLValue).run s =
      onState (s.leave contract c) ((Request.call ⟨env, entryPoint, args⟩ c.package
        contract).program.run (s.within c)) := callContract_run hc ha
  unfold exec
  cases hr : (Request.call ⟨env, entryPoint, args⟩ c.package contract).program.run (s.within c) with
  | ok v t =>
    have hx : (callContract env contract entryPoint args).run s = .ok v (s.leave contract c t) :=
      hrun.trans (congrArg (onState (s.leave contract c)) hr)
    rw [commit_of_ok hr, commit_of_ok hx]
  | error e t =>
    have hx : (callContract env contract entryPoint args).run s = .error e (s.leave contract c t) :=
      hrun.trans (congrArg (onState (s.leave contract c)) hr)
    rw [commit_of_error hr, commit_of_error hx, Store.leave_within hc]

theorem Request.program_run {r : Request Key} {package contract : HashAddr}
    (h : s.live package = some contract) : (r.program package).run s =
      (callContract r.env contract r.entryPoint r.args : HostM Key D CLValue).run s := by
  show r.program package s = _
  unfold Request.program
  simp only [h]
  rfl

/-- The version that a request reaches makes no difference to what it asks for. -/
theorem Request.call_op? (r : Request Key) (package a b : HashAddr) :
    (r.call package a).op? = (r.call package b).op? := by
  have hid : (r.call package a).env.callerIdentity = (r.call package b).env.callerIdentity := by
    simp only [Request.call, Env.callerIdentity, getImmediateCallerAddress, List.reverse_append,
      List.reverse_singleton, List.singleton_append, List.getElem?_cons_succ]
  unfold Call.op?
  rw [hid]
  rfl

/-- **What is in use stays the same**, and so does the token. -/
theorem Rep.extends {D : DistinctItemKeys Key} {s s' : Store Key D.toItemKeys} {l : Layout}
    {T : Token Key} (h : Rep l T s) (hs : s.Extends s') (hn : s'.named = s.named)
    (hl : s'.logs = s.logs) : Rep l T s' := by
  have hname : ∀ n, s'.named n = s.named n := congrFun hn
  obtain ⟨m, hm, hmode⟩ := h.cells.eventsMode
  obtain ⟨n, hsupply, hn'⟩ := h.cells.totalSupply
  obtain ⟨b, hb, hb'⟩ := h.tables.balances
  obtain ⟨a, ha, ha'⟩ := h.tables.allowances
  obtain ⟨g, hg, hg'⟩ := h.tables.badges
  exact ⟨⟨h.cells.name.extends hs (hname _), h.cells.symbol.extends hs (hname _),
      h.cells.decimals.extends hs (hname _), h.cells.enableMintBurn.extends hs (hname _),
      ⟨m, hm.extends hs (hname _), hmode⟩, ⟨n, hsupply.extends hs (hname _), hn'⟩, h.cells.apart⟩,
    ⟨⟨b, hb.extends hs (hname _), hb'⟩, ⟨a, ha.extends hs (hname _), ha'⟩,
      ⟨g, hg.extends hs (hname _), hg'⟩, h.tables.apart⟩, h.logs.congr hn hl⟩

end Within

/-! ### Packages -/

/-- After an upgrade the new version is the only one enabled, if the one disabled was. -/
theorem ContractPackage.upgraded_enabled {p : ContractPackage} {v : ContractVersion}
    {contract : HashAddr} (h : p.versions.filter (·.enabled) = [v]) (hne : contract ≠ v.contract) :
    (p.upgraded contract v.contract).versions.filter (·.enabled) =
      [⟨p.nextVersion, contract, true⟩] := by
  unfold upgraded
  rw [List.map_append, List.filter_append]
  have hold : (p.versions.map fun w =>
      if w.contract = v.contract then { w with enabled := false } else w).filter (·.enabled) = [] := by
    rw [List.filter_eq_nil_iff]
    intro w hw
    obtain ⟨w, hmem, rfl⟩ := List.mem_map.1 hw
    split_ifs with hc
    · simp
    · -- an enabled version is the one disabled
      intro he
      have hv : w ∈ [v] := by rw [← h]; exact List.mem_filter.2 ⟨hmem, he⟩
      rw [List.mem_singleton.1 hv] at hc
      exact hc rfl
  rw [hold, List.map_singleton, if_neg hne]
  rfl

theorem ContractPackage.upgraded_last (p : ContractPackage) {contract previous : HashAddr}
    (hne : contract ≠ previous) : (p.upgraded contract previous).versions.getLast? =
      some ⟨p.nextVersion, contract, true⟩ := by
  unfold upgraded
  rw [List.map_append, List.map_singleton, if_neg hne, List.getLast?_concat]

/-- The contracts of an upgraded package are the new one and those there were. -/
theorem ContractPackage.mem_upgraded {p : ContractPackage} {contract previous : HashAddr}
    {w : ContractVersion} (h : w ∈ (p.upgraded contract previous).versions) :
    w.contract = contract ∨ ∃ u ∈ p.versions, w.contract = u.contract := by
  unfold upgraded at h
  obtain ⟨u, hu, rfl⟩ := List.mem_map.1 h
  have hcontract : (if u.contract = previous then { u with enabled := false } else u).contract =
      u.contract := by
    split_ifs <;> rfl
  rw [hcontract]
  rcases List.mem_append.1 hu with hu | hu
  · right; exact ⟨u, hu, rfl⟩
  · left
    rw [List.mem_singleton.1 hu]

/-! ### A token after some upgrades -/

variable {D : DistinctItemKeys Key} {l : Layout} {T : Token Key} {s s' : Store Key D.toItemKeys}
variable {name : String} {package : HashAddr} {log : List (Event Key)} {k : ℕ}
variable {p : ContractPackage} {v : ContractVersion} {number : URef} {c : Contract Key}

/-- **The account's store holds the token `T` after `k` upgrades**: its package is at the version
`v`, whose contract is `c` and has the token in its context. A token that records no events has
the event log it started with. -/
structure Live (name : String) (package : HashAddr) (l : Layout) (log : List (Event Key)) (k : ℕ)
    (T : Token Key) (s : Store Key D.toItemKeys) (p : ContractPackage) (v : ContractVersion)
    (number : URef) (c : Contract Key) : Prop where
  one : s.OneLive name package k p v number
  last : p.versions.getLast? = some v
  contract : s.contracts v.contract = some c
  owner : c.package = package
  entryPoints : c.entryPoints = generateEntryPoints
  owned : ∀ w ∈ p.versions, ∃ c, s.contracts w.contract = some c ∧ c.package = package
  rep : Rep l T (s.within c)
  quiet : T.eventsMode = .NoEvents → (s.within c).log = log

theorem mem_generateEntryPoints (entryPoint : EntryPoint) : entryPoint ∈ generateEntryPoints := by
  cases entryPoint <;> decide

/-- Of the versions of the package, the one that is enabled is the current one. -/
theorem Live.enabled_iff (h : Live name package l log k T s p v number c) {w : ContractVersion} :
    w ∈ p.versions ∧ w.enabled = true ↔ w = v := by
  have hmem : w ∈ p.versions.filter (·.enabled) ↔ w ∈ p.versions ∧ w.enabled = true :=
    List.mem_filter
  rw [← hmem, h.one.enabled, List.mem_singleton]

theorem Live.answers (h : Live name package l log k T s p v number c) (entryPoint : EntryPoint) :
    entryPoint ∈ c.entryPoints ∧ s.isEnabled c.package v.contract := by
  obtain ⟨hv, he⟩ := h.enabled_iff.2 rfl
  refine ⟨by rw [h.entryPoints]; exact mem_generateEntryPoints entryPoint, ?_⟩
  unfold Store.isEnabled
  rw [h.owner, h.one.keys.stored]
  exact List.any_eq_true.2 ⟨v, hv, by simp [he]⟩

/-- A URef with a version number is not the one of the total supply. -/
theorem Live.number_ne (h : Live name package l log k T s p v number c) : number ≠ l.totalSupply := by
  rintro rfl
  obtain ⟨n, hn, -⟩ := h.rep.cells.totalSupply
  have hvalue := h.one.keys.numbered.symm.trans hn.value
  cases hvalue

theorem Live.exec_eq (h : Live name package l log k T s p v number c) (r : Request Key) :
    r.exec package s = s.leave v.contract c (exec (s.within c) (r.call package v.contract)) := by
  have hlive : s.live package = some v.contract := by
    unfold Store.live
    rw [h.one.keys.stored, Option.bind_some, h.one.keys.current]; rfl
  have hprogram : commit (r.program package) s =
      commit (callContract r.env v.contract r.entryPoint r.args) s := by
    unfold commit
    rw [Request.program_run hlive]
  unfold Request.exec
  rw [hprogram, commit_callContract h.contract (h.answers _), h.owner]

/-- **A request** does to the token what it asks for, and leaves the rest alone. -/
theorem Live.requested (h : Live name package l log k T s p v number c) (r : Request Key)
    (a : HashAddr) :
    ∃ c', Live name package l log k (T.exec (r.call package a).op?) (r.exec package s) p v number c' := by
  have hr := exec_rep h.rep (r.call package v.contract)
  have ha := exec_leavesAlone h.rep (r.call package v.contract)
  rw [r.call_op? package v.contract a] at hr
  rw [h.exec_eq r]
  generalize exec (s.within c) (r.call package v.contract) = t at hr ha
  -- the contract keeps what the call has put
  have hcontracts : (s.leave v.contract c t).contracts =
      Function.update s.contracts v.contract (some { c with namedKeys := t.named }) :=
    congrArg (fun f => Function.update f _ _) ha.contracts
  have hkept : ∀ w b, s.contracts w = some b →
      ∃ b', (s.leave v.contract c t).contracts w = some b' ∧ b'.package = b.package := by
    intro w b hb
    by_cases hw : w = v.contract
    · subst hw
      obtain rfl : c = b := Option.some.inj (h.contract.symm.trans hb)
      exact ⟨{ c with namedKeys := t.named }, by rw [hcontracts, Function.update_self], rfl⟩
    · exact ⟨b, by rw [hcontracts, Function.update_of_ne hw]; exact hb, rfl⟩
  refine ⟨{ c with namedKeys := t.named }, ⟨⟨?_, h.one.count, h.one.enabled, h.one.number⟩, h.last,
    by rw [hcontracts, Function.update_self], h.owner, h.entryPoints, fun w hw => ?_,
    hr.congr rfl rfl rfl rfl, fun hmode => ?_⟩⟩
  · have hk := h.one.keys
    refine ⟨?_, hk.current, ?_, ?_, hk.hashKey, hk.accessKey, hk.contractKey, hk.versionKey⟩
    · exact (congrFun ha.packages package).trans hk.stored
    · obtain ⟨b, hb, -⟩ := hkept _ _ h.contract
      rw [hb]; rfl
    · exact (ha.values number h.number_ne).trans hk.numbered
  · obtain ⟨b, hb, howner⟩ := h.owned w hw
    obtain ⟨b', hb', hpackage⟩ := hkept _ _ hb
    exact ⟨b', hb', hpackage.trans howner⟩
  · have hT : T.eventsMode = .NoEvents := (T.exec_modalities _).1.symm.trans hmode
    rw [← h.quiet hT]
    show ((t.uref EVENTS_DICT).bind t.logs).getD [] = (s.within c).log
    unfold Store.uref
    rw [ha.named, ha.logs (by rw [h.rep.eventsMode, hT])]
    rfl

/-- **An upgrade** leaves the token as it is, at a new version. -/
theorem Live.upgraded (h : Live name package l log k T s p v number c) {package' previous : HashAddr}
    {p' : ContractPackage} {contract : HashAddr} {version : URef}
    (hu : Upgraded name package' previous p' contract version s s') :
    ∃ c', Live name package l log (k + 1) T s' (p.upgraded contract v.contract)
      ⟨p.nextVersion, contract, true⟩ version c' := by
  have hk := h.one.keys
  obtain rfl := hu.same ⟨p, v, number, hk⟩
  obtain rfl : p = p' := Option.some.inj (hk.stored.symm.trans hu.stored)
  obtain ⟨rfl, hne⟩ := hu.replaces hk
  -- the new contract has the named keys of the current one
  have hcontract : s'.contracts contract = some ⟨package', c.namedKeys, generateEntryPoints⟩ := by
    rw [hu.inherits, Function.update_self, hk.current, Option.bind_some, h.contract]
    rfl
  have hwithin : (s.within c).Extends (s'.within ⟨package', c.namedKeys, generateEntryPoints⟩) :=
    fun u hin => hu.grows u hin
  refine ⟨⟨package', c.namedKeys, generateEntryPoints⟩, ⟨hu.tokenKeys hk, ?_,
    p.upgraded_enabled h.one.enabled hne, ?_⟩, p.upgraded_last hne, hcontract, rfl, rfl,
    fun w hw => ?_, h.rep.extends hwithin rfl hu.logs, fun hmode => ?_⟩
  · unfold ContractPackage.upgraded
    rw [List.length_map, List.length_append, h.one.count]
    rfl
  · show p.nextVersion = k + 1 + 1
    unfold ContractPackage.nextVersion
    rw [h.last]
    exact congrArg (· + 1) h.one.number
  · rcases ContractPackage.mem_upgraded hw with he | ⟨u, hmem, he⟩
    · rw [he]; exact ⟨_, hcontract, rfl⟩
    · obtain ⟨b, hb, howner⟩ := h.owned u hmem
      have hold : u.contract ≠ contract := by
        intro hc
        rw [hc, hu.newContract] at hb; cases hb
      refine ⟨b, ?_, howner⟩
      rw [he, hu.inherits, Function.update_of_ne hold]; exact hb
  · rw [← h.quiet hmode]
    show ((((s.within c).uref EVENTS_DICT)).bind s'.logs).getD [] = _
    rw [hu.logs]
    rfl

/-- A run of `call` with the token's name upgrades it. -/
theorem Live.call_run (h : Live name package l log k T s p v number c) {env : Env Key}
    (hn : env.arg? String NAME = some name) :
    (call env : HostM Key D.toItemKeys Unit).run s = (upgrade name).run s :=
  call_of_some hn h.one.keys.accessKey

/-- It goes through, if the host has addresses for the new contract and its number. -/
theorem Live.call_succeeds (h : Live name package l log k T s p v number c) {env : Env Key}
    (hn : env.arg? String NAME = some name) (hs : s.Fresh 2) : Succeeds (call env) s := by
  have hk := h.one.keys
  have hupgrade : Succeeds (upgrade name) s := by
    unfold upgrade
    refine Succeeds.of_ok (getKey_run hk.hashKey) ?_
    rw [unwrapOrRevertWith_some, pure_bind, CasperKey.intoHash_ofHash, unwrapOrRevertWith_some,
      pure_bind]
    refine Succeeds.of_ok (getKey_run hk.contractKey) ?_
    rw [unwrapOrRevertWith_some, pure_bind, CasperKey.intoHash_ofHash, unwrapOrRevertWith_some,
      pure_bind]
    obtain ⟨⟨contract, version⟩, s₁, h₁, hs₁⟩ := addContractVersion_fresh (n := 1) hs hk.stored
      generateEntryPoints fun _ => none
    refine Succeeds.of_ok h₁ ?_
    -- the version to disable is among those there were
    obtain ⟨s₂, h₂⟩ : ∃ s₂, (disableContractVersion package v.contract :
        HostM Key D.toItemKeys Unit).run s₁ = .ok () s₂ := by
      obtain ⟨q, hq, -, -, rfl⟩ := addContractVersion_ok h₁
      obtain rfl : p = q := Option.some.inj (hk.stored.symm.trans hq)
      unfold disableContractVersion EStateM.run
      simp only [Function.update_self]
      refine ⟨_, if_pos (List.any_eq_true.2 ⟨v, ?_, by simp⟩)⟩
      exact List.mem_append_left _ (h.enabled_iff.2 rfl).1
    refine Succeeds.of_ok h₂ ?_
    obtain ⟨s₃, h₃⟩ : ∃ s₃, (putKey (CONTRACT_NAME_PREFIX ++ name) (ofHash contract) :
        HostM Key D.toItemKeys Unit).run s₂ = .ok () s₃ := ⟨_, rfl⟩
    refine Succeeds.of_ok h₃ ?_
    obtain ⟨u, s₄, h₄, -⟩ := newURef_fresh (n := 0)
      (putKey_fresh (disableContractVersion_fresh hs₁ h₂) h₃) version
    exact Succeeds.of_ok h₄ ⟨_, _, rfl⟩
  obtain ⟨r, s', hr⟩ := hupgrade
  exact ⟨r, s', (h.call_run hn).trans hr⟩

/-- **`init` reverts**, in every version and for every caller. -/
theorem Live.init_refused (h : Live name package l log k T s p v number c) {w : ContractVersion}
    (hw : w ∈ p.versions) (env : Env Key) (args : RuntimeArgs Key) :
    ∃ e, (callContract env w.contract .init args).run s = .error e s ∧
      (w = v → e = Cep18Error.toApi .AlreadyInitialized) := by
  by_cases hcontract : w.contract = v.contract
  · refine ⟨_, ?_, fun _ => rfl⟩
    have hinit := invoke_refines h.rep (Request.call ⟨env, .init, args⟩ c.package v.contract)
    rw [hcontract, callContract_run h.contract (h.answers _)]
    refine (congrArg (onState (s.leave v.contract c)) hinit).trans ?_
    show EStateM.Result.error _ (s.leave v.contract c (s.within c)) = _
    rw [Store.leave_within h.contract]
  · -- a version that is not the current one is not enabled
    refine ⟨.host, callContract_fails fun b hb hcall => hcontract ?_, fun he => ?_⟩
    · obtain ⟨b', hb', howner⟩ := h.owned w hw
      obtain rfl : b = b' := Option.some.inj (hb.symm.trans hb')
      have henabled := hcall.2
      unfold Store.isEnabled at henabled
      rw [howner, h.one.keys.stored] at henabled
      obtain ⟨u, hu, he⟩ := List.any_eq_true.1 henabled
      simp only [Bool.and_eq_true, decide_eq_true_eq] at he
      rw [← he.1, h.enabled_iff.1 ⟨hu, he.2⟩]
    · rw [he] at hcontract
      exact absurd rfl hcontract

theorem Live.enter (h : Live name package l log k T s p v number c) :
    s.enter name = some (s.within c) := by
  unfold Store.enter
  simp only [h.one.keys.contractKey, Option.bind_eq_bind, Option.bind_some,
    CasperKey.intoHash_ofHash, h.contract]
  rfl

/-- Two stores with the same token show the same, if they do where no events are recorded. -/
theorem Rep.sameToken {l' : Layout} (h : Rep l T s) (h' : Rep l' T s')
    (hlog : T.eventsMode = .NoEvents → s.log = s'.log) : s.SameToken s' := by
  refine ⟨fun a => ?_, fun o sp => ?_, ?_, fun a => ?_, ?_, ?_, ?_⟩
  · exact BitVec.eq_of_toNat_eq ((h.balance a).trans (h'.balance a).symm)
  · exact BitVec.eq_of_toNat_eq ((h.allowance o sp).trans (h'.allowance o sp).symm)
  · exact BitVec.eq_of_toNat_eq (h.totalSupply.trans h'.totalSupply.symm)
  · rw [h.badge, h'.badge]
  · exact EventsMode.tryFrom_inj h.eventsMode h'.eventsMode
  · rw [h.enableMintBurn, h'.enableMintBurn]
  · cases hmode : T.eventsMode with
    | NoEvents => exact hlog hmode
    | CES => rw [h.log hmode, h'.log hmode]

/-- Two stores with the same live token show the same. -/
theorem Live.sameToken {k' : ℕ} {p' : ContractPackage} {v' : ContractVersion} {number' : URef}
    {c' : Contract Key} (h : Live name package l log k T s p v number c)
    (h' : Live name package l log k' T s' p' v' number' c') :
    (s.within c).SameToken (s'.within c') :=
  h.rep.sameToken h'.rep fun hmode => (h.quiet hmode).trans (h'.quiet hmode).symm

/-! ### Histories -/

theorem Deployment.installed {D : ItemKeys Key} (d : Deployment Key D) :
    (∃ r, (installContract d.env d.name).run d.before = .ok r d.account) ∧
      d.account.enter d.name = some d.store := by
  obtain ⟨r, s, hs, henter⟩ := deploy_eq_some.1 d.deployed
  have haccount : d.account = s := commit_of_ok hs
  rw [haccount]
  exact ⟨⟨r, hs⟩, henter⟩

/-- **An installed token is live**, with no upgrades. -/
theorem Deployment.live (d : Deployment Key D.toItemKeys) :
    ∃ T l p v number c, Live d.name d.package l d.store.log 0 T d.account p v number c ∧
      d.account.within c = d.store := by
  obtain ⟨⟨r, hrun⟩, henter⟩ := d.installed
  obtain ⟨package, access, contract, version, hi, -⟩ := installContract_ok hrun
  obtain ⟨keys, hkeys⟩ := hi.registered
  obtain ⟨config, l, -, hr⟩ := d.rep
  have hpackage : d.package = package := by
    unfold Deployment.package
    rw [hi.hashKey, Option.bind_some, CasperKey.intoHash_ofHash, Option.getD_some]
  have hwithin : d.account.within ⟨package, keys, generateEntryPoints⟩ = d.store :=
    Option.some.inj ((hi.enter hkeys).symm.trans henter)
  rw [hpackage]
  refine ⟨config.token, l, _, _, _, _, ⟨⟨hi.tokenKeys, rfl, rfl, rfl⟩, rfl, hkeys, rfl, rfl,
    fun w hw => ?_, ?_, fun _ => ?_⟩, hwithin⟩
  · rw [List.mem_singleton.1 hw]
    exact ⟨_, hkeys, rfl⟩
  · rw [hwithin]; exact hr
  · rw [hwithin]

/-- **A history keeps the token live**: each upgrade counts, and the requests do what they ask for,
as if no version but the one at `a` had been there. -/
theorem History.live {start : Store Key D.toItemKeys} {requests : List (Request Key)} {a : HashAddr}
    (h : History name package start k requests s)
    (h₀ : Live name package l log 0 T start p v number c) :
    ∃ p v number c, Live name package l log k
      ((requests.map fun r => (r.call package a).op?).foldl Token.exec T) s p v number c := by
  induction h with
  | start => exact ⟨p, v, number, c, h₀⟩
  | upgraded _ hn hok ih =>
    obtain ⟨p, v, number, c, hl⟩ := ih
    obtain ⟨r, t, ht⟩ := hok
    rw [commit_of_ok ht]
    rw [hl.call_run hn] at ht
    obtain ⟨package', previous, p', contract, version, hu⟩ := upgrade_ok ht
    obtain ⟨c', hl'⟩ := hl.upgraded hu
    exact ⟨_, _, _, c', hl'⟩
  | reverted _ _ hfails ih =>
    rw [commit_of_not_succeeds hfails]
    exact ih
  | @requested _ _ _ r _ ih =>
    obtain ⟨p, v, number, c, hl⟩ := ih
    rw [List.map_append, List.foldl_append]
    obtain ⟨c', hl'⟩ := hl.requested r a
    exact ⟨p, v, number, c', hl'⟩

/-- Requests alone are a history without upgrades. -/
theorem History.run {D : ItemKeys Key} (name : String) (package : HashAddr) (start : Store Key D)
    (requests : List (Request Key)) :
    History name package start 0 requests (Request.run package start requests) := by
  induction requests using List.reverseRecOn with
  | nil => exact .start
  | append_singleton requests r ih =>
    unfold Request.run at ih ⊢
    rw [List.foldl_append]
    exact .requested ih

/-- **Upgrades are invisible.** After `k` upgrades, and whatever requests there were between them,
the package has `k + 1` versions, the one that is enabled is in the account's named keys, and
the token shows what it would show after the requests alone. No version's `init` runs again,
and the token can be upgraded once more. -/
theorem upgrades_invisible (d : Deployment Key D.toItemKeys) {requests : List (Request Key)}
    (h : History d.name d.package d.account k requests s) :
    ∃ p v number, s.OneLive d.name d.package k p v number ∧
      (∃ t t', s.enter d.name = some t ∧
        (Request.run d.package d.account requests).enter d.name = some t' ∧ t.SameToken t') ∧
      (∀ w ∈ p.versions, ∀ env args, ∃ e, (callContract env w.contract .init args).run s =
        .error e s ∧ (w = v → e = Cep18Error.toApi .AlreadyInitialized)) ∧
      ∀ env, env.arg? String NAME = some d.name → s.Fresh 2 → Succeeds (call env) s := by
  obtain ⟨T, l, p₀, v₀, number₀, c₀, h₀, -⟩ := d.live
  obtain ⟨p, v, number, c, hl⟩ := h.live (a := v₀.contract) h₀
  obtain ⟨p', v', number', c', hl'⟩ :=
    (History.run d.name d.package d.account requests).live (a := v₀.contract) h₀
  exact ⟨p, v, number, hl.one, ⟨_, _, hl.enter, hl'.enter, hl.sameToken hl'⟩,
    fun w hw env args => hl.init_refused hw env args,
    fun env hn hs => hl.call_succeeds hn hs⟩

/-- A further run of `call` by the installer of the plain token, with other arguments. -/
def plainUpgrade : Env PlainKey := Env.session 1 (installArgs "token" 7 0 0)

/-- The installer sends part of its tokens to account 2. -/
def plainTransfer : Request PlainKey where
  env := Env.session 1 []
  entryPoint := .transfer
  args := argList [(RECIPIENT, { asKey := some (.account 2) }), (AMOUNT, { asU256 := some 30 })]

/-- The plain token, upgraded before and after the transfer. -/
def plainUpgraded : Store PlainKey plainItems.toItemKeys :=
  commit (call plainUpgrade)
    (plainTransfer.exec plainToken.package (commit (call plainUpgrade) plainToken.account))

/-- It has three versions, and shows what the transfer alone would have left. -/
theorem upgrades_invisible_plain :
    ∃ p v number, plainUpgraded.OneLive "token" plainToken.package 2 p v number ∧
      ∃ t t', plainUpgraded.enter "token" = some t ∧
        (Request.run plainToken.package plainToken.account [plainTransfer]).enter "token" = some t' ∧
        t.SameToken t' := by
  have h : History plainToken.name plainToken.package plainToken.account 2 [plainTransfer]
      plainUpgraded :=
    .upgraded (.requested (.upgraded .start rfl (by decide +kernel))) rfl (by decide +kernel)
  obtain ⟨p, v, number, hone, hsame, -⟩ := upgrades_invisible (D := plainItems) plainToken h
  exact ⟨p, v, number, hone, hsame⟩

end Cep18
