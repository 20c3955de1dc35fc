import Cep18.Proof.Authority
import Cep18.Proof.ClientCalls
import Cep18.Proof.Modalities
import Cep18.Proof.Names

/-!
# Tokens installed by the client

What the client asks for on behalf of an account, the contract installs, and the queries by
name say so ever after (`client_installs`). The query for the modality tells in advance how
calls that need it end (`modality_predicts`).
-/

namespace Cep18

open Program Constants

variable {Key : Type} [CasperKey Key]

/-! ### Queries -/

theorem EventsMode.number_of_tryFrom {m : UInt8} {mode : EventsMode}
    (h : EventsMode.tryFrom m = .ok mode) : m = mode.number := by
  unfold EventsMode.tryFrom at h
  split_ifs at h with h0 h1
  · cases h; exact h0
  · cases h; exact h1

theorem ContractReader.Reads.cell {D : ItemKeys Key} {reader : ContractReader} {s : Store Key D}
    (h : reader.Reads s) {V : Type} [CLTyped V] {name : String} {u : URef} {v : V}
    (hc : s.Cell name u v) : reader.queryContractData [name] = .ok (CLTyped.fromT v) := by
  apply h.found
  unfold Store.uref
  rw [hc.named, Option.bind_some, CasperKey.intoURef_ofURef, Option.bind_some, hc.value]

variable {D : DistinctItemKeys Key} {l : Layout} {T : Token Key} {s : Store Key D.toItemKeys}

/-- **The queries say what the token is.** -/
theorem Rep.shows (h : Rep l T s) {reader : ContractReader} (hr : reader.Reads s) :
    reader.Shows T := by
  obtain ⟨m, hm, hmode⟩ := h.cells.eventsMode
  obtain ⟨n, hn, hsupply⟩ := h.cells.totalSupply
  have hflag := hr.cell h.cells.enableMintBurn
  refine ⟨hr.cell h.cells.name, hr.cell h.cells.symbol, hr.cell h.cells.decimals, ?_, ?_, ?_⟩
  · rw [ofNat_of_toNat_eq hsupply]
    exact hr.cell hn
  · have hq : reader.queryContractData ["events_mode"] = .ok (.u8 m) := hr.cell hm
    unfold CEP18Client.eventsMode
    rw [hq, EventsMode.number_of_tryFrom hmode]
    rfl
  · have hq : reader.queryContractData ["enable_mint_burn"] = .ok (.u8 T.enableMintBurn) := hflag
    unfold CEP18Client.isMintAndBurnEnabled
    rw [hq]
    show Except.ok (decide (T.enableMintBurn.toNat ≠ 0)) = _
    have hiff : T.enableMintBurn.toNat ≠ 0 ↔ T.enableMintBurn ≠ 0 := by
      rw [Ne, Ne, ← UInt8.toNat_inj]; rfl
    rw [decide_eq_decide.2 hiff]

/-! ### Installing -/

/-- What the client asks for. -/
def InstallArgs.config (args : InstallArgs) (sender : AccountHash) : Config Key where
  installer := ofAccount sender
  name := args.name
  symbol := args.symbol
  decimals := args.decimals
  totalSupply := args.totalSupply
  eventsMode := args.eventsMode.getD .NoEvents
  enableMintBurn := if args.enableMintAndBurn.getD false then 1 else 0
  adminList := none
  minterList := none

/-- **The contract understands what the client asks for.** -/
theorem config?_install (args : InstallArgs) (sender : AccountHash) :
    (CEP18Client.install args sender : Env Key).config? args.name = some (args.config sender) := by
  obtain ⟨name, symbol, decimals, supply, mode, flag⟩ := args
  -- whichever of the optional arguments were given
  rcases mode with _ | (_ | _) <;> rcases flag with _ | (_ | _) <;> rfl

omit [CasperKey Key] in
theorem name_install (args : InstallArgs) (sender : AccountHash) :
    (CEP18Client.install args sender : Env Key).arg? String NAME = some args.name := by
  obtain ⟨name, symbol, decimals, supply, mode, flag⟩ := args
  cases mode <;> cases flag <;> rfl

/-- Two tokens have the same settings. -/
structure Token.SameSettings (T T' : Token Key) : Prop where
  name : T'.name = T.name
  symbol : T'.symbol = T.symbol
  decimals : T'.decimals = T.decimals
  enableMintBurn : T'.enableMintBurn = T.enableMintBurn
  eventsMode : T'.eventsMode = T.eventsMode

/-- A call leaves the settings of a token alone. -/
theorem Token.SameSettings.exec {T T' : Token Key} (h : T.SameSettings T')
    (o : Option (Op Key)) : T.SameSettings (T'.exec o) := by
  rcases T'.exec_cases o with ⟨he, -⟩ | ⟨op, -, -, ht⟩
  · rw [he]; exact h
  · obtain ⟨h1, h2, h3, h4, h5⟩ := ht.same_settings
    exact ⟨h1.trans h.name, h2.trans h.symbol, h3.trans h.decimals, h4.trans h.enableMintBurn,
      h5.trans h.eventsMode⟩

theorem Token.run_settings (T : Token Key) (os : List (Option (Op Key))) :
    T.SameSettings (os.foldl Token.exec T) :=
  Run.foldl_invariant (fun _ o h => h.exec o) os ⟨rfl, rfl, rfl, rfl, rfl⟩

/-- **What the client installs.** On a host with addresses left, where the account has no named key
under which the token's access key would be (an account can have one without a token of that name),
the client's deploy succeeds. The account that signs then has the whole supply and the one badge
there is, of an Admin; and whatever happens to the token, the queries by name say what the client
was asked for. -/
theorem client_installs {before : Store Key D.toItemKeys} (hfresh : before.Fresh 14)
    (args : InstallArgs) (sender : AccountHash)
    (hnew : before.named (ACCESS_KEY_NAME_PREFIX ++ args.name) = none) :
    Succeeds (call (CEP18Client.install args sender)) before ∧
      ∃ store,
        (commit (call (CEP18Client.install args sender)) before).enter args.name = some store ∧
        (∀ k, store.balance k = if k = ofAccount sender then args.totalSupply else 0) ∧
        (∀ owner spender, store.allowance owner spender = 0) ∧
        (∀ k, store.badge k = if k = ofAccount sender then some .Admin else none) ∧
        ∀ calls (reader : ContractReader), reader.Reads (run store calls) →
          reader.ShowsInstalled args := by
  have hcall : (call (CEP18Client.install args sender) : HostM Key D.toItemKeys Unit).run before =
      (installContract (CEP18Client.install args sender) args.name).run before :=
    call_of_none (name_install args sender) hnew
  obtain ⟨r, s, hs⟩ := succeeds_of_config? hfresh (config?_install args sender)
  obtain ⟨store, hd⟩ := deploy_of_ok hs
  obtain ⟨r', s', hs', henter⟩ := deploy_eq_some.1 hd
  obtain ⟨c, l, hc, hr⟩ := deploy_rep hd
  obtain rfl : args.config sender = c :=
    Option.some.inj ((config?_install args sender).symm.trans hc)
  refine ⟨⟨r, s, hcall.trans hs⟩, store, ?_, fun k => ?_, fun o sp => ?_, fun k => ?_,
    fun calls reader hreads => ?_⟩
  · rw [commit_of_ok (hcall.trans hs')]; exact henter
  · apply BitVec.eq_of_toNat_eq
    rw [hr.balance]
    show Function.update (fun _ => 0) (ofAccount sender) args.totalSupply.toNat k = _
    rw [Function.update_apply]
    split_ifs <;> rfl
  · apply BitVec.eq_of_toNat_eq
    rw [hr.allowance]
    rfl
  · rw [hr.badge]
    have hlists : ∀ k : Key, k ∉ (args.config sender).adminList.getD [] ∧
        k ∉ (args.config sender).minterList.getD [] := fun k => ⟨by simp [InstallArgs.config],
      by simp [InstallArgs.config]⟩
    simp only [Config.token, Token.record_badges, if_neg (hlists k).1, if_neg (hlists k).2]
    rfl
  · have hshows := (run_rep hr calls).shows hreads
    have hsame := (args.config sender).token.run_settings (calls.map Call.op?)
    refine ⟨hshows.name.trans ?_, hshows.symbol.trans ?_, hshows.decimals.trans ?_,
      hshows.eventsMode.trans ?_, ?_, fun hno => ?_⟩
    · rw [hsame.name]; rfl
    · rw [hsame.symbol]; rfl
    · rw [hsame.decimals]; rfl
    · rw [hsame.eventsMode]; rfl
    · rw [hshows.isMintAndBurnEnabled, hsame.enableMintBurn]
      show Except.ok (decide
        ((if args.enableMintAndBurn.getD false then (1 : UInt8) else 0) ≠ 0)) = _
      cases args.enableMintAndBurn.getD false <;> rfl
    · -- with no minting and burning, the supply is the one installed
      have hflag : store.enableMintBurn = 0 := by
        rw [hr.enableMintBurn]
        show (if args.enableMintAndBurn.getD false then (1 : UInt8) else 0) = 0
        rw [hno]; rfl
      have hconstant := (disabled_constant ⟨l, _, hr, (args.config sender).sound⟩ hflag calls).1
      have hsupply := (run_rep hr calls).totalSupply
      rw [hconstant, hr.totalSupply] at hsupply
      rw [hshows.totalSupply, ← hsupply]
      show Except.ok (CLValue.u256 (BitVec.ofNat 256 args.totalSupply.toNat)) = _
      rw [BitVec.ofNat_toNat, BitVec.setWidth_eq]

/-! ### The modality -/

/-- The user is told of an error exactly if it is the token's. -/
theorem Token.outcome_eq_error {T : Token Key} {op : Op Key} {e : Cep18Error} :
    T.outcome op = .error (.contractError (some e.code) (some e.name)) ↔ T.step op = .error e := by
  unfold Token.outcome
  cases hs : T.step op with
  | ok T' =>
    constructor
    · intro h; cases h
    · intro h; cases h
  | error e' =>
    constructor
    · intro h
      have hcode : (e'.code : ℤ) = e.code := by
        simp only [Except.error.injEq, DeployError.contractError.injEq, Option.some.injEq] at h
        exact h.1
      have htoApi : e'.toApi = e.toApi := congrArg ApiError.user (Int.ofNat.inj hcode)
      rw [Cep18Error.toApi_inj htoApi]
    · intro h
      rw [Except.error.inj h]

/-- An error is the guard's, if what the guard lets through does not stop with it. -/
theorem guard_eq_error {α ε : Type} {p : Prop} [Decidable p] {x : Except ε α} {e : ε}
    (hx : x ≠ .error e) : (if p then .error e else x) = .error e ↔ p := by
  split_ifs with hp
  · exact ⟨fun _ => hp, fun _ => rfl⟩
  · exact ⟨fun h => absurd h hx, fun h => absurd h hp⟩

/-- Only what needs minting and burning to be enabled is refused because it is not. -/
theorem Token.step_disabled_iff {T : Token Key} {r : ClientCall Key} {sender : Key} :
    T.step (r.op sender) = .error .MintBurnDisabled ↔ r.NeedsMintBurn ∧ T.enableMintBurn = 0 := by
  cases r with
  | mint args =>
    simp only [ClientCall.op, ClientCall.NeedsMintBurn, Token.step, true_and]
    refine guard_eq_error fun h => ?_
    split_ifs at h <;> cases h
  | burn args =>
    simp only [ClientCall.op, ClientCall.NeedsMintBurn, Token.step, true_and]
    refine guard_eq_error fun h => ?_
    split_ifs at h <;> cases h
  | changeSecurity args =>
    simp only [ClientCall.op, ClientCall.NeedsMintBurn, Token.step, true_and]
    refine guard_eq_error fun h => ?_
    split_ifs at h
    cases h
  | _ =>
    simp only [ClientCall.op, ClientCall.NeedsMintBurn, Token.step, false_and, iff_false]
    intro h
    split_ifs at h <;> cases h

/-- **The modality, once queried, tells how calls end.** Whatever happens to the token after the
query, a deploy by the client is refused because minting and burning is disabled exactly if the
query said so, and the deploy is a mint, a burn or a change of badges. -/
theorem modality_predicts (d : Deployment Key D.toItemKeys) {report : ApiError → String}
    (hreport : Reports report) (calls : List (Call Key)) {reader : ContractReader}
    (hreads : reader.Reads (d.after calls)) :
    ∃ enabled, CEP18Client.isMintAndBurnEnabled reader = .ok enabled ∧
      ∀ (later : List (Call Key)) (package contract : HashAddr) (sender : AccountHash)
        (r : ClientCall Key) (c : Call Key), r.deploy package contract sender = .ok c →
        (CEP18Client.parseDeployResult
            [executionResult report (answer c.program (d.after (calls ++ later)))] =
          .error (.contractError (some 60016) (some "MintBurnDisabled")) ↔
            r.NeedsMintBurn ∧ enabled = false) := by
  obtain ⟨config, l, -, hr⟩ := d.rep
  have hs := run_rep hr calls
  refine ⟨_, (hs.shows hreads).isMintAndBurnEnabled, fun later package contract sender r c h => ?_⟩
  have hlater := run_rep hs later
  have hflag := (((calls.map Call.op?).foldl Token.exec config.token).run_settings
    (later.map Call.op?)).enableMintBurn
  rw [d.after_append, Deployment.after, hlater.outcome hreport (ClientCall.op?_deploy h)]
  refine (Token.outcome_eq_error (e := .MintBurnDisabled)).trans ?_
  rw [Token.step_disabled_iff, hflag]
  simp

/-- A node that reads a store. -/
def ContractReader.onStore (s : Store PlainKey plainItems.toItemKeys) : ContractReader where
  queryContractData path :=
    match (s.uref (path.headD "")).bind s.values with
    | some value => .ok value
    | none => .error (.error "Error: Query failed")

theorem ContractReader.onStore_reads (s : Store PlainKey plainItems.toItemKeys) :
    (onStore s).Reads s := by
  refine ⟨fun name v hv => ?_⟩
  simp only [onStore, List.headD_cons, hv]

/-- A plain token with minting and burning disabled. -/
def fixedToken : Deployment PlainKey plainItems.toItemKeys :=
  installOn (installArgs "token" 100 1 0) (by decide +kernel)

/-- The query says so, and whatever has been transferred since, a mint is refused for it, but not an
approval. -/
theorem modality_predicts_plain :
    CEP18Client.isMintAndBurnEnabled (.onStore (fixedToken.after [])) = .ok false ∧
      CEP18Client.parseDeployResult [executionResult plainReport
          (answer (CEP18Client.mint 0 0 ⟨.account 1, 5⟩ 1).program
            (fixedToken.after ([] ++ [CEP18Client.transfer 0 0 ⟨.account 2, 30⟩ 1])))] =
        .error (.contractError (some 60016) (some "MintBurnDisabled")) ∧
      CEP18Client.parseDeployResult [executionResult plainReport
          (answer (CEP18Client.approve 0 0 ⟨.account 3, 5⟩ 1).program
            (fixedToken.after ([] ++ [CEP18Client.transfer 0 0 ⟨.account 2, 30⟩ 1])))] ≠
        .error (.contractError (some 60016) (some "MintBurnDisabled")) := by
  obtain ⟨enabled, henabled, h⟩ := modality_predicts fixedToken plainReport_reports []
    (ContractReader.onStore_reads _)
  have hquery : CEP18Client.isMintAndBurnEnabled (.onStore (fixedToken.after [])) = .ok false := by
    decide +kernel
  obtain rfl : enabled = false := Except.ok.inj (henabled.symm.trans hquery)
  refine ⟨hquery, (h _ 0 0 1 (.mint ⟨.account 1, 5⟩) _ rfl).2 ⟨trivial, rfl⟩, fun he => ?_⟩
  exact ((h _ 0 0 1 (.approve ⟨.account 3, 5⟩) _ rfl).1 he).1

/-- Account 1 installs a token through the client, and holds all of it. -/
theorem client_installs_plain :
    Succeeds (call (CEP18Client.install ⟨"token", "TKN", 9, 100, none, some true⟩ 1)) Store.blank ∧
      ∃ store, (commit (call (CEP18Client.install ⟨"token", "TKN", 9, 100, none, some true⟩ 1))
          Store.blank).enter "token" = some store ∧
        store.balance (.account 1) = 100 ∧ store.badge (.account 1) = some .Admin := by
  obtain ⟨hsucceeds, store, henter, hbalance, -, hbadge, -⟩ := client_installs (D := plainItems)
    Store.blank_fresh ⟨"token", "TKN", 9, 100, none, some true⟩ 1 rfl
  refine ⟨hsucceeds, store, henter, (hbalance _).trans ?_, (hbadge _).trans ?_⟩
  · exact if_pos rfl
  · exact if_pos rfl

end Cep18
