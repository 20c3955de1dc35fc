import Cep18.Proof.TestContract

/-!
# Tokens side by side

Whatever happens on a host keeps it settled (`Settled.perform`) and does to each token what the
call that reaches it does (`Hosts.perform`). So a token that is installed on a host with others
is always as the calls to it alone would have left it (`side_by_side`), whether accounts make
them or the test contract does, and the test contract's result is what the last token that it
asked had answered (`result_kept`).
-/

namespace Cep18

open Program Constants TestContract

variable {Key : Type} [CasperKey Key] {D : DistinctItemKeys Key}
variable {s s' : Store Key D.toItemKeys} {contract : HashAddr} {c : Contract Key} {l : Layout}
variable {log : List (Event Key)} {T : Token Key} {self : TestContract.Hashes}
variable {entryPoint : TestContract.EntryPoint} {env : Env Key}

/-! ### Where the result is kept -/

/-- The URef of the result is none that a token uses. -/
theorem Settled.result_apart (h : Settled s) {u : URef}
    (hu : s.named RESULT_KEY = some (ofURef u) ∨ s.inUse u = false) {a : HashAddr}
    {b : Contract Key} (hb : s.contracts a = some b) : ¬ b.namedKeys.Uses u := by
  intro huses
  rcases hu with hnamed | hfree
  · rcases h.result.stored with hnone | ⟨w, n, hcell, hw⟩
    · rw [hnone] at hnamed; cases hnamed
    · have he : (ofURef u : Key) = ofURef w := Option.some.inj (hnamed.symm.trans hcell.named)
      have huw : u = w := by
        have hinto : intoURef (ofURef u : Key) = intoURef (ofURef w : Key) := congrArg intoURef he
        rw [CasperKey.intoURef_ofURef, CasperKey.intoURef_ofURef] at hinto
        exact Option.some.inj hinto
      subst huw
      exact hw a b hb huses
  · obtain ⟨l, log, T, hT⟩ := h.tokens a b hb
    rw [hT.inUse u huses] at hfree; cases hfree

/-- A token is as it was after the test contract has stored a result. -/
theorem Hosts.stored_result (h : Hosts s contract c l log T) (hs : Settled s) {n : U256}
    (hn : Stores s s' n) : Hosts s' contract c l log T := by
  obtain ⟨u, -, hsame, hu⟩ := hn.result
  have hnot := hs.result_apart hu h.stored
  refine h.frame ?_ ?_ fun w hw => hsame w fun he => hnot (he ▸ hw)
  · rw [hn.contracts]; exact h.stored
  · rw [hn.packages]

theorem Settled.stored_result (h : Settled s) {n : U256} (hn : Stores s s' n) : Settled s' := by
  refine ⟨fun a b hb => ?_, fun a a' b b' u hb hb' => ?_, ⟨?_⟩⟩
  · rw [hn.contracts] at hb
    obtain ⟨l, log, T, hT⟩ := h.tokens a b hb
    exact ⟨l, log, T, hT.stored_result h hn⟩
  · rw [hn.contracts] at hb hb'
    exact h.apart a a' b b' u hb hb'
  · obtain ⟨u, hcell, -, hu⟩ := hn.result
    right
    refine ⟨u, n, hcell, fun a b hb => ?_⟩
    rw [hn.contracts] at hb
    exact h.result_apart hu hb

/-! ### What a deed does -/

theorem asked_eq_none {D : ItemKeys Key} (hck : entryPoint.checks)
    (hf : forwarded entryPoint env = none) (token : Store Key D) :
    asked entryPoint env token = none := by
  cases entryPoint with
  | checkTotalSupply => cases hf
  | checkBalanceOf =>
    cases h1 : env.arg? Key ADDRESS with
    | none => simp [asked, h1]
    | some address => simp [forwarded, h1] at hf
  | checkAllowanceOf =>
    cases h1 : env.arg? Key OWNER with
    | none => simp [asked, h1]
    | some owner =>
      cases h2 : env.arg? Key SPENDER with
      | none => simp [asked, h1, h2]
      | some spender => simp [forwarded, h1, h2] at hf
  | transferAsStoredContract => cases hck
  | transferFromAsStoredContract => cases hck
  | approveAsStoredContract => cases hck

/-- **Asking a token**: the test contract stores its answer, or the call stops. -/
theorem Settled.checked (h : Settled s) (self : TestContract.Hashes) (hck : entryPoint.checks)
    (env : Env Key) :
    (∃ n, Deed.kept s (.test entryPoint env) = some n ∧
        Succeeds (TestContract.invoke entryPoint (self.enter env) : HostM Key D.toItemKeys Unit) s ∧
        Stores s (Deed.perform self s (.test entryPoint env)) n) ∨
      (Deed.kept s (.test entryPoint env) = none ∧
        ¬ Succeeds (TestContract.invoke entryPoint (self.enter env) : HostM Key D.toItemKeys Unit) s) := by
  have hrefused : ∀ {x : HostM Key D.toItemKeys Unit}, Refused x s → ¬ Succeeds x s := by
    rintro x ⟨e, he⟩ ⟨r, t, ht⟩
    rw [he] at ht; cases ht
  by_cases hargs : target env = none ∨ forwarded entryPoint env = none
  · right
    refine ⟨?_, hrefused (invoke_refused hargs)⟩
    unfold Deed.kept
    rcases hargs with ht | hf
    · simp only [ht, Option.bind_eq_bind, Option.bind_none, ite_self]
    · simp only [asked_eq_none hck hf, Option.bind_eq_bind, Option.bind_fun_none, ite_self]
  rw [not_or] at hargs
  obtain ⟨contract, ht⟩ := Option.ne_none_iff_exists'.1 hargs.1
  obtain ⟨⟨tokenEntryPoint, args⟩, hf⟩ := Option.ne_none_iff_exists'.1 hargs.2
  have hrun : (TestContract.invoke entryPoint (self.enter env) : HostM Key D.toItemKeys Unit).run s =
      (passOn entryPoint (self.enter env) contract tokenEntryPoint args).run s := invoke_run ht hf
  have hpass : (passOn entryPoint (self.enter env) contract tokenEntryPoint args :
      HostM Key D.toItemKeys Unit) = (do
        storeResult (← callContractAs U256 (self.enter env) contract tokenEntryPoint args)) := by
    simp only [passOn, hck, if_true]
  cases hc : s.contracts contract with
  | none =>
    -- there is no such token
    right
    refine ⟨?_, ?_⟩
    · simp only [Deed.kept, ht, hc, Option.bind_eq_bind, Option.bind_some, Option.bind_none,
        ite_self]
    · rintro ⟨r, t, hr⟩
      rw [hrun, hpass] at hr
      obtain ⟨n, t', hn, -⟩ := bind_eq_ok.1 hr
      obtain ⟨v, t'', hv, -⟩ := bind_eq_ok.1 hn
      obtain ⟨c, -, hc', -⟩ := callContract_ok hv
      rw [hc] at hc'; cases hc'
  | some c =>
    obtain ⟨l, log, T, hT⟩ := h.tokens contract c hc
    obtain ⟨n, hasked, hcall⟩ := asked_run hT hck hf (self.enter env)
    have hcallAs : (callContractAs U256 (self.enter env) contract tokenEntryPoint args :
        HostM Key D.toItemKeys U256).run s = .ok n s := by
      unfold callContractAs
      rw [bind_of_ok hcall, CLTyped.intoT_fromT]
      rfl
    have hstore : (TestContract.invoke entryPoint (self.enter env) : HostM Key D.toItemKeys Unit).run s =
        (storeResult n).run s := by
      rw [hrun, hpass, bind_of_ok hcallAs]
    have hkept : Deed.kept s (.test entryPoint env) = if HasRoom s then some n else none := by
      unfold Deed.kept
      simp only [ht, hc, Option.bind_eq_bind, Option.bind_some]
      rw [show asked entryPoint env { s with named := c.namedKeys } = some n from hasked]
    have hiff := storeResult_succeeds_iff h.result n
    unfold Succeeds at hiff ⊢
    rw [hkept, hstore]
    by_cases hroom : HasRoom s
    · left
      obtain ⟨r, t, hr⟩ := hiff.2 hroom
      refine ⟨n, if_pos hroom, ⟨r, t, hr⟩, ?_⟩
      show Stores s (commit (TestContract.invoke entryPoint (self.enter env)) s) n
      rw [commit_of_ok (hstore.trans hr)]
      exact storeResult_ok h.result hr
    · right
      exact ⟨if_neg hroom, fun hs => hroom (hiff.1 hs)⟩

/-- Passing a call on does what the call does. -/
theorem perform_forwarded {D : ItemKeys Key} {s : Store Key D} (hck : entryPoint.checks = false)
    {a : HashAddr} {r : Request Key} (hr : (Deed.test entryPoint env).request self = some (a, r)) :
    Deed.perform self s (.test entryPoint env) =
      commit (callContract r.env a r.entryPoint r.args) s := by
  obtain ⟨token, ht, hr⟩ := Option.bind_eq_some_iff.1 hr
  obtain ⟨⟨tokenEntryPoint, args⟩, hf, hr⟩ := Option.bind_eq_some_iff.1 hr
  cases hr
  have hrun : (TestContract.invoke entryPoint (self.enter env) : HostM Key D Unit).run s =
      (passOn entryPoint (self.enter env) a tokenEntryPoint args).run s := invoke_run ht hf
  have hcommit : Deed.perform self s (.test entryPoint env) =
      commit (passOn entryPoint (self.enter env) a tokenEntryPoint args) s := by
    show commit (TestContract.invoke entryPoint (self.enter env)) s = _
    unfold commit
    rw [hrun]
  rw [hcommit]
  exact commit_passOn hck hf _

/-- With an argument missing, nothing happens. -/
theorem perform_refused {D : ItemKeys Key} {s : Store Key D}
    (hr : (Deed.test entryPoint env).request self = none) :
    Deed.perform self s (.test entryPoint env) = s := by
  have hargs : target env = none ∨ forwarded entryPoint env = none := by
    by_contra hboth
    rw [not_or] at hboth
    obtain ⟨contract, ht⟩ := Option.ne_none_iff_exists'.1 hboth.1
    obtain ⟨p, hf⟩ := Option.ne_none_iff_exists'.1 hboth.2
    simp [Deed.request, ht, hf] at hr
  obtain ⟨e, he⟩ : Refused (TestContract.invoke entryPoint (self.enter env) : HostM Key D Unit) s :=
    invoke_refused hargs
  exact commit_of_error he

/-- An installation adds a token, or changes nothing. -/
theorem installed_cases {D : ItemKeys Key} (self : TestContract.Hashes) (s : Store Key D)
    (account : NamedKeys Key) (env : Env Key) (name : String) :
    (deploy env name { s with named := account } = none ∧
        Deed.perform self s (.install account env name) = s) ∨
      ∃ new b, s.Gains (Deed.perform self s (.install account env name)) new b ∧
        deploy env name { s with named := account } =
          some ((Deed.perform self s (.install account env name)).within b) := by
  cases hrun : (installContract env name : HostM Key D Unit).run { s with named := account } with
  | error e t =>
    left
    refine ⟨?_, ?_⟩
    · unfold deploy
      rw [hrun]
    · show { commit (installContract env name) { s with named := account } with named := s.named } = s
      rw [commit_of_error hrun]
  | ok r t =>
    right
    have hperform : Deed.perform self s (.install account env name) = { t with named := s.named } := by
      show { commit (installContract env name) { s with named := account } with named := s.named } = _
      rw [commit_of_ok hrun]
    obtain ⟨new, b, hg, henter⟩ := installContract_gains hrun
    rw [hperform]
    refine ⟨new, b, ⟨hg.newContract, hg.newPackage, hg.contracts, hg.packages, hg.entryPoints,
      hg.grows, hg.fresh⟩, ?_⟩
    exact deploy_eq_some.2 ⟨r, t, hrun, henter⟩

/-- **What is added is the token that the arguments describe.** -/
theorem Store.Gains.hosts (hg : s.Gains s' contract c) {name : String}
    {before : Store Key D.toItemKeys} (hd : deploy env name before = some (s'.within c)) :
    ∃ config l, env.config? name = some config ∧
      Hosts s' contract c l (s'.within c).log config.token := by
  obtain ⟨config, l, hconfig, hrep⟩ := deploy_rep hd
  obtain ⟨access, hpackages⟩ := hg.packages
  refine ⟨config, l, hconfig, ⟨?_, hg.entryPoints, ?_, hrep, config.sound,
    fun u hu => (hg.fresh u hu).2, fun _ => rfl⟩⟩
  · rw [hg.contracts, Function.update_self]
  · unfold Store.isEnabled
    rw [hpackages, Function.update_self]
    simp

/-- A call of any token does to this one what it asks of it. -/
theorem Hosts.reached (h : Hosts s contract c l log T) (hs : Settled s) (a : HashAddr)
    (r : Request Key) :
    Hosts (commit (callContract r.env a r.entryPoint r.args) s) contract c l log
      (T.exec ((if a = contract then some (r.call c.package contract) else none).bind Call.op?)) := by
  by_cases ha : a = contract
  · subst ha
    rw [if_pos rfl]
    exact (h.called r).2
  · rw [if_neg ha]
    cases hb : s.contracts a with
    | none => rw [commit_callContract_none hb]; exact h
    | some b =>
      -- another token is called
      obtain ⟨l', log', T', hT'⟩ := hs.tokens a b hb
      have hconf := (hT'.called r).1
      refine h.frame ?_ ?_ fun u hu => hconf.same u fun hbu => ?_
      · rw [hconf.contracts]; exact h.stored
      · rw [hconf.packages]
      · exact ha (hs.apart a contract b c u hb h.stored hbu hu)

/-- **Each deed keeps the host settled.** -/
theorem Settled.perform (h : Settled s) (self : TestContract.Hashes) (deed : Deed Key) :
    Settled (deed.perform self s) := by
  cases deed with
  | install account env name =>
    rcases installed_cases self s account env name with ⟨-, hsame⟩ | ⟨new, b, hg, hd⟩
    · rw [hsame]; exact h
    · obtain ⟨config, l, -, hT⟩ := hg.hosts hd
      exact h.gained hg rfl ⟨l, _, _, hT⟩
  | call contract r => exact h.called contract r
  | test entryPoint env =>
    by_cases hck : entryPoint.checks = true
    · rcases h.checked self hck env with ⟨n, -, -, hn⟩ | ⟨-, hfails⟩
      · exact h.stored_result hn
      · rw [show Deed.perform self s (.test entryPoint env) = s from commit_of_not_succeeds hfails]
        exact h
    · cases hr : (Deed.test entryPoint env).request self with
      | none => rw [perform_refused hr]; exact h
      | some p =>
        rw [perform_forwarded (Bool.eq_false_iff.2 hck) hr]
        exact h.called p.1 p.2

/-- **Each deed does to a token what the call that reaches it does.** -/
theorem Hosts.perform (h : Hosts s contract c l log T) (hs : Settled s)
    (self : TestContract.Hashes) (deed : Deed Key) :
    Hosts (deed.perform self s) contract c l log
      (T.exec ((deed.callTo self c.package contract).bind Call.op?)) := by
  cases deed with
  | install account env name =>
    rcases installed_cases self s account env name with ⟨-, hsame⟩ | ⟨new, b, hg, -⟩
    · rw [hsame]; exact h
    · exact h.gained hg
  | call a r => exact h.reached hs a r
  | test entryPoint env =>
    cases hr : (Deed.test entryPoint env).request self with
    | none =>
      have hnone : (Deed.test entryPoint env).callTo self c.package contract = none := by
        simp [Deed.callTo, hr]
      rw [perform_refused hr, hnone]
      exact h
    | some p =>
      have hcall : (Deed.test entryPoint env).callTo self c.package contract =
          if p.1 = contract then some (p.2.call c.package contract) else none := by
        simp [Deed.callTo, hr]
      rw [hcall]
      by_cases hck : entryPoint.checks = true
      · -- the token is asked something, if anything, and stays as it is
        have hT : T.exec ((if p.1 = contract then some (p.2.call c.package contract)
            else none).bind Call.op?) = T := by
          obtain ⟨a, -, hr⟩ := Option.bind_eq_some_iff.1 hr
          obtain ⟨⟨tokenEntryPoint, args⟩, hf, hr⟩ := Option.bind_eq_some_iff.1 hr
          cases hr
          split
          · rw [Option.bind_some, forwarded_query hck hf]; rfl
          · rfl
        rw [hT]
        rcases hs.checked self hck env with ⟨n, -, -, hn⟩ | ⟨-, hfails⟩
        · exact h.stored_result hs hn
        · rw [show Deed.perform self s (.test entryPoint env) = s from commit_of_not_succeeds hfails]
          exact h
      · rw [perform_forwarded (Bool.eq_false_iff.2 hck) hr]
        exact h.reached hs p.1 p.2

/-! ### Runs -/

theorem Settled.run (h : Settled s) (self : TestContract.Hashes) (deeds : List (Deed Key)) :
    Settled (Deed.run self s deeds) :=
  Run.foldl_invariant (fun _ deed hs => hs.perform self deed) deeds h

theorem Store.NoContracts.settled (h : s.NoContracts) : Settled s := by
  refine ⟨fun a b hb => ?_, fun a a' b b' u hb => ?_, ⟨Or.inl h.result⟩⟩
  · rw [h.contracts a] at hb; cases hb
  · rw [h.contracts a] at hb; cases hb

/-- **Deeds do to a token what the calls that reach it do.** -/
theorem Hosts.run (h : Hosts s contract c l log T) (hs : Settled s) (self : TestContract.Hashes)
    (deeds : List (Deed Key)) :
    Hosts (Deed.run self s deeds) contract c l log
      (((Deed.callsTo self c.package contract deeds).map Call.op?).foldl Token.exec T) := by
  induction deeds generalizing s T with
  | nil => exact h
  | cons deed deeds ih =>
    have h' := ih (h.perform hs self deed) (hs.perform self deed)
    unfold Deed.callsTo at h' ⊢
    rw [List.filterMap_cons]
    cases hcall : deed.callTo self c.package contract with
    | none => rw [hcall] at h'; exact h'
    | some call => rw [hcall] at h'; exact h'

theorem Deed.run_append {D : ItemKeys Key} (self : TestContract.Hashes) (s : Store Key D)
    (pre post : List (Deed Key)) :
    Deed.run self s (pre ++ post) = Deed.run self (Deed.run self s pre) post :=
  List.foldl_append ..

/-- **Tokens side by side.** A token installed on a host shows, after any further deeds, what the
calls that reached it would alone have left in the store of its installation, and what it
returns to a further call is the same. -/
theorem side_by_side (self : TestContract.Hashes) {start store : Store Key D.toItemKeys}
    (hstart : start.NoContracts) (pre : List (Deed Key)) {account : NamedKeys Key} {env : Env Key}
    {name : String}
    (hd : deploy env name { Deed.run self start pre with named := account } = some store) :
    ∃ package contract, (Deed.run self start pre).packages package = none ∧
      (Deed.run self start pre).contracts contract = none ∧ ∀ post, ∃ c,
        (Deed.run self start (pre ++ .install account env name :: post)).contracts contract =
          some c ∧ c.package = package ∧
        ((Deed.run self start (pre ++ .install account env name :: post)).within c).SameToken
          (run store (Deed.callsTo self package contract post)) ∧
        ∀ (r : Request Key) (v : CLValue),
          answer (callContract r.env contract r.entryPoint r.args)
              (Deed.run self start (pre ++ .install account env name :: post)) = .ok v ↔
            answer (r.call package contract).program
              (run store (Deed.callsTo self package contract post)) = .ok v := by
  have hsettled := hstart.settled.run self pre
  generalize hpre : Deed.run self start pre = before at hd hsettled ⊢
  rcases installed_cases self before account env name with ⟨hnone, -⟩ | ⟨contract, c, hg, hd'⟩
  · rw [hd] at hnone; cases hnone
  obtain ⟨config, l, -, hT⟩ := hg.hosts hd'
  have hstore : (Deed.perform self before (.install account env name)).within c = store :=
    Option.some.inj (hd'.symm.trans hd)
  rw [hstore] at hT
  have hrep : Rep l config.token store := by rw [← hstore]; exact hT.rep
  refine ⟨c.package, contract, hg.newPackage, hg.newContract, fun post => ⟨c, ?_⟩⟩
  rw [Deed.run_append, hpre]
  -- on both sides, the token after the same calls
  have hrun := hT.run (hsettled.perform self _) self post
  have hrun' := run_rep hrep (Deed.callsTo self c.package contract post)
  refine ⟨hrun.stored, rfl, hrun.rep.sameToken hrun' fun hm => ?_, fun r v => ?_⟩
  · have hm' : config.token.eventsMode = .NoEvents := by
      have hkept : ∀ (T : Token Key) (op : Option (Op Key)),
          T.eventsMode = config.token.eventsMode → (T.exec op).eventsMode = config.token.eventsMode :=
        fun T op hT => (T.exec_modalities op).1.trans hT
      exact (Run.foldl_invariant hkept _ rfl).symm.trans hm
    exact (hrun.quiet hm).trans (run_log hrep hm' _).symm
  · exact (hrun.answer_eq r ▸ hrun.rep.answered (r.call c.package contract)).ok_iff
      (hrun'.answered _) v

/-- Account 1 installs a token, of which it gives part to the test contract. -/
def plainBefore : List (Deed PlainKey) :=
  [.install (fun _ => none) (Env.session 1 (installArgs "token" 100 1 1)) "token",
    .call 8 ⟨Env.session 1 [], .transfer,
      argList [(RECIPIENT, { asKey := some (.hash 900) }), (AMOUNT, { asU256 := some 30 })]⟩]

/-- Account 2 has the test contract send some of it to account 3, and ask for the balance. -/
def plainTests : List (Deed PlainKey) :=
  [.test .transferAsStoredContract (Env.session 2 [(TOKEN_CONTRACT, { asKey := some (.hash 8) }),
      (RECIPIENT, { asKey := some (.account 3) }), (AMOUNT, { asU256 := some 20 })]),
    .test .checkBalanceOf (Env.session 2 [(TOKEN_CONTRACT, { asKey := some (.hash 8) }),
      (ADDRESS, { asKey := some (.account 3) })])]

def plainSelf : TestContract.Hashes := ⟨900, 901⟩

theorem Store.blank_noContracts : Store.blank.NoContracts := ⟨fun _ => rfl, rfl⟩

/-- Account 2 has installed a token of its own beside that of account 1. -/
def plainSecond : Store PlainKey plainItems.toItemKeys :=
  (deploy (Env.session 2 (installArgs "second" 7 0 0)) "second"
    { Deed.run plainSelf Store.blank plainBefore with named := fun _ => none }).get
      (by decide +kernel)

/-- Its token has heard nothing of what happens to the other. -/
theorem side_by_side_plain : ∃ package contract c,
    (Deed.run plainSelf Store.blank (plainBefore ++ .install (fun _ => none)
      (Env.session 2 (installArgs "second" 7 0 0)) "second" :: plainTests)).contracts contract =
        some c ∧
      ((Deed.run plainSelf Store.blank (plainBefore ++ .install (fun _ => none)
        (Env.session 2 (installArgs "second" 7 0 0)) "second" :: plainTests)).within c).SameToken
        (run plainSecond (Deed.callsTo plainSelf package contract plainTests)) := by
  have hd : deploy (Env.session 2 (installArgs "second" 7 0 0)) "second"
      { Deed.run plainSelf Store.blank plainBefore with named := fun _ => none } =
      some plainSecond := (Option.some_get _).symm
  obtain ⟨package, contract, -, -, h⟩ := side_by_side (D := plainItems) plainSelf
    Store.blank_noContracts plainBefore hd
  obtain ⟨c, hc, -, hsame, -⟩ := h plainTests
  exact ⟨package, contract, c, hc, hsame⟩

/-- What one token uses is not where the result is. -/
theorem Settled.result_confined (h : Settled s) (hc : s.contracts contract = some c)
    (hs : s.Confined c.namedKeys.Uses s') : s'.value U256 RESULT_KEY = s.value U256 RESULT_KEY := by
  unfold Store.value Store.uref
  rw [hs.named]
  rcases h.result.stored with hnone | ⟨u, n, hcell, hu⟩
  · rw [hnone]; rfl
  · rw [hcell.named, Option.bind_some, CasperKey.intoURef_ofURef, Option.bind_some,
      Option.bind_some, (hs.same u (hu contract c hc)).values]

theorem Settled.result_called (h : Settled s) (a : HashAddr) (r : Request Key) :
    (commit (callContract r.env a r.entryPoint r.args) s).value U256 RESULT_KEY =
      s.value U256 RESULT_KEY := by
  cases hc : s.contracts a with
  | none => rw [commit_callContract_none hc]
  | some c =>
    obtain ⟨l, log, T, hT⟩ := h.tokens a c hc
    exact h.result_confined hc (hT.called r).1

/-- **One deed** sets the result to the number that is to be kept, if there is one. -/
theorem Settled.result_step (h : Settled s) (self : TestContract.Hashes) (deed : Deed Key) :
    (deed.perform self s).value U256 RESULT_KEY = (deed.kept s).or (s.value U256 RESULT_KEY) := by
  cases deed with
  | install account env name =>
    show _ = s.value U256 RESULT_KEY
    rcases installed_cases self s account env name with ⟨-, hsame⟩ | ⟨new, b, hg, -⟩
    · rw [hsame]
    · have hn : (Deed.perform self s (.install account env name)).named = s.named := rfl
      rcases h.result.stored with hnone | ⟨u, n, hcell, -⟩
      · simp [Store.value, Store.uref, hn, hnone]
      · -- the result is at a URef in use, which stays as it is
        have hsame := hg.grows.sameAt (inUse_of_value hcell.value)
        have hcell' : (Deed.perform self s (.install account env name)).Cell RESULT_KEY u n :=
          ⟨hcell.named, hsame.values.trans hcell.value⟩
        rw [hcell'.value_eq, hcell.value_eq]
  | call a r => exact h.result_called a r
  | test entryPoint env =>
    by_cases hck : entryPoint.checks = true
    · rcases h.checked self hck env with ⟨n, hk, -, hn⟩ | ⟨hk, hfails⟩
      · obtain ⟨u, hcell, -⟩ := hn.result
        rw [hk, hcell.value_eq]; rfl
      · rw [hk, show Deed.perform self s (.test entryPoint env) = s from
          commit_of_not_succeeds hfails]
        rfl
    · have hk : Deed.kept s (.test entryPoint env) = none := by
        have hnone : ∀ token : Store Key D.toItemKeys, asked entryPoint env token = none := by
          intro token
          cases entryPoint <;> first | rfl | exact absurd rfl hck
        simp only [Deed.kept, hnone, Option.bind_eq_bind, Option.bind_fun_none, ite_self]
      rw [hk, Option.none_or]
      cases hr : (Deed.test entryPoint env).request self with
      | none => rw [perform_refused hr]
      | some p =>
        rw [perform_forwarded (Bool.eq_false_iff.2 hck) hr]
        exact h.result_called p.1 p.2

/-- **The result.** After any deeds, the test contract's result is the last number that it was to
keep, and it keeps the number that a token gives it if it has room. -/
theorem result_kept (self : TestContract.Hashes) {start : Store Key D.toItemKeys}
    (hstart : start.NoContracts) (deeds : List (Deed Key)) :
    (Deed.run self start deeds).value U256 RESULT_KEY =
        (Run.outputs (Deed.perform self) Deed.kept start deeds).reduceOption.getLast? ∧
      ∀ entryPoint env, entryPoint.checks →
        (Succeeds (TestContract.invoke entryPoint (self.enter env) : HostM Key D.toItemKeys Unit)
            (Deed.run self start deeds) ↔
          (Deed.kept (Deed.run self start deeds) (.test entryPoint env)).isSome) := by
  have hsettled := hstart.settled
  constructor
  · have hstep : ∀ (s : Store Key D.toItemKeys) (deed : Deed Key), Settled s →
        (deed.perform self s).value U256 RESULT_KEY = (deed.kept s).or (s.value U256 RESULT_KEY) :=
      fun _ deed hs => hs.result_step self deed
    have hrun := Run.foldl_register (φ := fun s => s.value U256 RESULT_KEY) (f := Deed.kept)
      (fun _ deed hs => hs.perform self deed) hstep deeds hsettled
    have hnone : start.value U256 RESULT_KEY = none := by
      simp [Store.value, Store.uref, hstart.result]
    rw [hnone, Option.or_none] at hrun
    exact hrun
  · intro entryPoint env hck
    rcases (hsettled.run self deeds).checked self hck env with
      ⟨n, hk, hs, -⟩ | ⟨hk, hs⟩
    · simp only [hk, hs, Option.isSome_some]
    · simp only [hk, hs, Option.isSome_none, Bool.false_eq_true]

/-- The balance of account 3 is kept. -/
theorem result_kept_plain :
    (Deed.run plainSelf Store.blank (plainBefore ++ plainTests)).value U256 RESULT_KEY = some 20 :=
  (result_kept (D := plainItems) plainSelf Store.blank_noContracts _).1.trans (by decide +kernel)

end Cep18
