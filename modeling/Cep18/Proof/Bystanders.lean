import Cep18.Proof.Authority
import Cep18.Proof.SideBySide

/-!
# What the test contract can do to others

The test contract calls tokens under its own name, whoever calls it and with whatever
arguments. So it moves its own tokens, or those that it was granted, and nobody gets at more of
somebody else's tokens by going through it (`test_contract_respects`).

* `Op.PassedOn a`: the operations that the test contract comes down to, if its name is `a`.
* `Token.Respects a`: what such operations leave to everybody but `a`.
-/

namespace Cep18

open Program Constants

/-! ### Operations -/

section Operations

variable {A : Type} [LinearOrder A] {a : A} {T T' T'' : Token A} {op : Op A}

/-- The operations that the test contract passes on. -/
inductive Op.PassedOn (a : A) : Op A → Prop
  | query : PassedOn a .query
  | transfer (recipient : A) (amount : U256) : PassedOn a (.transfer a recipient amount)
  | approve (spender : A) (amount : U256) : PassedOn a (.approve a spender amount)
  | transferFrom (owner recipient : A) (amount : U256) :
    PassedOn a (.transferFrom a owner recipient amount)

/-- What others than `a` have is touched only as far as they let `a` do it. -/
structure Token.Respects (a : A) (T T' : Token A) : Prop where
  balance : ∀ k, k ≠ a → T.balances k + T'.allowances k a ≤ T'.balances k + T.allowances k a
  granted : ∀ owner, owner ≠ a → T'.allowances owner a ≤ T.allowances owner a
  others : ∀ owner spender, owner ≠ a → spender ≠ a →
    T'.allowances owner spender = T.allowances owner spender
  totalSupply : T'.totalSupply = T.totalSupply
  badges : T'.badges = T.badges

namespace Token

theorem Respects.refl (a : A) (T : Token A) : T.Respects a T :=
  ⟨fun _ _ => le_rfl, fun _ _ => le_rfl, fun _ _ _ _ => rfl, rfl, rfl⟩

theorem Respects.trans (h : T.Respects a T') (h' : T'.Respects a T'') : T.Respects a T'' := by
  refine ⟨fun k hk => ?_, fun o ho => (h'.granted o ho).trans (h.granted o ho),
    fun o sp ho hsp => (h'.others o sp ho hsp).trans (h.others o sp ho hsp),
    h'.totalSupply.trans h.totalSupply, h'.badges.trans h.badges⟩
  have h1 := h.balance k hk
  have h2 := h'.balance k hk
  omega

/-- **One operation.** -/
theorem Takes.respects (h : T.Takes op T') (hop : op.PassedOn a) : T.Respects a T' := by
  cases hop with
  | query => cases h; exact .refl a T
  | transfer recipient amount =>
    cases h with
    | transfer hne hbalance hmax =>
      refine ⟨fun k hk => ?_, fun _ _ => le_rfl, fun _ _ _ _ => rfl, rfl, rfl⟩
      simp only [record_toLedger, withLedger_toLedger, Ledger.move_balances hne,
        Ledger.move_allowances, if_neg hk]
      -- the recipient has more, and everybody else as much
      split_ifs with h1
      · subst h1; omega
      · exact le_rfl
  | approve spender amount =>
    cases h with
    | approve hne =>
      have hother : ∀ owner sp, owner ≠ a →
          (T.setAllowance a spender amount.toNat).allowances owner sp = T.allowances owner sp := by
        intro owner sp ho
        rw [Ledger.setAllowance_allowances, if_neg fun h => ho h.1]
      refine ⟨fun k hk => ?_, fun owner ho => ?_, fun owner sp ho _ => hother owner sp ho, rfl, rfl⟩
      · have hk' := hother k a hk
        simp only [record_toLedger, withLedger_toLedger, hk', Ledger.setAllowance_balances, le_refl]
      · exact (hother owner a ho).le
  | transferFrom owner recipient amount =>
    cases h with
    | transferNothing hne => exact .refl a T
    | transferFrom hne hpos hallowance hbalance hmax =>
      refine ⟨fun k hk => ?_, fun o ho => ?_, fun o sp ho hsp => ?_, rfl, rfl⟩
      · simp only [record_toLedger, withLedger_toLedger, Ledger.setAllowance_balances,
          Ledger.move_balances hne, Ledger.setAllowance_allowances, Ledger.move_allowances,
          and_true]
        -- the owner has less, and so has the test contract of what the owner granted
        split_ifs with h1 h2 h2
        · exact absurd (h1.symm.trans h2) hne
        · subst h1; omega
        · subst h2; omega
        · exact le_rfl
      · simp only [record_toLedger, withLedger_toLedger, Ledger.setAllowance_allowances,
          Ledger.move_allowances, and_true]
        split_ifs with h1
        · subst h1; omega
        · exact le_rfl
      · simp only [record_toLedger, withLedger_toLedger, Ledger.setAllowance_allowances,
          Ledger.move_allowances]
        rw [if_neg fun h => hsp h.2]

theorem exec_respects (T : Token A) {o : Option (Op A)} (ho : ∀ op, o = some op → op.PassedOn a) :
    T.Respects a (T.exec o) := by
  rcases T.exec_cases o with ⟨he, -⟩ | ⟨op, hop, -, ht⟩
  · rw [he]; exact .refl a T
  · exact ht.respects (ho op hop)

/-- **A run of such operations.** -/
theorem run_respects (T : Token A) (os : List (Option (Op A)))
    (hos : ∀ o ∈ os, ∀ op, o = some op → op.PassedOn a) : T.Respects a (os.foldl exec T) := by
  have hstep : ∀ (T' : Token A), ∀ o ∈ os, T.Respects a T' → T.Respects a (T'.exec o) :=
    fun T' o ho h => h.trans (T'.exec_respects (hos o ho))
  exact Run.foldl_invariant_mem os hstep (.refl a T)

end Token

end Operations

/-! ### Deeds -/

variable {Key : Type} [CasperKey Key] {D : DistinctItemKeys Key}
variable {self : TestContract.Hashes} {entryPoint : TestContract.EntryPoint} {env : Env Key}

omit [CasperKey Key] in
/-- The entry points of a token that the test contract calls. -/
theorem forwarded_mem {tokenEntryPoint : EntryPoint} {args : RuntimeArgs Key}
    (h : TestContract.forwarded entryPoint env = some (tokenEntryPoint, args)) :
    tokenEntryPoint ∈ [EntryPoint.totalSupply, .balanceOf, .allowance, .transfer, .approve,
      .transferFrom] := by
  cases entryPoint <;>
    simp only [TestContract.forwarded, Option.bind_eq_bind, Option.bind_eq_some_iff,
      Option.some.injEq, Prod.mk.injEq] at h
  case checkTotalSupply => simp [← h.1]
  case checkBalanceOf => obtain ⟨_, -, rfl, -⟩ := h; simp
  case checkAllowanceOf => obtain ⟨_, -, _, -, rfl, -⟩ := h; simp
  case transferAsStoredContract => obtain ⟨_, -, _, -, rfl, -⟩ := h; simp
  case approveAsStoredContract => obtain ⟨_, -, _, -, rfl, -⟩ := h; simp
  case transferFromAsStoredContract => obtain ⟨_, -, _, -, _, -, rfl, -⟩ := h; simp

/-- What a token sees as its caller is the test contract. -/
theorem callerIdentity_enter (self : TestContract.Hashes) (env : Env Key)
    (tokenEntryPoint : EntryPoint) (args : RuntimeArgs Key) (package contract : HashAddr) :
    (Request.call ⟨self.enter env, tokenEntryPoint, args⟩ package contract).env.callerIdentity =
      some (ofHash self.package : Key) := by
  have hstack : (Request.call ⟨self.enter env, tokenEntryPoint, args⟩ package
      contract).env.callStack = env.callStack ++
        [.StoredContract self.package self.contract, .StoredContract package contract] := by
    simp [Request.call, TestContract.Hashes.enter]
  exact callerIdentity_append hstack

/-- What the test contract asks of a token: an entry point that it calls, under its own name. -/
theorem callTo_test {package contract : HashAddr} {c : Call Key}
    (hc : (Deed.test entryPoint env).callTo self package contract = some c) :
    c.env.callerIdentity = some (ofHash self.package) ∧
      c.entryPoint ∈ [EntryPoint.totalSupply, .balanceOf, .allowance, .transfer, .approve,
        .transferFrom] := by
  obtain ⟨⟨target, r⟩, hr, hc⟩ := Option.bind_eq_some_iff.1 hc
  obtain ⟨a, -, hr⟩ := Option.bind_eq_some_iff.1 hr
  obtain ⟨⟨tokenEntryPoint, args⟩, hf, hr⟩ := Option.bind_eq_some_iff.1 hr
  simp only at hc
  split at hc
  · cases hc
    cases hr
    exact ⟨callerIdentity_enter self env tokenEntryPoint args package contract, forwarded_mem hf⟩
  · cases hc

/-- **The test contract passes on operations of its own.** -/
theorem passedOn_of_callTo {package contract : HashAddr} {c : Call Key} {op : Op Key}
    (hc : (Deed.test entryPoint env).callTo self package contract = some c)
    (hop : c.op? = some op) :
    op.PassedOn (ofHash self.package) := by
  obtain ⟨hid, hmem⟩ := callTo_test hc
  have hd := Call.describes_of_op? hop
  cases op with
  | query => exact .query
  | transfer sender recipient amount =>
    obtain rfl := Option.some.inj (hid.symm.trans hd.2.1)
    exact .transfer recipient amount
  | approve owner spender amount =>
    obtain rfl := Option.some.inj (hid.symm.trans hd.2.1)
    exact .approve spender amount
  | transferFrom spender owner recipient amount =>
    obtain rfl := Option.some.inj (hid.symm.trans hd.2.1)
    exact .transferFrom owner recipient amount
  | init =>
    rw [show c.entryPoint = .init from hd] at hmem
    simp at hmem
  | _ =>
    -- an entry point that the test contract does not call
    rw [show c.entryPoint = _ from hd.1] at hmem
    simp at hmem

/-- What is left of the abstract token is left of the contract's. -/
theorem Token.Respects.store {l l' : Layout} {T T' : Token Key} {s s' : Store Key D.toItemKeys}
    {a : Key}
    (h : T.Respects a T') (hr : Rep l T s) (hr' : Rep l' T' s') : s.Respects a s' := by
  refine ⟨fun k hk => ?_, fun o ho => ?_, fun o sp ho hsp => ?_, ?_, fun k => ?_⟩
  · rw [hr.balance, hr'.balance, hr.allowance, hr'.allowance]
    exact h.balance k hk
  · rw [hr.allowance, hr'.allowance]
    exact h.granted o ho
  · apply BitVec.eq_of_toNat_eq
    rw [hr.allowance, hr'.allowance]
    exact h.others o sp ho hsp
  · apply BitVec.eq_of_toNat_eq
    rw [hr.totalSupply, hr'.totalSupply]
    exact h.totalSupply
  · rw [hr.badge, hr'.badge, h.badges]

/-- A call that reaches a token from the test contract is one that a test comes to. -/
theorem mem_callsTo_calls {tests : List (TestContract.EntryPoint × Env Key)}
    {package contract : HashAddr} {call : Call Key}
    (h : call ∈ Deed.callsTo self package contract (TestContract.calls tests)) :
    ∃ t ∈ tests, (Deed.test t.1 t.2).callTo self package contract = some call := by
  obtain ⟨deed, hdeed, hto⟩ := List.mem_filterMap.1 h
  obtain ⟨t, ht, rfl⟩ := List.mem_map.1 hdeed
  exact ⟨t, ht, hto⟩

/-- **Going through the test contract gains nobody anything.** Whatever has happened on the host,
and whoever calls the test contract how often and with what arguments: of what others than the test
contract have of a token, it spends no more than they have granted it; and the token sees the test
contract as its caller, never the account behind it. -/
theorem test_contract_respects (self : TestContract.Hashes) {start : Store Key D.toItemKeys}
    (hstart : start.NoContracts) (deeds : List (Deed Key))
    (tests : List (TestContract.EntryPoint × Env Key)) {contract : HashAddr} {c : Contract Key}
    (hc : (Deed.run self start deeds).contracts contract = some c) :
    (Deed.run self start (deeds ++ TestContract.calls tests)).contracts contract = some c ∧
      ((Deed.run self start deeds).within c).Respects (ofHash self.package)
        ((Deed.run self start (deeds ++ TestContract.calls tests)).within c) ∧
      ∀ call ∈ Deed.callsTo self c.package contract (TestContract.calls tests),
        call.env.callerIdentity = some (ofHash self.package) := by
  have hs := hstart.settled.run self deeds
  obtain ⟨l, log, T, hT⟩ := hs.tokens contract c hc
  have hrun := hT.run hs self (TestContract.calls tests)
  have hrespects : T.Respects (ofHash self.package) (((Deed.callsTo self c.package contract
      (TestContract.calls tests)).map Call.op?).foldl Token.exec T) := by
    refine T.run_respects _ fun o ho op hop => ?_
    obtain ⟨call, hcall, rfl⟩ := List.mem_map.1 ho
    obtain ⟨t, -, hto⟩ := mem_callsTo_calls hcall
    exact passedOn_of_callTo hto hop
  rw [Deed.run_append]
  refine ⟨hrun.stored, hrespects.store hT.rep hrun.rep, fun call hcall => ?_⟩
  obtain ⟨t, -, hto⟩ := mem_callsTo_calls hcall
  exact (callTo_test hto).1

/-- Account 1 grants the test contract an allowance as well. -/
def plainGranted : List (Deed PlainKey) :=
  plainBefore ++ [.call 8 ⟨Env.session 1 [], .approve,
    argList [(SPENDER, { asKey := some (.hash 900) }), (AMOUNT, { asU256 := some 40 })]⟩]

/-- Account 2 has the test contract spend what it was given, and some of what it was granted. -/
def plainSpending : List (TestContract.EntryPoint × Env PlainKey) :=
  [(.transferAsStoredContract, Env.session 2 [(TestContract.TOKEN_CONTRACT,
      { asKey := some (.hash 8) }), (RECIPIENT, { asKey := some (.account 3) }),
      (AMOUNT, { asU256 := some 20 })]),
    (.transferFromAsStoredContract, Env.session 2 [(TestContract.TOKEN_CONTRACT,
      { asKey := some (.hash 8) }), (OWNER, { asKey := some (.account 1) }),
      (RECIPIENT, { asKey := some (.account 3) }), (AMOUNT, { asU256 := some 25 })])]

/-- It gets at no more than that: account 1 has 45 of 70 left, and 15 of 40 are still granted. -/
theorem test_contract_respects_plain : ∃ c,
    (Deed.run plainSelf Store.blank plainGranted).contracts 8 = some c ∧
      ((Deed.run plainSelf Store.blank plainGranted).within c).Respects (.hash 900)
        ((Deed.run plainSelf Store.blank
          (plainGranted ++ TestContract.calls plainSpending)).within c) ∧
      (∀ call ∈ Deed.callsTo plainSelf c.package 8 (TestContract.calls plainSpending),
        call.env.callerIdentity = some (.hash 900)) ∧
      ((Deed.run plainSelf Store.blank
          (plainGranted ++ TestContract.calls plainSpending)).within c).balance (.account 1) = 45 ∧
      ((Deed.run plainSelf Store.blank (plainGranted ++
          TestContract.calls plainSpending)).within c).allowance (.account 1) (.hash 900) = 15 := by
  have hc : (Deed.run plainSelf Store.blank plainGranted).contracts 8 =
      some (((Deed.run plainSelf Store.blank plainGranted).contracts 8).get (by decide +kernel)) :=
    (Option.some_get _).symm
  obtain ⟨-, hrespects, hcaller⟩ := test_contract_respects (D := plainItems) plainSelf
    Store.blank_noContracts plainGranted plainSpending hc
  exact ⟨_, hc, hrespects, hcaller, by decide +kernel, by decide +kernel⟩

end Cep18
