import Cep18.Lib.Overlay
import Cep18.Lib.Run
import Cep18.Proof.Outcome

/-!
# The entry points refine the abstract token

`invoke_refines`: on a store that holds a token, every call of every entry point does
what the abstract operation it comes down to does. It leads to a store that holds the
new token, or stops with the same error having written nothing.

From it, for whole runs: `run_rep`.
-/

namespace Cep18

open Program Constants Checked

variable {Key : Type} [CasperKey Key] {D : DistinctItemKeys Key}
variable {l : Layout} {T : Token Key} {s : Store Key D.toItemKeys} {env : Env Key}

/-! ### Checks -/

theorem secCheck_of_badge (h : Rep l T s) {caller : Key} (hc : env.callerIdentity = some caller)
    {allowed : List SecurityBadge} {badge : SecurityBadge} (hb : T.badges caller = some badge)
    (hmem : badge ∈ allowed) :
    (secCheck env allowed : HostM Key D.toItemKeys Unit).run s = .ok () s := by
  unfold secCheck
  rw [callerIdentity_eq_some.1 hc, unwrapOrRevert_ok, pure_bind,
    bind_of_ok (getBadgesUref_run h), bind_of_ok (readBadge_run h caller), hb]
  simp [hmem]

theorem secCheck_of_no_badge (h : Rep l T s) {caller : Key}
    (hc : env.callerIdentity = some caller) {allowed : List SecurityBadge}
    (hb : ∀ badge ∈ allowed, T.badges caller ≠ some badge) :
    (secCheck env allowed : HostM Key D.toItemKeys Unit).run s =
      .error (Cep18Error.toApi .InsufficientRights) s := by
  unfold secCheck
  rw [callerIdentity_eq_some.1 hc, unwrapOrRevert_ok, pure_bind,
    bind_of_ok (getBadgesUref_run h), bind_of_ok (readBadge_run h caller)]
  cases hbadge : T.badges caller with
  | none => rfl
  | some badge =>
    have hnot : badge ∉ allowed := fun hmem => hb badge hmem hbadge
    simp [hnot, revert]

theorem secCheck_of_no_caller (hc : env.callerIdentity = none)
    (allowed : List SecurityBadge) :
    Refused (secCheck env allowed : HostM Key D.toItemKeys Unit) s := by
  unfold secCheck
  rw [callerIdentity_eq_none.1 hc]
  exact Refused.bind (Refused.revert _)

/-! ### Moving balances -/

theorem Rep.balance_le_max (h : Rep l T s) (k : Key) : T.balances k ≤ U256.MAX := by
  obtain ⟨b, -, hb⟩ := readBalanceFrom_run h k
  rw [← hb]; exact toNat_le_maxWord b

theorem transferBalance_meets (h : Rep l T s) {sender recipient : Key} (hne : sender ≠ recipient)
    (amount : U256) :
    MeetsAt l (transferBalance sender recipient amount) s
      (if T.balances sender < amount.toNat then .error .InsufficientBalance
       else if U256.MAX < T.balances recipient + amount.toNat then .error .Overflow
       else .ok (T.withLedger (T.move sender recipient amount.toNat))) := by
  unfold transferBalance
  by_cases h0 : amount = 0
  · -- the code leaves both balances alone, and so does a move of nothing
    subst h0
    have hmax := h.balance_le_max recipient
    rw [if_pos (Or.inr rfl), if_neg (by simp), if_neg (by simp; omega)]
    exact ⟨(), s, rfl, by simpa [Ledger.move_zero, Token.withLedger] using h⟩
  rw [if_neg (not_or.2 ⟨hne, h0⟩)]
  obtain ⟨b, hb, hbT⟩ := readBalanceFrom_run h sender
  obtain ⟨c, hc, hcT⟩ := readBalanceFrom_run h recipient
  refine MeetsAt.bind_ok (getBalancesUref_run h) (MeetsAt.bind_ok hb ?_)
  refine MeetsAt.checkedSub hbT fun _ b' hb' => MeetsAt.bind_ok hc ?_
  refine MeetsAt.checkedAdd hcT fun _ c' hc' => MeetsAt.of_ensures h ?_
  have hT : (T.setBalance sender b'.toNat).setBalance recipient c'.toNat =
      T.withLedger (T.move sender recipient amount.toNat) := by
    rw [hb', hc']; rfl
  rw [← hT]
  exact (writeBalanceTo_ensures sender b').bind fun _ => writeBalanceTo_ensures recipient c'

/-! ### Allowances -/

theorem ofNat_of_toNat_eq {v : U256} {n : ℕ} (h : v.toNat = n) : BitVec.ofNat 256 n = v := by
  rw [← h, BitVec.ofNat_toNat, BitVec.setWidth_eq]

/-- Writing an allowance and recording it. -/
theorem putAllowance_meets (h : Rep l T s) (owner spender : Key) (v : U256) (event : Event Key) :
    MeetsAt l (do
      writeAllowanceTo l.allowances owner spender v
      recordEventDictionary event : HostM Key D.toItemKeys Unit) s
      (.ok ((T.putAllowance owner spender v.toNat).record event)) :=
  MeetsAt.of_ensures h ((writeAllowanceTo_ensures owner spender v).bind fun _ =>
    recordEventDictionary_ensures event)

theorem approve_refines (h : Rep l T s) :
    RefinesAt l T (approve env : HostM Key D.toItemKeys Unit) s (Call.op? ⟨.approve, env⟩) := by
  unfold approve
  refine RefinesAt.caller fun owner _ => RefinesAt.arg fun spender _ => ?_
  refine RefinesAt.ite_revert (fun heq op ho => ?_) fun heq => ?_
  · obtain ⟨amount, -, ⟨⟩⟩ := Option.bind_eq_some_iff.1 ho
    simp [Token.step, heq]
  refine RefinesAt.arg fun amount _ => ?_
  simp only [RefinesAt, Token.step, if_neg heq]
  exact MeetsAt.bind_ok (getAllowancesUref_run h) (putAllowance_meets h owner spender amount _)

/-- An operation that adjusts an allowance as `adjust` does is what `adjustAllowance` refines. -/
theorem adjustAllowance_refines (h : Rep l T s) {adjust : U256 → U256 → U256}
    {event : Key → Key → U256 → U256 → Event Key} {op : Key → Key → U256 → Op Key}
    (hself : ∀ owner amount, T.step (op owner owner amount) = .error .CannotTargetSelfUser)
    (hstep : ∀ owner spender amount, spender ≠ owner → ∀ a : U256,
      a.toNat = T.allowances owner spender →
      T.step (op owner spender amount) =
        .ok ((T.putAllowance owner spender (adjust a amount).toNat).record
          (event owner spender (adjust a amount) amount))) :
    RefinesAt l T (adjustAllowance env adjust event : HostM Key D.toItemKeys Unit) s (do
      let owner ← env.callerIdentity
      let spender ← env.arg? Key SPENDER
      let amount ← env.arg? U256 AMOUNT
      some (op owner spender amount)) := by
  unfold adjustAllowance
  refine RefinesAt.caller fun owner _ => RefinesAt.arg fun spender _ => ?_
  refine RefinesAt.ite_revert (fun heq op ho => ?_) fun heq => ?_
  · obtain ⟨amount, -, ⟨⟩⟩ := Option.bind_eq_some_iff.1 ho
    rw [heq]; exact hself owner amount
  refine RefinesAt.arg fun amount _ => ?_
  obtain ⟨a, ha, haT⟩ := readAllowanceFrom_run h owner spender
  simp only [RefinesAt, hstep owner spender amount heq a haT]
  refine MeetsAt.bind_ok (getAllowancesUref_run h) (MeetsAt.bind_ok ha ?_)
  exact putAllowance_meets h owner spender _ _

theorem decreaseAllowance_refines (h : Rep l T s) :
    RefinesAt l T (decreaseAllowance env : HostM Key D.toItemKeys Unit) s
      (Call.op? ⟨.decreaseAllowance, env⟩) := by
  refine adjustAllowance_refines h (fun owner amount => by simp [Token.step]) ?_
  intro owner spender amount hne a ha
  -- the abstract allowance, cut off at zero, is what saturation leaves
  have hv : (saturatingSub a amount).toNat = T.allowances owner spender - amount.toNat := by
    rw [toNat_saturatingSub, ha]
  simp only [Token.step, if_neg hne]
  rw [ofNat_of_toNat_eq hv, ← hv]
  rfl

theorem increaseAllowance_refines (h : Rep l T s) :
    RefinesAt l T (increaseAllowance env : HostM Key D.toItemKeys Unit) s
      (Call.op? ⟨.increaseAllowance, env⟩) := by
  refine adjustAllowance_refines h (fun owner amount => by simp [Token.step]) ?_
  intro owner spender amount hne a ha
  have hv : (saturatingAdd a amount).toNat =
      min (T.allowances owner spender + amount.toNat) U256.MAX := by
    rw [toNat_saturatingAdd, ha]; rfl
  simp only [Token.step, if_neg hne]
  rw [ofNat_of_toNat_eq hv, ← hv]
  rfl

/-! ### Transfers -/

theorem transfer_refines (h : Rep l T s) :
    RefinesAt l T (transfer env : HostM Key D.toItemKeys Unit) s (Call.op? ⟨.transfer, env⟩) := by
  unfold transfer
  refine RefinesAt.caller fun sender _ => RefinesAt.arg fun recipient _ => ?_
  refine RefinesAt.ite_revert (fun heq op ho => ?_) fun heq => ?_
  · -- the code stops before it has read the amount
    obtain ⟨amount, -, ⟨⟩⟩ := Option.bind_eq_some_iff.1 ho
    simp [Token.step, heq]
  refine RefinesAt.arg fun amount _ => ?_
  have hmove := (transferBalance_meets h heq amount).bind_ensures fun T' _ =>
    recordEventDictionary_ensures (D := D) (l := l) (T := T') (.Transfer sender recipient amount)
  simp only [RefinesAt, Token.step, if_neg heq]
  split_ifs at hmove ⊢ <;> exact hmove

theorem transferFrom_refines (h : Rep l T s) :
    RefinesAt l T (transferFrom env : HostM Key D.toItemKeys Unit) s
      (Call.op? ⟨.transferFrom, env⟩) := by
  unfold transferFrom
  refine RefinesAt.caller fun spender _ => RefinesAt.arg fun recipient _ =>
    RefinesAt.arg fun owner _ => ?_
  refine RefinesAt.ite_revert (fun heq op ho => ?_) fun heq => ?_
  · obtain ⟨amount, -, ⟨⟩⟩ := Option.bind_eq_some_iff.1 ho
    simp [Token.step, heq]
  refine RefinesAt.arg fun amount _ => ?_
  simp only [RefinesAt, Token.step, if_neg heq]
  by_cases h0 : amount = 0
  · rw [if_pos h0, if_pos h0]
    exact ⟨(), s, rfl, h⟩
  rw [if_neg h0, if_neg h0]
  obtain ⟨a, ha, haT⟩ := readAllowanceFrom_run h owner spender
  refine MeetsAt.bind_ok (getAllowancesUref_run h) (MeetsAt.bind_ok ha ?_)
  refine MeetsAt.checkedSub haT fun _ a' ha' => ?_
  have hmove := (transferBalance_meets h heq amount).bind_ensures fun T' _ =>
    (writeAllowanceTo_ensures (D := D) (l := l) (T := T') owner spender a').bind fun _ =>
      recordEventDictionary_ensures (.TransferFrom spender owner recipient amount)
  rw [← ha']
  split_ifs at hmove ⊢ <;> exact hmove

/-! ### Supply -/

theorem mint_refines (h : Rep l T s) :
    RefinesAt l T (mint env : HostM Key D.toItemKeys Unit) s (Call.op? ⟨.mint, env⟩) := by
  unfold mint
  refine RefinesAt.bind_ok (readFrom_run h.cells.enableMintBurn) ?_
  refine RefinesAt.ite_revert (fun hflag op ho => ?_) fun hflag => ?_
  · -- a disabled token refuses whoever calls, and whatever the arguments
    obtain ⟨caller, -, ho⟩ := Option.bind_eq_some_iff.1 ho
    obtain ⟨owner, -, ho⟩ := Option.bind_eq_some_iff.1 ho
    obtain ⟨amount, -, ⟨⟩⟩ := Option.bind_eq_some_iff.1 ho
    simp [Token.step, hflag.symm]
  have hflag' : T.enableMintBurn ≠ 0 := Ne.symm hflag
  cases hc : env.callerIdentity with
  | none =>
    simp only [Call.op?, hc, Option.bind_eq_bind, Option.bind_none]
    exact Refused.bind (secCheck_of_no_caller hc _)
  | some caller =>
    simp only [Call.op?, hc, Option.bind_eq_bind, Option.bind_some]
    by_cases hb : T.badges caller ≠ some .Admin ∧ T.badges caller ≠ some .Minter
    · have hrej : (secCheck env [.Admin, .Minter] : HostM Key D.toItemKeys Unit).run s =
          .error (Cep18Error.toApi .InsufficientRights) s :=
        secCheck_of_no_badge h hc (by simpa using hb)
      refine RefinesAt.of_error (bind_of_error hrej) fun op ho => ?_
      obtain ⟨owner, -, ho⟩ := Option.bind_eq_some_iff.1 ho
      obtain ⟨amount, -, ⟨⟩⟩ := Option.bind_eq_some_iff.1 ho
      simp only [Token.step, if_neg hflag', if_pos hb]
    -- either badge will do
    have hok : (secCheck env [.Admin, .Minter] : HostM Key D.toItemKeys Unit).run s = .ok () s := by
      by_cases hA : T.badges caller = some .Admin
      · exact secCheck_of_badge h hc hA (by simp)
      · exact secCheck_of_badge h hc (not_not.1 fun hM => hb ⟨hA, hM⟩) (by simp)
    refine RefinesAt.bind_ok hok (RefinesAt.arg fun owner _ => RefinesAt.arg fun amount _ => ?_)
    obtain ⟨b, hrb, hbT⟩ := readBalanceFrom_run h owner
    obtain ⟨n, hrn, hnT⟩ := readTotalSupplyFrom_run h
    simp only [RefinesAt, Token.step, if_neg hflag', if_neg hb]
    refine MeetsAt.bind_ok (getBalancesUref_run h) (MeetsAt.bind_ok (getTotalSupplyUref_run h) ?_)
    refine MeetsAt.bind_ok hrb (MeetsAt.checkedAdd hbT fun _ b' hb' => ?_)
    refine MeetsAt.bind_ok hrn (MeetsAt.checkedAdd hnT fun _ n' hn' => ?_)
    have hT : (T.setBalance owner b'.toNat).setTotalSupply n'.toNat =
        T.withLedger (T.issue owner amount.toNat) := by
      rw [hb', hn']; rfl
    rw [← hT]
    exact MeetsAt.of_ensures h ((writeBalanceTo_ensures owner b').bind fun _ =>
      (writeTotalSupplyTo_ensures n').bind fun _ => recordEventDictionary_ensures _)

theorem burn_refines (h : Rep l T s) :
    RefinesAt l T (burn env : HostM Key D.toItemKeys Unit) s (Call.op? ⟨.burn, env⟩) := by
  unfold burn
  refine RefinesAt.bind_ok (readFrom_run h.cells.enableMintBurn) ?_
  refine RefinesAt.ite_revert (fun hflag op ho => ?_) fun hflag => ?_
  · obtain ⟨owner, -, ho⟩ := Option.bind_eq_some_iff.1 ho
    obtain ⟨caller, -, ho⟩ := Option.bind_eq_some_iff.1 ho
    obtain ⟨amount, -, ⟨⟩⟩ := Option.bind_eq_some_iff.1 ho
    simp [Token.step, hflag.symm]
  have hflag' : T.enableMintBurn ≠ 0 := Ne.symm hflag
  refine RefinesAt.arg fun owner _ => RefinesAt.caller fun caller _ => ?_
  refine RefinesAt.ite_revert (fun hne op ho => ?_) fun heq => ?_
  · obtain ⟨amount, -, ⟨⟩⟩ := Option.bind_eq_some_iff.1 ho
    simp only [Token.step, if_neg hflag', if_pos hne]
  refine RefinesAt.arg fun amount _ => ?_
  obtain ⟨b, hrb, hbT⟩ := readBalanceFrom_run h owner
  obtain ⟨n, hrn, hnT⟩ := readTotalSupplyFrom_run h
  simp only [RefinesAt, Token.step, if_neg hflag', if_neg heq]
  refine MeetsAt.bind_ok (getBalancesUref_run h) (MeetsAt.bind_ok (getTotalSupplyUref_run h) ?_)
  refine MeetsAt.bind_ok hrb (MeetsAt.checkedSub hbT fun _ b' hb' => ?_)
  refine MeetsAt.bind_ok hrn (MeetsAt.checkedSub hnT fun _ n' hn' => ?_)
  have hT : (T.setBalance owner b'.toNat).setTotalSupply n'.toNat =
      T.withLedger (T.retire owner amount.toNat) := by
    rw [hb', hn']; rfl
  rw [← hT]
  exact MeetsAt.of_ensures h ((writeBalanceTo_ensures owner b').bind fun _ =>
    (writeTotalSupplyTo_ensures n').bind fun _ => recordEventDictionary_ensures _)

/-! ### Security -/

theorem foldl_putBadge (T : Token Key) :
    ∀ changes : List (Key × SecurityBadge),
      changes.foldl (fun T p => Token.putBadge T p.1 p.2) T =
        { T with badges := changes.foldl Overlay.put T.badges } := by
  intro changes
  induction changes generalizing T with
  | nil => rfl
  | cons p changes ih => rw [List.foldl_cons, ih]; rfl

/-- **The loop that changes badges** lays the changes over the badge table. -/
theorem changeSecBadge_ensures (changes : BTreeMap Key SecurityBadge) :
    Ensures (Rep (D := D) l T) (changeSecBadge changes) (Rep l (T.setBadges changes)) := by
  intro s h
  have hT : changes.iter.foldl (fun T p => Token.putBadge T p.1 p.2) T = T.setBadges changes := by
    rw [foldl_putBadge, Token.setBadges]
    congr 1
    funext k
    exact Overlay.foldl_put_toList changes T.badges k
  unfold changeSecBadge
  rw [bind_of_ok (getBadgesUref_run h), ← hT]
  -- one badge after another, in the order of the map's keys
  refine Ensures.forM (I := Rep (D := D) l) (g := fun T (p : Key × SecurityBadge) =>
    T.putBadge p.1 p.2) ?_ _ T s h
  rintro T ⟨user, badge⟩
  exact putBadge_ensures user badge

theorem changeSecurity_refines (h : Rep l T s) :
    RefinesAt l T (changeSecurity env : HostM Key D.toItemKeys Unit) s
      (Call.op? ⟨.changeSecurity, env⟩) := by
  unfold changeSecurity
  refine RefinesAt.bind_ok (readFrom_run h.cells.enableMintBurn) ?_
  refine RefinesAt.ite_revert (fun hflag op ho => ?_) fun hflag => ?_
  · obtain ⟨caller, -, ho⟩ := Option.bind_eq_some_iff.1 ho
    obtain ⟨adminList, -, ho⟩ := Option.bind_eq_some_iff.1 ho
    obtain ⟨minterList, -, ho⟩ := Option.bind_eq_some_iff.1 ho
    obtain ⟨noneList, -, ⟨⟩⟩ := Option.bind_eq_some_iff.1 ho
    simp [Token.step, hflag.symm]
  have hflag' : T.enableMintBurn ≠ 0 := Ne.symm hflag
  cases hc : env.callerIdentity with
  | none =>
    simp only [Call.op?, hc, Option.bind_eq_bind, Option.bind_none]
    exact Refused.bind (secCheck_of_no_caller hc _)
  | some caller =>
    simp only [Call.op?, hc, Option.bind_eq_bind, Option.bind_some]
    by_cases hb : T.badges caller ≠ some .Admin
    · have hrej : (secCheck env [.Admin] : HostM Key D.toItemKeys Unit).run s =
          .error (Cep18Error.toApi .InsufficientRights) s :=
        secCheck_of_no_badge h hc (by simpa using hb)
      refine RefinesAt.of_error (bind_of_error hrej) fun op ho => ?_
      obtain ⟨adminList, -, ho⟩ := Option.bind_eq_some_iff.1 ho
      obtain ⟨minterList, -, ho⟩ := Option.bind_eq_some_iff.1 ho
      obtain ⟨noneList, -, ⟨⟩⟩ := Option.bind_eq_some_iff.1 ho
      simp only [Token.step, if_neg hflag', if_pos hb]
    refine RefinesAt.bind_ok (secCheck_of_badge h hc (not_not.1 hb) (by simp)) ?_
    refine RefinesAt.optArg (by decide) fun adminList => RefinesAt.optArg (by decide)
      fun minterList => RefinesAt.optArg (by decide) fun noneList => ?_
    simp only [RefinesAt, Token.step, if_neg hflag', if_neg hb]
    rw [callerIdentity_eq_some.1 hc]
    exact MeetsAt.of_ensures h ((changeSecBadge_ensures _).bind fun _ =>
      recordEventDictionary_ensures _)

/-! ### Every entry point -/

/-- A token that has been installed has been initialised. -/
theorem init_refines (h : Rep l T s) :
    RefinesAt l T (init env : HostM Key D.toItemKeys Unit) s (Call.op? ⟨.init, env⟩) := by
  obtain ⟨d, hd, -⟩ := h.tables.allowances
  have hk : (getKey ALLOWANCES : HostM Key D.toItemKeys (Option Key)).run s =
      .ok (some (ofURef l.allowances)) s := by
    rw [← hd.named]; rfl
  unfold init
  -- the allowances dictionary is what `init` looks for
  refine RefinesAt.bind_ok hk (RefinesAt.of_error rfl fun op ho => ?_)
  cases ho; rfl

theorem query_refines {α : Type} {x : HostM Key D.toItemKeys α} {a : α} (h : Rep l T s)
    (hx : x.run s = .ok a s) : RefinesAt l T x s (some .query) := ⟨a, s, hx, h⟩

/-- **Every call of every entry point refines the operation it comes down to.** -/
theorem invoke_refines (h : Rep l T s) (c : Call Key) :
    RefinesAt l T (c.program : HostM Key D.toItemKeys CLValue) s c.op? := by
  obtain ⟨entryPoint, env⟩ := c
  cases entryPoint with
  | init => exact (init_refines h).seq_pure
  | name => exact (query_refines h (readFrom_run h.cells.name)).map
  | symbol => exact (query_refines h (readFrom_run h.cells.symbol)).map
  | decimals => exact (query_refines h (readFrom_run h.cells.decimals)).map
  | totalSupply =>
    obtain ⟨n, hn, -⟩ := h.cells.totalSupply
    exact (query_refines h (readFrom_run hn)).map
  | balanceOf =>
    refine RefinesAt.map (RefinesAt.arg fun address _ => ?_)
    obtain ⟨b, hb, -⟩ := readBalanceFrom_run h address
    exact RefinesAt.bind_ok (getBalancesUref_run h) (query_refines h hb)
  | allowance =>
    refine RefinesAt.map (RefinesAt.arg fun spender _ => RefinesAt.arg fun owner _ => ?_)
    obtain ⟨a, ha, -⟩ := readAllowanceFrom_run h owner spender
    exact RefinesAt.bind_ok (getAllowancesUref_run h) (query_refines h ha)
  | transfer => exact (transfer_refines h).seq_pure
  | approve => exact (approve_refines h).seq_pure
  | decreaseAllowance => exact (decreaseAllowance_refines h).seq_pure
  | increaseAllowance => exact (increaseAllowance_refines h).seq_pure
  | transferFrom => exact (transferFrom_refines h).seq_pure
  | changeSecurity => exact (changeSecurity_refines h).seq_pure
  | burn => exact (burn_refines h).seq_pure
  | mint => exact (mint_refines h).seq_pure

/-! ### Runs -/

/-- A call succeeds exactly if its operation exists and is not refused. -/
theorem succeeds_iff (h : Rep l T s) (c : Call Key) :
    c.Succeeds s ↔ ∃ op T', c.op? = some op ∧ T.step op = .ok T' := by
  have hr := invoke_refines h c
  constructor
  · rintro ⟨a, s', hx⟩
    cases ho : c.op? with
    | none =>
      rw [ho] at hr
      obtain ⟨e, he⟩ := hr
      rw [he] at hx; cases hx
    | some op =>
      rw [ho] at hr
      cases hs : T.step op with
      | ok T' => exact ⟨op, T', rfl, hs⟩
      | error e =>
        simp only [RefinesAt, hs, MeetsAt] at hr
        rw [hr] at hx; cases hx
  · rintro ⟨op, T', ho, hs⟩
    rw [ho] at hr
    simp only [RefinesAt, hs, MeetsAt] at hr
    obtain ⟨a, s', hx, -⟩ := hr
    exact ⟨a, s', hx⟩

/-- A call that fails leaves the store as it was, with nothing written. -/
theorem exec_of_not_succeeds {c : Call Key} (h : ¬ c.Succeeds s) : exec s c = s :=
  commit_of_not_succeeds h

/-- **One call** keeps the store holding the token. -/
theorem exec_rep (h : Rep l T s) (c : Call Key) : Rep l (T.exec c.op?) (exec s c) := by
  have hr := invoke_refines h c
  unfold exec Token.exec
  cases ho : c.op? with
  | none =>
    rw [ho] at hr
    obtain ⟨e, he⟩ := hr
    rw [commit_of_error he]; exact h
  | some op =>
    rw [ho] at hr
    cases hs : T.step op with
    | ok T' =>
      simp only [RefinesAt, hs, MeetsAt] at hr
      obtain ⟨a, s', hx, hs'⟩ := hr
      simp only [commit_of_ok hx, hs]; exact hs'
    | error e =>
      simp only [RefinesAt, hs, MeetsAt] at hr
      simp only [commit_of_error hr, hs]; exact h

/-- **A run** of calls keeps the store holding the token that the operations lead to. -/
theorem run_rep (h : Rep l T s) (calls : List (Call Key)) :
    Rep l ((calls.map Call.op?).foldl Token.exec T) (run s calls) := by
  have hstep : ∀ (s : Store Key D.toItemKeys) (T : Token Key) (c : Call Key), Rep l T s →
      Rep l (T.exec c.op?) (exec s c) := fun s T c h => exec_rep h c
  exact Run.foldl_simulates (R := fun s T => Rep (D := D) l T s) hstep calls h

end Cep18
