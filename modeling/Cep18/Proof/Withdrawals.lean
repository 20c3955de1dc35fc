import Cep18.Proof.Allowances
import Cep18.Proof.Authority
import Cep18.Proof.Failures

/-!
# Spending another's tokens

* `transfer_from_exact`: when `transfer_from` succeeds, with which error it reverts
  otherwise, and all that it changes.
* `no_self_allowance`: nobody ever has an allowance over themselves, so nobody moves their
  own tokens through `transfer_from`.
-/

namespace Cep18

open Program Constants

variable {Key : Type} [CasperKey Key]

section Outcome

variable {D : ItemKeys Key}

/-- The call reverts with an error of the contract. -/
def Call.RevertsWith (c : Call Key) (e : Cep18Error) (s : Store Key D) : Prop :=
  ∃ s', c.program.run s = .error e.toApi s'

/-- From `s` to `s'`, the spender has moved an amount from the owner to the recipient, out of
its allowance, and nothing else has changed. -/
structure Store.Moved (s s' : Store Key D) (spender owner recipient : Key) (amount : ℕ) :
    Prop where
  debited : (s'.balance owner).toNat + amount = (s.balance owner).toNat
  credited : (s'.balance recipient).toNat = (s.balance recipient).toNat + amount
  spent : (s'.allowance owner spender).toNat + amount = (s.allowance owner spender).toNat
  balances : ∀ k, k ≠ owner → k ≠ recipient → s'.balance k = s.balance k
  allowances : ∀ o sp, ¬ (o = owner ∧ sp = spender) → s'.allowance o sp = s.allowance o sp
  badges : ∀ k, s'.badge k = s.badge k
  totalSupply : s'.totalSupply = s.totalSupply

end Outcome

variable {D : DistinctItemKeys Key} {l : Layout} {T : Token Key} {s : Store Key D.toItemKeys}
variable {c : Call Key} {spender owner recipient : Key} {amount : U256}

/-- A transfer of nothing is an early return: it succeeds, and nothing is written. -/
theorem transferFrom_nothing (hc : c.Describes (.transferFrom spender owner recipient 0))
    (hne : owner ≠ recipient) : exec s c = s := by
  obtain ⟨entryPoint, env⟩ := c
  obtain ⟨rfl, hs, hr, ho, ha⟩ := hc
  have hrun : (transferFrom env : HostM Key D.toItemKeys Unit).run s = .ok () s := by
    unfold transferFrom
    rw [callerIdentity_eq_some.1 hs, unwrapOrRevert_ok, pure_bind,
      bind_of_ok (getNamedArg_run hr), bind_of_ok (getNamedArg_run ho), if_neg hne,
      bind_of_ok (getNamedArg_run ha), if_pos rfl]
    rfl
  exact commit_of_ok (bind_of_ok hrun)

/-- A transfer of something moves it, and changes nothing else. -/
theorem moved_of_takes {T' : Token Key} {s' : Store Key D.toItemKeys} (hr : Rep l T s)
    (hr' : Rep l T' s') (ht : T.Takes (.transferFrom spender owner recipient amount) T')
    (hpos : amount ≠ 0) : s.Moved s' spender owner recipient amount.toNat := by
  cases ht with
  | transferNothing hne => exact absurd rfl hpos
  | transferFrom hne _ hallowance hbalance hmax =>
    have hbal : ∀ k, (s'.balance k).toNat =
        if k = recipient then T.balances recipient + amount.toNat
        else if k = owner then T.balances owner - amount.toNat else T.balances k := by
      intro k
      rw [hr'.balance]
      exact Ledger.move_balances hne _ k
    have hall : ∀ o sp, (s'.allowance o sp).toNat =
        if o = owner ∧ sp = spender then T.allowances owner spender - amount.toNat
        else T.allowances o sp := by
      intro o sp
      rw [hr'.allowance]
      exact Ledger.setAllowance_allowances _ _ o sp _
    constructor
    case debited => rw [hbal, if_neg hne, if_pos rfl, hr.balance]; omega
    case credited => rw [hbal, if_pos rfl, hr.balance]
    case spent => rw [hall, if_pos ⟨rfl, rfl⟩, hr.allowance]; omega
    case balances =>
      intro k howner hrecipient
      apply BitVec.eq_of_toNat_eq
      rw [hbal, if_neg hrecipient, if_neg howner, hr.balance]
    case allowances =>
      intro o sp hother
      apply BitVec.eq_of_toNat_eq
      rw [hall, if_neg hother, hr.allowance]
    case badges =>
      intro k
      rw [hr'.badge, hr.badge]; rfl
    case totalSupply =>
      apply BitVec.eq_of_toNat_eq
      rw [hr'.totalSupply, hr.totalSupply]; rfl

/-- **`transfer_from` succeeds exactly when it should and does exactly what it says**, in every
state an installed token reaches and whoever the parties are. It reverts for its target, then
for the allowance, then for the balance; a transfer of nothing changes nothing at all; any other
moves the amount and changes nothing else; and there is no other outcome. -/
theorem transfer_from_exact (d : Deployment Key D.toItemKeys) (calls : List (Call Key))
    (hc : c.Describes (.transferFrom spender owner recipient amount)) :
    (c.RevertsWith .CannotTargetSelfUser (d.after calls) ↔ owner = recipient) ∧
      (c.RevertsWith .InsufficientAllowance (d.after calls) ↔
        owner ≠ recipient ∧ amount ≠ 0 ∧
          ((d.after calls).allowance owner spender).toNat < amount.toNat) ∧
      (c.RevertsWith .InsufficientBalance (d.after calls) ↔
        owner ≠ recipient ∧ amount ≠ 0 ∧
          amount.toNat ≤ ((d.after calls).allowance owner spender).toNat ∧
          ((d.after calls).balance owner).toNat < amount.toNat) ∧
      (c.Succeeds (d.after calls) ↔
        owner ≠ recipient ∧ (amount = 0 ∨
          amount.toNat ≤ ((d.after calls).allowance owner spender).toNat ∧
            amount.toNat ≤ ((d.after calls).balance owner).toNat)) ∧
      (amount = 0 → exec (d.after calls) c = d.after calls) ∧
      (amount ≠ 0 → c.Succeeds (d.after calls) →
        (d.after calls).Moved (exec (d.after calls) c) spender owner recipient amount.toNat) ∧
      (c.Succeeds (d.after calls) ∨
        ∃ e ∈ [Cep18Error.CannotTargetSelfUser, .InsufficientAllowance, .InsufficientBalance],
          c.program.run (d.after calls) = .error e.toApi (d.after calls)) := by
  obtain ⟨l, T, hr, hT⟩ := d.holds_after calls
  generalize d.after calls = s at hr ⊢
  have hop := Call.op?_of_describes hc (by simp)
  have herror : ∀ e, c.RevertsWith e s ↔
      T.step (.transferFrom spender owner recipient amount) = .error e := error_iff hr hop
  have hok : c.Succeeds s ↔
      ∃ T', T.step (.transferFrom spender owner recipient amount) = .ok T' := by
    rw [succeeds_iff hr, hop]
    simp
  refine ⟨?_, ?_, ?_, ?_, ?_, ?_, ?_⟩
  · rw [herror, hT.transferFrom_error_iff]
    simp
  · rw [herror, hT.transferFrom_error_iff, hr.allowance]
    simp
  · rw [herror, hT.transferFrom_error_iff, hr.allowance, hr.balance]
    simp
  · rw [hok, hT.transferFrom_ok_iff, hr.allowance, hr.balance]
  · rintro rfl
    by_cases hs : c.Succeeds s
    · exact transferFrom_nothing hc ((hT.transferFrom_ok_iff _ _ _ _).1 (hok.1 hs)).1
    · exact exec_of_not_succeeds hs
  · intro hpos hs
    rcases call_cases hr c with ⟨hns, -, -⟩ | ⟨op, -, hop', -, ht, hr'⟩
    · exact absurd hs hns
    · rw [hop] at hop'
      cases hop'
      exact moved_of_takes hr hr' ht hpos
  · rcases succeeds_or_refused hr hop with hs | ⟨e, hstep, hrun⟩
    · exact Or.inl hs
    · refine Or.inr ⟨e, ?_, hrun⟩
      rcases (hT.transferFrom_error_iff _ _ _ _ e).1 hstep with ⟨rfl, -⟩ | ⟨rfl, -⟩ | ⟨rfl, -⟩
      · simp
      · simp
      · simp

/-- Account 2 moves 5 from account 1 to account 3. -/
def spend : Call PlainKey :=
  Call.plain 2 .transferFrom [(OWNER, { asKey := some (.account 1) }),
    (RECIPIENT, { asKey := some (.account 3) }), (AMOUNT, { asU256 := some 5 })]

/-- With an allowance of 20, account 2 can. -/
theorem transfer_from_exact_plain :
    spend.Succeeds (plainToken.after (allowing 20)) ∧
      (plainToken.after (allowing 20)).Moved (exec (plainToken.after (allowing 20)) spend)
        (.account 2) (.account 1) (.account 3) 5 := by
  have hc : spend.Describes (.transferFrom (.account 2) (.account 1) (.account 3) 5) :=
    ⟨rfl, rfl, rfl, rfl, rfl⟩
  have hallowance : (5 : U256).toNat ≤
      ((plainToken.after (allowing 20)).allowance (.account 1) (.account 2)).toNat := by
    decide +kernel
  have hbalance : (5 : U256).toNat ≤
      ((plainToken.after (allowing 20)).balance (.account 1)).toNat := by decide +kernel
  obtain ⟨-, -, -, hsucceeds, -, hmoved, -⟩ := transfer_from_exact plainToken (allowing 20) hc
  have hs := hsucceeds.2 ⟨by decide, Or.inr ⟨hallowance, hbalance⟩⟩
  exact ⟨hs, hmoved (by decide) hs⟩

/-! ### Allowances over oneself -/

/-- **One call** never raises what anybody may take from themselves. -/
theorem self_allowance_step (h : Holds s) (c : Call Key) (k : Key) :
    ((exec s c).allowance k k).toNat ≤ (s.allowance k k).toNat := by
  obtain ⟨l, T, hr, -⟩ := h
  rcases call_cases hr c with ⟨-, he, -⟩ | ⟨op, -, -, -, ht, hr'⟩
  · rw [he]
  · rw [hr.allowance, hr'.allowance]
    exact ht.allowance_self_le k

theorem self_allowance (d : Deployment Key D.toItemKeys) (calls : List (Call Key)) (k : Key) :
    ((d.after calls).allowance k k).toNat = 0 := by
  have hstep : ∀ (t : Store Key D.toItemKeys) (c : Call Key),
      (Holds t ∧ (t.allowance k k).toNat = 0) →
        Holds (exec t c) ∧ ((exec t c).allowance k k).toNat = 0 := by
    rintro t c ⟨ht, h0⟩
    have hle := self_allowance_step ht c k
    exact ⟨ht.exec c, by omega⟩
  have hrun := Run.foldl_invariant hstep calls ⟨d.holds, d.allowance k k⟩
  exact hrun.2

/-- A call by which anybody loses tokens of their own is a transfer or a burn. -/
theorem own_debit (h : Holds s) {k : Key} (hself : (s.allowance k k).toNat = 0)
    (hcaller : c.env.callerIdentity = some k)
    (hlt : ((exec s c).balance k).toNat < (s.balance k).toNat) :
    c.entryPoint = .transfer ∨ c.entryPoint = .burn := by
  rcases debit_step h c hlt with ⟨he, -⟩ | ⟨-, -, caller, n, hc, hbalance, hallowance⟩
  · exact he
  · -- what is taken through `transfer_from` comes out of the caller's allowance over itself
    rw [hcaller] at hc
    cases hc
    omega

/-- **Nobody ever holds an allowance over themselves**, in every state an installed token
reaches. So a `transfer_from` whose caller is its owner reverts for the allowance, whatever the
amount but zero and whoever else the recipient; and the calls by which a caller's own tokens go
away are transfers and burns. -/
theorem no_self_allowance (d : Deployment Key D.toItemKeys) (calls : List (Call Key)) (k : Key) :
    (d.after calls).allowance k k = 0 ∧
      (∀ (c : Call Key) (recipient : Key) (amount : U256),
        c.Describes (.transferFrom k k recipient amount) → recipient ≠ k → amount ≠ 0 →
        c.RevertsWith .InsufficientAllowance (d.after calls)) ∧
      ∀ c : Call Key, c.env.callerIdentity = some k →
        ((exec (d.after calls) c).balance k).toNat < ((d.after calls).balance k).toNat →
        c.entryPoint = .transfer ∨ c.entryPoint = .burn := by
  have hself := self_allowance d calls k
  obtain ⟨l, T, hr, hT⟩ := d.holds_after calls
  refine ⟨BitVec.eq_of_toNat_eq hself, ?_, ?_⟩
  · intro c recipient amount hc hne hpos
    have hlt : T.allowances k k < amount.toNat := by
      have hamount : amount.toNat ≠ 0 := fun h0 => hpos (BitVec.eq_of_toNat_eq h0)
      rw [hr.allowance] at hself
      omega
    refine (error_iff hr (Call.op?_of_describes hc (by simp)) _).2 ?_
    exact (hT.transferFrom_error_iff k k recipient amount _).2
      (Or.inr (Or.inl ⟨rfl, hne.symm, hpos, hlt⟩))
  · intro c hcaller hlt
    exact own_debit ⟨l, T, hr, hT⟩ hself hcaller hlt

end Cep18
