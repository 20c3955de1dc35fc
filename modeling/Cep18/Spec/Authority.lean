import Cep18.Spec.Step

/-!
# Who may do what

What has to hold of an operation that is not refused, read off from its effect.

* `Takes.debit`, `Takes.raise`: which operations lower a balance or raise an allowance;
  none raises an allowance over oneself (`Takes.allowance_self_le`).
* `Takes.supply_rise`, `Takes.supply_fall`, `Takes.badge_change`: which operations touch
  the supply and the badges, and what they require.
* `Takes.keeps_admin`: an Admin is never the last one to go.
-/

namespace Cep18

open Checked

variable {A : Type} [LinearOrder A] {T T' : Token A} {op : Op A}

namespace Token

/-- An operation that lowers a balance is a transfer or a burn by its owner, or a transfer by
a spender whose allowance goes down by as much. -/
theorem Takes.debit (h : T.Takes op T') {a : A} (hlt : T'.balances a < T.balances a) :
    (∃ recipient n, op = .transfer a recipient n) ∨ (∃ n, op = .burn a a n) ∨
      ∃ spender recipient n, op = .transferFrom spender a recipient n ∧
        T'.balances a + n.toNat = T.balances a ∧
        T'.allowances a spender + n.toNat = T.allowances a spender := by
  cases h with
  | @transfer sender recipient n hne hbalance hmax =>
    left
    refine ⟨recipient, n, ?_⟩
    simp only [record_toLedger, withLedger_toLedger, Ledger.move_balances hne] at hlt
    -- the recipient gains, and a third party keeps what it has
    split_ifs at hlt with h1 h2
    · subst h1; omega
    · rw [h2]
    · omega
  | @transferFrom spender owner recipient n hne hpos hallowance hbalance hmax =>
    right; right
    simp only [record_toLedger, withLedger_toLedger, Ledger.setAllowance_balances,
      Ledger.move_balances hne] at hlt
    split_ifs at hlt with h1 h2
    · subst h1; omega
    · subst h2
      refine ⟨spender, recipient, n, rfl, ?_, ?_⟩
      · simp only [record_toLedger, withLedger_toLedger, Ledger.setAllowance_balances,
          Ledger.move_balances hne, if_neg h1, if_true]
        omega
      · simp only [record_toLedger, withLedger_toLedger, Ledger.setAllowance_allowances, and_self,
          if_true]
        omega
    · omega
  | @mint caller owner n hflag hbadge hbalance hsupply =>
    simp only [record_toLedger, withLedger_toLedger, Ledger.issue_balances] at hlt
    split_ifs at hlt with h1
    · subst h1; omega
    · omega
  | @burn owner n hflag hbalance hsupply =>
    right; left
    simp only [record_toLedger, withLedger_toLedger, Ledger.retire_balances] at hlt
    split_ifs at hlt with h1
    · exact ⟨n, by rw [h1]⟩
    · omega
  | _ => exact absurd hlt (lt_irrefl _)

/-- An operation that raises an allowance is one of the owner's. -/
theorem Takes.raise (h : T.Takes op T') {o s : A} (hlt : T.allowances o s < T'.allowances o s) :
    ∃ n, op = .approve o s n ∨ op = .increaseAllowance o s n := by
  cases h with
  | @approve owner spender n hne =>
    simp only [record_toLedger, withLedger_toLedger, Ledger.setAllowance_allowances] at hlt
    split_ifs at hlt with h1
    · exact ⟨n, Or.inl (by rw [h1.1, h1.2])⟩
    · omega
  | @increaseAllowance owner spender n hne =>
    simp only [record_toLedger, withLedger_toLedger, Ledger.setAllowance_allowances] at hlt
    split_ifs at hlt with h1
    · exact ⟨n, Or.inr (by rw [h1.1, h1.2])⟩
    · omega
  | @decreaseAllowance owner spender n hne =>
    -- this one and the next only ever lower an allowance
    simp only [record_toLedger, withLedger_toLedger, Ledger.setAllowance_allowances] at hlt
    split_ifs at hlt with h1
    · rw [h1.1, h1.2] at hlt; omega
    · omega
  | @transferFrom spender owner recipient n hne hpos hallowance hbalance hmax =>
    simp only [record_toLedger, withLedger_toLedger, Ledger.setAllowance_allowances] at hlt
    split_ifs at hlt with h1
    · rw [h1.1, h1.2] at hlt; omega
    · simp at hlt
  | _ => exact absurd hlt (lt_irrefl _)

/-- No operation raises what anybody may take from themselves. -/
theorem Takes.allowance_self_le (h : T.Takes op T') (a : A) :
    T'.allowances a a ≤ T.allowances a a := by
  by_contra hlt
  -- it would be a grant by the owner to itself
  obtain ⟨n, rfl | rfl⟩ := h.raise (Nat.lt_of_not_le hlt)
  · cases h with
    | approve hne => exact hne rfl
  · cases h with
    | increaseAllowance hne => exact hne rfl

theorem Takes.supply_rise (h : T.Takes op T') (hlt : T.totalSupply < T'.totalSupply) :
    ∃ caller owner n, op = .mint caller owner n ∧ T.enableMintBurn ≠ 0 ∧
      (T.badges caller = some .Admin ∨ T.badges caller = some .Minter) := by
  cases h with
  | mint hflag hbadge hbalance hsupply => exact ⟨_, _, _, rfl, hflag, hbadge⟩
  | burn hflag hbalance hsupply =>
    simp only [record_toLedger, withLedger_toLedger, Ledger.retire_totalSupply] at hlt
    omega
  | _ => exact absurd hlt (lt_irrefl _)

theorem Takes.supply_fall (h : T.Takes op T') (hlt : T'.totalSupply < T.totalSupply) :
    ∃ caller n, op = .burn caller caller n ∧ T.enableMintBurn ≠ 0 := by
  cases h with
  | mint hflag hbadge hbalance hsupply => simp at hlt
  | burn hflag hbalance hsupply => exact ⟨_, _, rfl, hflag⟩
  | _ => exact absurd hlt (lt_irrefl _)

theorem Takes.badge_change (h : T.Takes op T') (hne : T'.badges ≠ T.badges) :
    ∃ caller admins minters nones, op = .changeSecurity caller admins minters nones ∧
      T.enableMintBurn ≠ 0 ∧ T.badges caller = some .Admin := by
  cases h with
  | changeSecurity hflag hbadge => exact ⟨_, _, _, _, rfl, hflag, hbadge⟩
  | _ => exact absurd rfl hne

/-- A `change_security` asks for no change to the caller's own badge. -/
theorem secChangeMap_caller (caller : A) (admins minters nones : Option (List A)) :
    (secChangeMap caller admins minters nones).get caller = none :=
  BTreeMap.get_remove_self _ _

/-- **The caller of `change_security` keeps its badge.** -/
theorem setBadges_caller (caller : A) (admins minters nones : Option (List A)) :
    (T.setBadges (secChangeMap caller admins minters nones)).badges caller = T.badges caller := by
  rw [setBadges_badges, secChangeMap_caller]; rfl

/-- **An Admin remains.** -/
theorem Takes.keeps_admin (h : T.Takes op T') (ha : ∃ a, T.badges a = some .Admin) :
    ∃ a, T'.badges a = some .Admin := by
  cases h with
  | @changeSecurity caller admins minters nones hflag hbadge =>
    exact ⟨caller, (setBadges_caller caller admins minters nones).trans hbadge⟩
  | _ => exact ha

theorem exec_keeps_admin (o : Option (Op A)) (ha : ∃ a, T.badges a = some .Admin) :
    ∃ a, (T.exec o).badges a = some .Admin := by
  rcases T.exec_cases o with ⟨he, -⟩ | ⟨op, -, -, ht⟩
  · rw [he]; exact ha
  · exact ht.keeps_admin ha

end Token

end Cep18
