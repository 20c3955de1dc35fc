import Cep18.Spec.Token

/-!
# What one operation does

`Token.Takes T op T'`: what operation `op` does to the token `T` when it is not refused,
with every check it passed. `step_takes` is the only place where `Token.step` is taken
apart; the invariants split on its ten cases.

* `Sound`: the balances sum to the total supply, which fits in a word. Every operation
  keeps it (`Sound.exec`).
* `Sound.transferFrom_error_iff`, `Sound.transferFrom_ok_iff`: when a sound token refuses a
  `transfer_from`, and when it carries it out.
* `Takes.same_settings`: metadata and modalities never change.
-/

namespace Cep18

open Checked Total

variable {A : Type} [LinearOrder A] {T T' : Token A}

namespace Token

@[simp] theorem withLedger_toLedger (L : Ledger A) : (T.withLedger L).toLedger = L := rfl
@[simp] theorem withLedger_badges (L : Ledger A) : (T.withLedger L).badges = T.badges := rfl
@[simp] theorem withLedger_log (L : Ledger A) : (T.withLedger L).log = T.log := rfl
@[simp] theorem withLedger_eventsMode (L : Ledger A) :
    (T.withLedger L).eventsMode = T.eventsMode := rfl
@[simp] theorem withLedger_enableMintBurn (L : Ledger A) :
    (T.withLedger L).enableMintBurn = T.enableMintBurn := rfl
@[simp] theorem record_toLedger (e : Event A) : (T.record e).toLedger = T.toLedger := rfl
@[simp] theorem record_badges (e : Event A) : (T.record e).badges = T.badges := rfl
@[simp] theorem record_eventsMode (e : Event A) : (T.record e).eventsMode = T.eventsMode := rfl
@[simp] theorem record_enableMintBurn (e : Event A) :
    (T.record e).enableMintBurn = T.enableMintBurn := rfl
@[simp] theorem setBadges_toLedger (m : BTreeMap A SecurityBadge) :
    (T.setBadges m).toLedger = T.toLedger := rfl
@[simp] theorem setBadges_log (m : BTreeMap A SecurityBadge) : (T.setBadges m).log = T.log := rfl
@[simp] theorem setBadges_eventsMode (m : BTreeMap A SecurityBadge) :
    (T.setBadges m).eventsMode = T.eventsMode := rfl
@[simp] theorem setBadges_enableMintBurn (m : BTreeMap A SecurityBadge) :
    (T.setBadges m).enableMintBurn = T.enableMintBurn := rfl

theorem setBadges_badges (m : BTreeMap A SecurityBadge) (a : A) :
    (T.setBadges m).badges a = (m.get a).or (T.badges a) := rfl

/-- In CES mode, recording appends the event. -/
theorem record_log (hm : T.eventsMode = .CES) (e : Event A) : (T.record e).log = T.log ++ [e] := by
  simp [record, hm]

/-- What an operation does to a token when it is not refused. -/
inductive Takes (T : Token A) : Op A → Token A → Prop
  | query : Takes T .query T
  | approve {owner spender : A} {amount : U256} (hne : spender ≠ owner) :
    Takes T (.approve owner spender amount)
      ((T.withLedger (T.setAllowance owner spender amount.toNat)).record
        (.SetAllowance owner spender amount))
  | decreaseAllowance {owner spender : A} {amount : U256} (hne : spender ≠ owner) :
    Takes T (.decreaseAllowance owner spender amount)
      ((T.withLedger (T.setAllowance owner spender
          (T.allowances owner spender - amount.toNat))).record
        (.DecreaseAllowance owner spender
          (BitVec.ofNat 256 (T.allowances owner spender - amount.toNat)) amount))
  | increaseAllowance {owner spender : A} {amount : U256} (hne : spender ≠ owner) :
    Takes T (.increaseAllowance owner spender amount)
      ((T.withLedger (T.setAllowance owner spender
          (min (T.allowances owner spender + amount.toNat) U256.MAX))).record
        (.IncreaseAllowance owner spender
          (BitVec.ofNat 256 (min (T.allowances owner spender + amount.toNat) U256.MAX)) amount))
  | transfer {sender recipient : A} {amount : U256} (hne : sender ≠ recipient)
      (hbalance : amount.toNat ≤ T.balances sender)
      (hmax : T.balances recipient + amount.toNat ≤ U256.MAX) :
    Takes T (.transfer sender recipient amount)
      ((T.withLedger (T.move sender recipient amount.toNat)).record
        (.Transfer sender recipient amount))
  | transferNothing {spender owner recipient : A} (hne : owner ≠ recipient) :
    Takes T (.transferFrom spender owner recipient 0) T
  | transferFrom {spender owner recipient : A} {amount : U256} (hne : owner ≠ recipient)
      (hpos : amount ≠ 0) (hallowance : amount.toNat ≤ T.allowances owner spender)
      (hbalance : amount.toNat ≤ T.balances owner)
      (hmax : T.balances recipient + amount.toNat ≤ U256.MAX) :
    Takes T (.transferFrom spender owner recipient amount)
      ((T.withLedger ((T.move owner recipient amount.toNat).setAllowance owner spender
          (T.allowances owner spender - amount.toNat))).record
        (.TransferFrom spender owner recipient amount))
  | mint {caller owner : A} {amount : U256} (hflag : T.enableMintBurn ≠ 0)
      (hbadge : T.badges caller = some .Admin ∨ T.badges caller = some .Minter)
      (hbalance : T.balances owner + amount.toNat ≤ U256.MAX)
      (hsupply : T.totalSupply + amount.toNat ≤ U256.MAX) :
    Takes T (.mint caller owner amount)
      ((T.withLedger (T.issue owner amount.toNat)).record (.Mint owner amount))
  | burn {owner : A} {amount : U256} (hflag : T.enableMintBurn ≠ 0)
      (hbalance : amount.toNat ≤ T.balances owner) (hsupply : amount.toNat ≤ T.totalSupply) :
    Takes T (.burn owner owner amount)
      ((T.withLedger (T.retire owner amount.toNat)).record (.Burn owner amount))
  | changeSecurity {caller : A} {adminList minterList noneList : Option (List A)}
      (hflag : T.enableMintBurn ≠ 0) (hbadge : T.badges caller = some .Admin) :
    Takes T (.changeSecurity caller adminList minterList noneList)
      ((T.setBadges (secChangeMap caller adminList minterList noneList)).record
        (.ChangeSecurity caller (secChangeMap caller adminList minterList noneList)))

/-- **What an operation that is not refused does**, case by case. -/
theorem step_takes {op : Op A} (h : T.step op = .ok T') : T.Takes op T' := by
  -- of the branches of `step`, those that refuse contradict `h`
  cases op with
  | query => cases h; exact .query
  | init => cases h
  | approve owner spender amount =>
    simp only [step] at h
    split_ifs at h with hne
    cases h; exact .approve hne
  | decreaseAllowance owner spender amount =>
    simp only [step] at h
    split_ifs at h with hne
    cases h; exact .decreaseAllowance hne
  | increaseAllowance owner spender amount =>
    simp only [step] at h
    split_ifs at h with hne
    cases h; exact .increaseAllowance hne
  | transfer sender recipient amount =>
    simp only [step] at h
    split_ifs at h with hne hbal hmax
    cases h; exact .transfer hne (by omega) (by omega)
  | transferFrom spender owner recipient amount =>
    simp only [step] at h
    split_ifs at h with hne h0 hall hbal hmax
    · subst h0; cases h; exact .transferNothing hne
    · cases h; exact .transferFrom hne h0 (by omega) (by omega) (by omega)
  | mint caller owner amount =>
    simp only [step] at h
    split_ifs at h with hflag hbadge hbal hsup
    have hbadge' : T.badges caller = some .Admin ∨ T.badges caller = some .Minter := by tauto
    cases h; exact .mint hflag hbadge' (by omega) (by omega)
  | burn caller owner amount =>
    simp only [step] at h
    split_ifs at h with hflag hne hbal hsup
    obtain rfl : owner = caller := not_not.1 hne
    cases h; exact .burn hflag (by omega) (by omega)
  | changeSecurity caller adminList minterList noneList =>
    simp only [step] at h
    split_ifs at h with hflag hbadge
    cases h; exact .changeSecurity hflag (not_not.1 hbadge)

/-- A call that comes down to no operation, or is refused, changes nothing; any other does
what its operation does. -/
theorem exec_cases (T : Token A) (o : Option (Op A)) :
    T.exec o = T ∧ (∀ op, o = some op → ∃ e, T.step op = .error e) ∨
      ∃ op, o = some op ∧ T.step op = .ok (T.exec o) ∧ T.Takes op (T.exec o) := by
  cases o with
  | none =>
    left
    exact ⟨rfl, fun op h => by cases h⟩
  | some op =>
    cases hs : T.step op with
    | ok T' =>
      right
      have he : T.exec (some op) = T' := by simp only [exec, hs]
      rw [he]
      exact ⟨op, rfl, hs, step_takes hs⟩
    | error e =>
      left
      have he : T.exec (some op) = T := by simp only [exec, hs]
      refine ⟨he, fun op' h => ?_⟩
      cases h
      exact ⟨e, hs⟩

/-! ### Invariants -/

/-- Metadata and modalities are fixed. -/
theorem Takes.same_settings {op : Op A} (h : T.Takes op T') :
    T'.name = T.name ∧ T'.symbol = T.symbol ∧ T'.decimals = T.decimals ∧
      T'.enableMintBurn = T.enableMintBurn ∧ T'.eventsMode = T.eventsMode := by
  cases h <;> exact ⟨rfl, rfl, rfl, rfl, rfl⟩

theorem Takes.enableMintBurn {op : Op A} (h : T.Takes op T') :
    T'.enableMintBurn = T.enableMintBurn := h.same_settings.2.2.2.1

theorem Takes.eventsMode {op : Op A} (h : T.Takes op T') : T'.eventsMode = T.eventsMode :=
  h.same_settings.2.2.2.2

/-- The balances sum to the total supply; it fits in a word, and so do the allowances. -/
structure Sound (T : Token A) : Prop where
  backed : T.Backed
  supply_le : T.totalSupply ≤ U256.MAX
  allowance_le : ∀ o s, T.allowances o s ≤ U256.MAX

/-- Setting an allowance to a word keeps the token sound. -/
theorem Sound.setAllowance (h : T.Sound) {L : Ledger A} (hb : L.Backed)
    (hs : L.totalSupply = T.totalSupply) (ha : L.allowances = T.allowances) (o s : A) {n : ℕ}
    (hn : n ≤ U256.MAX) (e : Event A) :
    ((T.withLedger (L.setAllowance o s n)).record e).Sound := by
  refine ⟨hb.setAllowance o s n, hs.trans_le h.supply_le, ?_⟩
  intro o' s'
  simp only [record_toLedger, withLedger_toLedger, Ledger.setAllowance_allowances, ha]
  split_ifs
  · exact hn
  · exact h.allowance_le o' s'

/-- **Every operation keeps the token sound.** -/
theorem Sound.takes (h : T.Sound) {op : Op A} (ht : T.Takes op T') : T'.Sound := by
  have ha := h.allowance_le
  have hlower : ∀ o s n, T.allowances o s - n ≤ U256.MAX := by
    intro o s n
    have := ha o s
    omega
  cases ht with
  | query => exact h
  | @approve owner spender amount hne =>
    have hle : amount.toNat ≤ U256.MAX := toNat_le_maxWord amount
    exact h.setAllowance h.backed rfl rfl owner spender hle _
  | @decreaseAllowance owner spender amount hne =>
    exact h.setAllowance h.backed rfl rfl owner spender (hlower _ _ _) _
  | @increaseAllowance owner spender amount hne =>
    exact h.setAllowance h.backed rfl rfl owner spender (Nat.min_le_right _ _) _
  | transfer hne hbalance hmax =>
    have hb := h.backed.move hne hbalance
    exact ⟨hb, h.supply_le, ha⟩
  | transferNothing hne => exact h
  | @transferFrom spender owner recipient amount hne hpos hallowance hbalance hmax =>
    have hb := h.backed.move hne hbalance
    exact h.setAllowance hb rfl rfl owner spender (hlower _ _ _) _
  | @mint caller owner amount hflag hbadge hbalance hsupply =>
    have hb := h.backed.issue owner amount.toNat
    exact ⟨hb, hsupply, ha⟩
  | @burn owner amount hflag hbalance hsupply =>
    have hb := h.backed.retire hbalance
    have hs : T.totalSupply - amount.toNat ≤ U256.MAX := by
      have := h.supply_le
      omega
    exact ⟨hb, hs, ha⟩
  | changeSecurity hflag hbadge => exact ⟨h.backed, h.supply_le, ha⟩

/-- In a sound token, what one account holds fits on top of what another holds. -/
theorem Sound.fits (h : T.Sound) {a b : A} (hab : a ≠ b) {n : ℕ} (hn : n ≤ T.balances a) :
    T.balances b + n ≤ U256.MAX :=
  (h.backed.add_le hab hn).trans h.supply_le

/-- **A sound token's `transfer_from`**: its checks in their order, none of them for an
overflow. -/
theorem Sound.step_transferFrom (h : T.Sound) (spender owner recipient : A) (amount : U256) :
    T.step (.transferFrom spender owner recipient amount) =
      if owner = recipient then .error .CannotTargetSelfUser
      else if amount = 0 then .ok T
      else if T.allowances owner spender < amount.toNat then .error .InsufficientAllowance
      else if T.balances owner < amount.toNat then .error .InsufficientBalance
      else .ok ((T.withLedger ((T.move owner recipient amount.toNat).setAllowance owner spender
          (T.allowances owner spender - amount.toNat))).record
        (.TransferFrom spender owner recipient amount)) := by
  simp only [step]
  split_ifs with hne h0 hall hbal hmax
  all_goals try rfl
  -- the recipient's new balance is part of the supply
  have := h.fits hne (Nat.le_of_not_lt hbal)
  omega

/-- **When a sound token refuses a `transfer_from`**, and with which error. -/
theorem Sound.transferFrom_error_iff (h : T.Sound) (spender owner recipient : A) (amount : U256)
    (e : Cep18Error) :
    T.step (.transferFrom spender owner recipient amount) = .error e ↔
      (e = .CannotTargetSelfUser ∧ owner = recipient) ∨
      (e = .InsufficientAllowance ∧ owner ≠ recipient ∧ amount ≠ 0 ∧
        T.allowances owner spender < amount.toNat) ∨
      (e = .InsufficientBalance ∧ owner ≠ recipient ∧ amount ≠ 0 ∧
        amount.toNat ≤ T.allowances owner spender ∧ T.balances owner < amount.toNat) := by
  rw [h.step_transferFrom]
  constructor
  · intro hs
    split_ifs at hs with hne h0 hall hbal
    · cases hs; exact Or.inl ⟨rfl, hne⟩
    · cases hs; exact Or.inr (Or.inl ⟨rfl, hne, h0, hall⟩)
    · cases hs; exact Or.inr (Or.inr ⟨rfl, hne, h0, Nat.le_of_not_lt hall, hbal⟩)
  · rintro (⟨rfl, hne⟩ | ⟨rfl, hne, h0, hall⟩ | ⟨rfl, hne, h0, hall, hbal⟩)
    · rw [if_pos hne]
    · rw [if_neg hne, if_neg h0, if_pos hall]
    · rw [if_neg hne, if_neg h0, if_neg (Nat.not_lt.2 hall), if_pos hbal]

/-- **When a sound token carries out a `transfer_from`.** -/
theorem Sound.transferFrom_ok_iff (h : T.Sound) (spender owner recipient : A) (amount : U256) :
    (∃ T', T.step (.transferFrom spender owner recipient amount) = .ok T') ↔
      owner ≠ recipient ∧ (amount = 0 ∨
        amount.toNat ≤ T.allowances owner spender ∧ amount.toNat ≤ T.balances owner) := by
  rw [h.step_transferFrom]
  constructor
  · rintro ⟨T', hs⟩
    split_ifs at hs with hne h0 hall hbal
    · exact ⟨hne, Or.inl h0⟩
    · exact ⟨hne, Or.inr ⟨Nat.le_of_not_lt hall, Nat.le_of_not_lt hbal⟩⟩
  · rintro ⟨hne, h0 | ⟨hall, hbal⟩⟩
    · exact ⟨T, by rw [if_neg hne, if_pos h0]⟩
    · rw [if_neg hne, if_neg (Nat.not_lt.2 hall), if_neg (Nat.not_lt.2 hbal)]
      split_ifs <;> exact ⟨_, rfl⟩

/-- **A sound token never refuses a transfer or a burn for an overflow.** -/
theorem Sound.no_overflow (h : T.Sound) :
    (∀ sender recipient amount, T.step (.transfer sender recipient amount) ≠ .error .Overflow) ∧
      (∀ spender owner recipient amount,
        T.step (.transferFrom spender owner recipient amount) ≠ .error .Overflow) ∧
      ∀ caller owner amount, T.step (.burn caller owner amount) ≠ .error .Overflow := by
  refine ⟨?_, ?_, ?_⟩
  · intro sender recipient amount hstep
    simp only [step] at hstep
    split_ifs at hstep with hne hbal hmax
    · cases hstep
    · cases hstep
    · -- the recipient's new balance is part of the supply
      have := h.fits hne (Nat.le_of_not_lt hbal)
      omega
  · intro spender owner recipient amount hstep
    rcases (h.transferFrom_error_iff spender owner recipient amount .Overflow).1 hstep with
      ⟨he, -⟩ | ⟨he, -⟩ | ⟨he, -⟩ <;> cases he
  · intro caller owner amount hstep
    simp only [step] at hstep
    split_ifs at hstep with hflag hne hbal hsupply
    · cases hstep
    · cases hstep
    · cases hstep
    · have := h.backed.le owner
      omega

/-- **A sound token refuses a mint for an overflow** exactly if the supply would not fit: the
recipient's balance is part of it. -/
theorem Sound.mint_overflows_iff (h : T.Sound) {caller : A} (owner : A) (amount : U256)
    (hflag : T.enableMintBurn ≠ 0)
    (hbadge : T.badges caller = some .Admin ∨ T.badges caller = some .Minter) :
    (T.step (.mint caller owner amount) = .error .Overflow ↔
        U256.MAX < T.totalSupply + amount.toNat) ∧
      (T.totalSupply + amount.toNat ≤ U256.MAX → T.step (.mint caller owner amount) =
        .ok ((T.withLedger (T.issue owner amount.toNat)).record (.Mint owner amount))) := by
  have hle := h.backed.le owner
  have hb : ¬ (T.badges caller ≠ some .Admin ∧ T.badges caller ≠ some .Minter) := by tauto
  simp only [step, if_neg hflag, if_neg hb]
  constructor
  · split_ifs with hbal hsupply
    · simp; omega
    · simp; omega
    · simp; omega
  · intro hfit
    rw [if_neg (by omega), if_neg (by omega)]

theorem Sound.exec (h : T.Sound) (o : Option (Op A)) : (T.exec o).Sound := by
  rcases T.exec_cases o with ⟨he, -⟩ | ⟨op, -, -, ht⟩
  · rw [he]; exact h
  · exact h.takes ht

end Token

/-- A token as installed is sound. -/
theorem Config.sound (c : Config A) : c.token.Sound := by
  refine ⟨?_, toNat_le_maxWord c.totalSupply, fun _ _ => Nat.zero_le _⟩
  -- the installer holds all there is
  show SumsTo (Function.update (fun _ => 0) c.installer c.totalSupply.toNat) c.totalSupply.toNat
  exact sumsTo_zero.update (by simp)

end Cep18
