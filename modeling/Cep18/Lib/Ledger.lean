import Cep18.Lib.Total

/-!
# Ledgers

A ledger over any type of accounts: balances, allowances and a total supply, all exact
natural numbers. Its operations move, issue and retire amounts and set allowances,
with no check of their own.

A ledger is *backed* when its balances sum to its total supply. Each operation keeps
it backed where it takes no more than there is (`Backed.move`, `Backed.issue`,
`Backed.retire`), and on a backed ledger no credit of an existing amount can exceed
the supply (`Backed.add_le`).

Two ledgers *agree on* a set of accounts when they hold the same for them and have the same
supply. An operation on accounts of the set keeps two ledgers in agreement (`AgreeOn.move`,
`AgreeOn.issue`, `AgreeOn.retire`, `AgreeOn.setAllowance`).
-/

/-- Balances, allowances and a total supply. -/
structure Ledger (A : Type) where
  balances : A → ℕ
  allowances : A → A → ℕ
  totalSupply : ℕ

namespace Ledger

open Total Function

variable {A : Type} [DecidableEq A] {L : Ledger A}

/-- Nothing anywhere. -/
def empty : Ledger A := ⟨fun _ => 0, fun _ _ => 0, 0⟩

/-- Take `n` from an account, if it has that much. -/
def debit (L : Ledger A) (owner : A) (n : ℕ) : Option (Ledger A) :=
  if n ≤ L.balances owner then
    some { L with balances := update L.balances owner (L.balances owner - n) }
  else none

/-- Give `n` to an account. -/
def credit (L : Ledger A) (recipient : A) (n : ℕ) : Ledger A :=
  { L with balances := update L.balances recipient (L.balances recipient + n) }

/-- Move `n` from one account to another. -/
def move (L : Ledger A) (sender recipient : A) (n : ℕ) : Ledger A :=
  { L with
    balances := update (update L.balances sender (L.balances sender - n)) recipient
      (L.balances recipient + n) }

/-- Issue `n` to an account. -/
def issue (L : Ledger A) (recipient : A) (n : ℕ) : Ledger A :=
  { L with
    balances := update L.balances recipient (L.balances recipient + n)
    totalSupply := L.totalSupply + n }

/-- Retire `n` from an account. -/
def retire (L : Ledger A) (owner : A) (n : ℕ) : Ledger A :=
  { L with
    balances := update L.balances owner (L.balances owner - n)
    totalSupply := L.totalSupply - n }

/-- Set what a spender may take from an owner. -/
def setAllowance (L : Ledger A) (owner spender : A) (n : ℕ) : Ledger A :=
  { L with allowances := update L.allowances owner (update (L.allowances owner) spender n) }

@[simp] theorem move_allowances (a b : A) (n : ℕ) : (L.move a b n).allowances = L.allowances := rfl
@[simp] theorem move_totalSupply (a b : A) (n : ℕ) : (L.move a b n).totalSupply = L.totalSupply := rfl
@[simp] theorem issue_allowances (a : A) (n : ℕ) : (L.issue a n).allowances = L.allowances := rfl
@[simp] theorem issue_totalSupply (a : A) (n : ℕ) : (L.issue a n).totalSupply = L.totalSupply + n := rfl
@[simp] theorem retire_allowances (a : A) (n : ℕ) : (L.retire a n).allowances = L.allowances := rfl
@[simp] theorem retire_totalSupply (a : A) (n : ℕ) : (L.retire a n).totalSupply = L.totalSupply - n := rfl
@[simp] theorem setAllowance_balances (o s : A) (n : ℕ) : (L.setAllowance o s n).balances = L.balances := rfl
@[simp] theorem setAllowance_totalSupply (o s : A) (n : ℕ) :
    (L.setAllowance o s n).totalSupply = L.totalSupply := rfl

theorem setAllowance_allowances (o s o' s' : A) (n : ℕ) :
    (L.setAllowance o s n).allowances o' s' = if o' = o ∧ s' = s then n else L.allowances o' s' := by
  by_cases ho : o' = o
  · subst ho
    by_cases hs : s' = s
    · subst hs; simp [setAllowance]
    · simp [setAllowance, hs]
  · simp [setAllowance, ho]

theorem setAllowance_self (o s : A) (n : ℕ) : (L.setAllowance o s n).allowances o s = n := by
  rw [setAllowance_allowances, if_pos ⟨rfl, rfl⟩]

/-- The balances after a move between two different accounts. -/
theorem move_balances {a b : A} (hab : a ≠ b) (n : ℕ) (x : A) :
    (L.move a b n).balances x =
      if x = b then L.balances b + n else if x = a then L.balances a - n else L.balances x := by
  by_cases hb : x = b
  · subst hb; simp [move]
  · by_cases ha : x = a
    · subst ha; simp [move, hab]
    · simp [move, ha, hb]

/-- Between two different accounts, a move is a debit and a credit. -/
theorem debit_credit {a b : A} (hab : a ≠ b) {n : ℕ} (hn : n ≤ L.balances a) :
    (L.debit a n).map (·.credit b n) = some (L.move a b n) := by
  simp only [debit, if_pos hn, Option.map_some, credit, move, update_of_ne hab.symm]

/-- Two moves between the same accounts are one. -/
theorem move_move {a b : A} (hab : a ≠ b) (m n : ℕ) :
    (L.move a b m).move a b n = L.move a b (m + n) := by
  have hbalances : ((L.move a b m).move a b n).balances = (L.move a b (m + n)).balances := by
    funext x
    simp only [move_balances hab, if_neg hab]
    split_ifs <;> omega
  exact congrArg (fun balances => Ledger.mk balances L.allowances L.totalSupply) hbalances

theorem move_zero (a b : A) : L.move a b 0 = L := by simp [move]

theorem issue_balances (a : A) (n : ℕ) (x : A) :
    (L.issue a n).balances x = if x = a then L.balances a + n else L.balances x := by
  by_cases ha : x = a
  · subst ha; simp [issue]
  · simp [issue, ha]

theorem retire_balances (a : A) (n : ℕ) (x : A) :
    (L.retire a n).balances x = if x = a then L.balances a - n else L.balances x := by
  by_cases ha : x = a
  · subst ha; simp [retire]
  · simp [retire, ha]

/-- **Backed**: the balances sum to the total supply. -/
def Backed (L : Ledger A) : Prop := SumsTo L.balances L.totalSupply

omit [DecidableEq A] in
theorem Backed.le (h : L.Backed) (a : A) : L.balances a ≤ L.totalSupply := SumsTo.le h a

/-- On a backed ledger, an amount one account holds can be added to another's balance
without exceeding the supply. -/
theorem Backed.add_le (h : L.Backed) {a b : A} (hab : a ≠ b) {n : ℕ} (hn : n ≤ L.balances a) :
    L.balances b + n ≤ L.totalSupply := by
  have := SumsTo.add_le h hab
  omega

theorem Backed.move (h : L.Backed) {a b : A} (hab : a ≠ b) {n : ℕ} (hn : n ≤ L.balances a) :
    (L.move a b n).Backed := SumsTo.move h hab hn

theorem Backed.issue (h : L.Backed) (a : A) (n : ℕ) : (L.issue a n).Backed := by
  refine SumsTo.update h ?_
  have := h.le a
  simp only [issue_totalSupply]; omega

theorem Backed.retire (h : L.Backed) {a : A} {n : ℕ} (hn : n ≤ L.balances a) :
    (L.retire a n).Backed := by
  refine SumsTo.update h ?_
  have := h.le a
  simp only [retire_totalSupply]; omega

theorem Backed.setAllowance (h : L.Backed) (o s : A) (n : ℕ) : (L.setAllowance o s n).Backed := h

/-! ### Agreement on some of the accounts -/

/-- **The same for the accounts in `K`**: balances, allowances between them, and the supply. -/
structure AgreeOn (K : Set A) (L L' : Ledger A) : Prop where
  balances : ∀ a ∈ K, L.balances a = L'.balances a
  allowances : ∀ o ∈ K, ∀ s ∈ K, L.allowances o s = L'.allowances o s
  totalSupply : L.totalSupply = L'.totalSupply

variable {K : Set A} {L' : Ledger A}

theorem AgreeOn.move (h : AgreeOn K L L') {a b : A} (ha : a ∈ K) (hb : b ∈ K) (n : ℕ) :
    AgreeOn K (L.move a b n) (L'.move a b n) := by
  refine ⟨fun x hx => ?_, h.allowances, h.totalSupply⟩
  simp only [Ledger.move, update_apply, h.balances a ha, h.balances b hb, h.balances x hx]

theorem AgreeOn.issue (h : AgreeOn K L L') {a : A} (ha : a ∈ K) (n : ℕ) :
    AgreeOn K (L.issue a n) (L'.issue a n) := by
  refine ⟨fun x hx => ?_, h.allowances, ?_⟩
  · simp only [issue_balances, h.balances a ha, h.balances x hx]
  · simp only [issue_totalSupply, h.totalSupply]

theorem AgreeOn.retire (h : AgreeOn K L L') {a : A} (ha : a ∈ K) (n : ℕ) :
    AgreeOn K (L.retire a n) (L'.retire a n) := by
  refine ⟨fun x hx => ?_, h.allowances, ?_⟩
  · simp only [retire_balances, h.balances a ha, h.balances x hx]
  · simp only [retire_totalSupply, h.totalSupply]

theorem AgreeOn.setAllowance (h : AgreeOn K L L') (o s : A) (n : ℕ) :
    AgreeOn K (L.setAllowance o s n) (L'.setAllowance o s n) := by
  refine ⟨h.balances, fun o' ho' s' hs' => ?_, h.totalSupply⟩
  simp only [setAllowance_allowances, h.allowances o' ho' s' hs']

end Ledger
