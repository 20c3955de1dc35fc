import Cep18.Spec.Replay

/-!
# Two observers of allowances

Events on allowances carry a new value and the amount asked for. An observer can follow
either, in exact integers: `Event.byDelta` adds and subtracts what was asked for,
`Event.byValue` writes down the new value. Both subtract what a `TransferFrom` takes.

* `Op.drift`: how far the first observer is ahead of the second after an operation. What
  saturation cuts off is added to it, and an approval sets it to zero.
* `Token.Observed.takes`: every operation keeps the second observer right, and moves the
  first one by the drift.
-/

namespace Cep18

open Checked

variable {A : Type} [LinearOrder A]

/-- A table of allowances with one entry changed. -/
def putEntry (t : A → A → ℤ) (owner spender : A) (n : ℤ) : A → A → ℤ :=
  Function.update t owner (Function.update (t owner) spender n)

theorem putEntry_apply (t : A → A → ℤ) (o s o' s' : A) (n : ℤ) :
    putEntry t o s n o' s' = if o' = o ∧ s' = s then n else t o' s' := by
  unfold putEntry
  by_cases ho : o' = o
  · subst ho
    by_cases hs : s' = s
    · subst hs; simp
    · simp [hs]
  · simp [ho]

/-- Follow an event by what it says was asked for. -/
def Event.byDelta (t : A → A → ℤ) : Event A → A → A → ℤ
  | .SetAllowance owner spender allowance => putEntry t owner spender allowance.toNat
  | .IncreaseAllowance owner spender _ incBy =>
    putEntry t owner spender (t owner spender + incBy.toNat)
  | .DecreaseAllowance owner spender _ decrBy =>
    putEntry t owner spender (t owner spender - decrBy.toNat)
  | .TransferFrom spender owner _ amount =>
    putEntry t owner spender (t owner spender - amount.toNat)
  | _ => t

/-- Follow an event by the new value it says there is. -/
def Event.byValue (t : A → A → ℤ) : Event A → A → A → ℤ
  | .SetAllowance owner spender allowance => putEntry t owner spender allowance.toNat
  | .IncreaseAllowance owner spender allowance _ => putEntry t owner spender allowance.toNat
  | .DecreaseAllowance owner spender allowance _ => putEntry t owner spender allowance.toNat
  | .TransferFrom spender owner _ amount =>
    putEntry t owner spender (t owner spender - amount.toNat)
  | _ => t

/-- The table an observer holds after a log, having started from an empty one. -/
def observed (follow : (A → A → ℤ) → Event A → A → A → ℤ) (log : List (Event A)) : A → A → ℤ :=
  log.foldl follow fun _ _ => 0

/-- How far the first observer is ahead of the second on `(o, s)` after an operation, if it was
ahead by `δ` and the allowance was `a`. -/
def Op.drift (o s : A) (a : ℕ) (δ : ℤ) : Op A → ℤ
  | .approve owner spender _ => if o = owner ∧ s = spender then 0 else δ
  | .increaseAllowance owner spender amount =>
    -- what does not fit under the largest word
    if o = owner ∧ s = spender then δ + (a + amount.toNat - U256.MAX : ℕ) else δ
  | .decreaseAllowance owner spender amount =>
    -- what would have gone below zero
    if o = owner ∧ s = spender then δ - (amount.toNat - a : ℕ) else δ
  | _ => δ

namespace Token

variable {T T' : Token A} {op : Op A} {o s : A} {δ : ℤ}

/-- What an operation records takes the second observer from the old allowances to the new. -/
theorem Takes.byValue (h : T.Takes op T') (hs : T.Sound) {t : A → A → ℤ}
    (ht : ∀ o' s', t o' s' = T.allowances o' s') (o' s' : A) :
    (op.event T').toList.foldl Event.byValue t o' s' = T'.allowances o' s' := by
  cases h with
  | @approve owner spender amount hne =>
    simp only [Op.event, Option.toList_some, List.foldl_cons, List.foldl_nil, Event.byValue,
      putEntry_apply, record_toLedger, withLedger_toLedger, Ledger.setAllowance_allowances]
    split_ifs
    · rfl
    · exact ht o' s'
  | @decreaseAllowance owner spender amount hne =>
    -- the event carries the new allowance as a word, which it fits
    have hle : T.allowances owner spender - amount.toNat ≤ U256.MAX := by
      have := hs.allowance_le owner spender
      omega
    have hword := toNat_ofNat_of_le hle
    simp only [Op.event, Option.toList_some, List.foldl_cons, List.foldl_nil, Event.byValue,
      putEntry_apply, record_toLedger, withLedger_toLedger, Ledger.setAllowance_allowances,
      and_self, if_true, hword]
    split_ifs
    · rfl
    · exact ht o' s'
  | @increaseAllowance owner spender amount hne =>
    have hword := toNat_ofNat_of_le (Nat.min_le_right (T.allowances owner spender + amount.toNat)
      U256.MAX)
    simp only [Op.event, Option.toList_some, List.foldl_cons, List.foldl_nil, Event.byValue,
      putEntry_apply, record_toLedger, withLedger_toLedger, Ledger.setAllowance_allowances,
      and_self, if_true, hword]
    split_ifs
    · rfl
    · exact ht o' s'
  | transferNothing hne =>
    simp only [Op.event, if_true]
    exact ht o' s'
  | @transferFrom spender owner recipient amount hne hpos hallowance hbalance hmax =>
    simp only [Op.event, if_neg hpos, Option.toList_some, List.foldl_cons, List.foldl_nil,
      Event.byValue, putEntry_apply, record_toLedger, withLedger_toLedger,
      Ledger.setAllowance_allowances, Ledger.move_allowances, ht]
    split_ifs
    · omega
    · rfl
  | _ => exact ht o' s'

/-- What an operation records takes the first observer from the old allowance, with what it was
off by, to the new one, with what it is off by now. -/
theorem Takes.byDelta (h : T.Takes op T') {t : A → A → ℤ} (ht : t o s = T.allowances o s + δ) :
    (op.event T').toList.foldl Event.byDelta t o s =
      T'.allowances o s + op.drift o s (T.allowances o s) δ := by
  cases h with
  | @approve owner spender amount hne =>
    simp only [Op.event, Option.toList_some, List.foldl_cons, List.foldl_nil, Event.byDelta,
      putEntry_apply, Op.drift, record_toLedger, withLedger_toLedger,
      Ledger.setAllowance_allowances]
    split_ifs
    · omega
    · exact ht
  | @decreaseAllowance owner spender amount hne =>
    simp only [Op.event, Option.toList_some, List.foldl_cons, List.foldl_nil, Event.byDelta,
      putEntry_apply, Op.drift, record_toLedger, withLedger_toLedger,
      Ledger.setAllowance_allowances]
    split_ifs with hc
    · obtain ⟨rfl, rfl⟩ := hc
      rw [ht]; omega
    · exact ht
  | @increaseAllowance owner spender amount hne =>
    simp only [Op.event, Option.toList_some, List.foldl_cons, List.foldl_nil, Event.byDelta,
      putEntry_apply, Op.drift, record_toLedger, withLedger_toLedger,
      Ledger.setAllowance_allowances]
    split_ifs with hc
    · obtain ⟨rfl, rfl⟩ := hc
      rw [ht]; omega
    · exact ht
  | transferNothing hne =>
    simp only [Op.event, if_true]
    exact ht
  | @transferFrom spender owner recipient amount hne hpos hallowance hbalance hmax =>
    simp only [Op.event, if_neg hpos, Option.toList_some, List.foldl_cons, List.foldl_nil,
      Event.byDelta, putEntry_apply, Op.drift, record_toLedger, withLedger_toLedger,
      Ledger.setAllowance_allowances, Ledger.move_allowances]
    split_ifs with hc
    · obtain ⟨rfl, rfl⟩ := hc
      rw [ht]; omega
    · exact ht
  | _ => exact ht

/-- The second observer holds the allowances; the first is ahead by `δ` on `(o, s)`. -/
structure Observed (o s : A) (δ : ℤ) (T : Token A) : Prop where
  mode : T.eventsMode = .CES
  value : ∀ o' s', observed Event.byValue T.log o' s' = T.allowances o' s'
  delta : observed Event.byDelta T.log o s = T.allowances o s + δ

/-- **Every operation moves the first observer by the drift** and keeps the second one right. -/
theorem Observed.takes (h : T.Observed o s δ) (hs : T.Sound) (ht : T.Takes op T') :
    T'.Observed o s (op.drift o s (T.allowances o s) δ) := by
  refine ⟨ht.eventsMode.trans h.mode, ?_, ?_⟩
  · unfold observed
    rw [ht.log h.mode, List.foldl_append]
    exact ht.byValue hs h.value
  · unfold observed
    rw [ht.log h.mode, List.foldl_append]
    exact ht.byDelta h.delta

end Token

/-- A fresh token has recorded nothing about allowances. -/
theorem Config.observed (c : Config A) (hm : c.eventsMode = .CES) (o s : A) :
    c.token.Observed o s 0 := by
  have hlog : c.token.log = [.Mint c.installer c.totalSupply] := by
    show [] ++ (if c.eventsMode = .CES then _ else _) = _
    rw [if_pos hm]; rfl
  refine ⟨hm, ?_, ?_⟩
  · intro o' s'
    rw [hlog]; rfl
  · rw [hlog]; rfl

end Cep18
