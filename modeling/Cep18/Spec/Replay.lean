import Cep18.Spec.Step

/-!
# Replaying the event log

A second machine, driven by events alone: `replay` follows the ledger, and fails where an
event takes more than there is; `replayBadges` follows the badges. Neither looks at the
token.

`Op.event` is the event an operation records. Replaying it does to the ledger and the
badges what the operation does (`Takes.replays`, `Takes.replaysBadges`).
-/

namespace Cep18

open Checked

variable {A : Type} [LinearOrder A]

/-- What one event says happened to the ledger. -/
def Event.replay (L : Ledger A) : Event A → Option (Ledger A)
  | .Mint recipient amount =>
    some { L.credit recipient amount.toNat with totalSupply := L.totalSupply + amount.toNat }
  | .Burn owner amount =>
    if amount.toNat ≤ L.totalSupply then
      (L.debit owner amount.toNat).map fun L' =>
        { L' with totalSupply := L.totalSupply - amount.toNat }
    else none
  | .Transfer sender recipient amount =>
    (L.debit sender amount.toNat).map (·.credit recipient amount.toNat)
  | .TransferFrom spender owner recipient amount =>
    if amount.toNat ≤ L.allowances owner spender then
      ((L.debit owner amount.toNat).map (·.credit recipient amount.toNat)).map fun L' =>
        L'.setAllowance owner spender (L.allowances owner spender - amount.toNat)
    else none
  | .SetAllowance owner spender allowance => some (L.setAllowance owner spender allowance.toNat)
  | .IncreaseAllowance owner spender allowance _ =>
    some (L.setAllowance owner spender allowance.toNat)
  | .DecreaseAllowance owner spender allowance _ =>
    some (L.setAllowance owner spender allowance.toNat)
  | .ChangeSecurity _ _ => some L

/-- What a log says happened to a ledger. -/
def replay (L : Ledger A) (log : List (Event A)) : Option (Ledger A) := log.foldlM Event.replay L

/-- What one event says happened to the badges. -/
def Event.replayBadges (badges : A → Option SecurityBadge) : Event A → A → Option SecurityBadge
  | .ChangeSecurity _ secChangeMap => fun a => (secChangeMap.get a).or (badges a)
  | _ => badges

/-- What a log says happened to a table of badges. -/
def replayBadges (badges : A → Option SecurityBadge) (log : List (Event A)) :
    A → Option SecurityBadge := log.foldl Event.replayBadges badges

/-- The event an operation records, given the token it leads to. -/
def Op.event (T' : Token A) : Op A → Option (Event A)
  | .query | .init => none
  | .approve owner spender amount => some (.SetAllowance owner spender amount)
  | .decreaseAllowance owner spender amount =>
    some (.DecreaseAllowance owner spender (BitVec.ofNat 256 (T'.allowances owner spender)) amount)
  | .increaseAllowance owner spender amount =>
    some (.IncreaseAllowance owner spender (BitVec.ofNat 256 (T'.allowances owner spender)) amount)
  | .transfer sender recipient amount => some (.Transfer sender recipient amount)
  | .transferFrom spender owner recipient amount =>
    if amount = 0 then none else some (.TransferFrom spender owner recipient amount)
  | .mint _ owner amount => some (.Mint owner amount)
  | .burn _ owner amount => some (.Burn owner amount)
  | .changeSecurity caller adminList minterList noneList =>
    some (.ChangeSecurity caller (Token.secChangeMap caller adminList minterList noneList))

namespace Token

variable {T T' : Token A} {op : Op A}

/-- **What an operation records**, in a token that keeps a log. -/
theorem Takes.log (h : T.Takes op T') (hm : T.eventsMode = .CES) :
    T'.log = T.log ++ (op.event T').toList := by
  cases h with
  | query => simp [Op.event]
  | transferNothing hne => simp [Op.event]
  | transferFrom hne hpos hallowance hbalance hmax =>
    rw [record_log (by simpa using hm)]
    simp only [Op.event, if_neg hpos]
    rfl
  | decreaseAllowance hne =>
    rw [record_log (by simpa using hm)]
    simp [Op.event, Ledger.setAllowance_self]
  | increaseAllowance hne =>
    rw [record_log (by simpa using hm)]
    simp [Op.event, Ledger.setAllowance_self]
  | _ =>
    rw [record_log (by simpa using hm)]
    rfl

theorem toNat_ofNat_of_le {n : ℕ} (h : n ≤ U256.MAX) : (BitVec.ofNat 256 n).toNat = n := by
  rw [BitVec.toNat_ofNat]
  exact Nat.mod_eq_of_lt (lt_two_pow_iff.2 h)

/-- **Replaying what an operation records** does to the ledger what the operation does. -/
theorem Takes.replays (h : T.Takes op T') (hs : T.Sound) :
    replay T.toLedger (op.event T').toList = some T'.toLedger := by
  cases h with
  | query => rfl
  | approve hne => rfl
  | @decreaseAllowance owner spender amount hne =>
    -- the event carries the new allowance as a word, which it fits
    have hle : T.allowances owner spender - amount.toNat ≤ U256.MAX := by
      have := hs.allowance_le owner spender
      omega
    have hword := toNat_ofNat_of_le hle
    simp [replay, Op.event, Event.replay, Ledger.setAllowance_self, hword]
  | @increaseAllowance owner spender amount hne =>
    have hle : min (T.allowances owner spender + amount.toNat) U256.MAX ≤ U256.MAX :=
      Nat.min_le_right _ _
    have hword := toNat_ofNat_of_le hle
    simp [replay, Op.event, Event.replay, Ledger.setAllowance_self, hword]
  | transfer hne hbalance hmax =>
    have hmove := Ledger.debit_credit hne hbalance
    simp only [replay, Op.event, Event.replay, Option.toList_some, List.foldlM_cons, hmove]
    rfl
  | transferNothing hne => simp [replay, Op.event]
  | transferFrom hne hpos hallowance hbalance hmax =>
    have hmove := Ledger.debit_credit hne hbalance
    simp only [replay, Op.event, if_neg hpos, Event.replay, Option.toList_some, List.foldlM_cons,
      if_pos hallowance, hmove]
    rfl
  | mint hflag hbadge hbalance hsupply => rfl
  | burn hflag hbalance hsupply =>
    simp only [replay, Op.event, Event.replay, Option.toList_some, List.foldlM_cons,
      if_pos hsupply, Ledger.debit, if_pos hbalance]
    rfl
  | changeSecurity hflag hbadge => rfl

theorem Takes.replaysBadges (h : T.Takes op T') :
    replayBadges T.badges (op.event T').toList = T'.badges := by
  cases h with
  | transferNothing hne => simp [replayBadges, Op.event]
  | transferFrom hne hpos hallowance hbalance hmax =>
    simp only [Op.event, if_neg hpos]
    rfl
  | _ => rfl

/-- The log tells the whole story of the token, from an empty ledger and the badges `b`. -/
structure Told (b : A → Option SecurityBadge) (T : Token A) : Prop where
  mode : T.eventsMode = .CES
  ledger : replay Ledger.empty T.log = some T.toLedger
  badges : replayBadges b T.log = T.badges

/-- **Every operation keeps the log telling the story.** -/
theorem Told.takes {b : A → Option SecurityBadge} (h : T.Told b) (hs : T.Sound)
    (ht : T.Takes op T') : T'.Told b := by
  refine ⟨ht.eventsMode.trans h.mode, ?_, ?_⟩
  -- the old log leads to the old token, and what was appended leads on from there
  · unfold replay
    rw [ht.log h.mode, List.foldlM_append]
    have hl := h.ledger
    unfold replay at hl
    rw [hl]
    exact ht.replays hs
  · unfold replayBadges
    rw [ht.log h.mode, List.foldl_append]
    have hb := h.badges
    unfold replayBadges at hb
    rw [hb]
    exact ht.replaysBadges

theorem Told.exec {b : A → Option SecurityBadge} (h : T.Told b) (hs : T.Sound)
    (o : Option (Op A)) : (T.exec o).Told b := by
  rcases T.exec_cases o with ⟨he, -⟩ | ⟨op, -, -, ht⟩
  · rw [he]; exact h
  · exact h.takes hs ht

end Token

/-- The log of a fresh token tells how its supply came to be. -/
theorem Config.told (c : Config A) (hm : c.eventsMode = .CES) : c.token.Told c.token.badges := by
  have hlog : c.token.log = [.Mint c.installer c.totalSupply] := by
    show [] ++ (if c.eventsMode = .CES then _ else _) = _
    rw [if_pos hm]; rfl
  refine ⟨hm, ?_, ?_⟩
  · rw [hlog]
    simp [replay, Event.replay, Ledger.empty, Ledger.credit, token, Token.record]
  · rw [hlog]; rfl

end Cep18
