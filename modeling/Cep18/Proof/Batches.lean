import Cep18.Model.Reference
import Cep18.Proof.History

/-!
# Calls in batches

* `order_free`: if the same calls succeed, balances and supply do not depend on their order.
* `transfers_merge`: transfers between the same two keys, one after the other, are one transfer
  of their sum.
-/

namespace Cep18

open Program Constants

variable {Key : Type} [CasperKey Key]

/-! ### In any order -/

/-- What a successful call adds to the supply. -/
def Call.issued (c : Call Key) : ℕ := if c.entryPoint = .mint then c.amount.toNat else 0

/-- What a successful call takes from the supply. -/
def Call.retired (c : Call Key) : ℕ := if c.entryPoint = .burn then c.amount.toNat else 0

variable {D : DistinctItemKeys Key}

/-- Successful calls account for what becomes of the supply. -/
theorem supply_run {s : Store Key D.toItemKeys} (h : Holds s) (calls : List (Call Key)) :
    (run s calls).totalSupply.toNat +
        ((Run.taken exec (fun s c => c.Succeeds s) s calls).map Call.retired).sum =
      s.totalSupply.toNat +
        ((Run.taken exec (fun s c => c.Succeeds s) s calls).map Call.issued).sum := by
  refine Run.foldl_taken_balance (φ := fun s => s.totalSupply.toNat) (I := Holds)
    (fun s c hs => hs.exec c) (fun s c hh hs => ?_) (fun s c _ hs => ?_) calls h
  · have hstep := supply_step hh c
    simp only [burned, minted, hs, and_true] at hstep
    exact hstep
  · show (exec s c).totalSupply.toNat = _
    rw [exec_of_not_succeeds hs]

/-- **Order does not matter to balances**: two runs in which the same calls succeed, each as often
but in any order, leave every balance and the total supply the same. -/
theorem order_free (d : Deployment Key D.toItemKeys) {calls calls' : List (Call Key)}
    (h : (d.successful calls).Perm (d.successful calls')) :
    (∀ k, (d.after calls).balance k = (d.after calls').balance k) ∧
      (d.after calls).totalSupply = (d.after calls').totalSupply := by
  constructor
  · intro k
    have h1 := balance_run d.holds calls k
    have h2 := balance_run d.holds calls' k
    have hpaid := (h.map (Call.paid k)).sum_eq
    have hreceived := (h.map (Call.received k)).sum_eq
    unfold Deployment.successful at hpaid hreceived
    refine BitVec.eq_of_toNat_eq ?_
    show ((run d.store calls).balance k).toNat = ((run d.store calls').balance k).toNat
    omega
  · have h1 := supply_run d.holds calls
    have h2 := supply_run d.holds calls'
    have hretired := (h.map Call.retired).sum_eq
    have hissued := (h.map Call.issued).sum_eq
    unfold Deployment.successful at hretired hissued
    refine BitVec.eq_of_toNat_eq ?_
    show (run d.store calls).totalSupply.toNat = (run d.store calls').totalSupply.toNat
    omega

/-- Account 1 gives an amount to account 2. -/
def giving (amount : U256) : Call PlainKey :=
  Call.plain 1 .transfer [(RECIPIENT, { asKey := some (.account 2) }),
    (AMOUNT, { asU256 := some amount })]

/-- Account 2 passes some of it on to account 3. -/
def passingOn : Call PlainKey :=
  Call.plain 2 .transfer [(RECIPIENT, { asKey := some (.account 3) }),
    (AMOUNT, { asU256 := some 2 })]

/-- Once account 2 has got 9, it may pass some on before it gets more, or after. -/
theorem order_free_plain :
    (∀ k, (plainToken.after [giving 9, giving 5, passingOn]).balance k =
      (plainToken.after [giving 9, passingOn, giving 5]).balance k) ∧
      (plainToken.after [giving 9, giving 5, passingOn]).balance (.account 2) = 12 := by
  refine ⟨(order_free plainToken ?_).1, by decide +kernel⟩
  unfold Deployment.successful
  simp only [Run.taken]
  rw [if_pos (by decide +kernel), if_pos (by decide +kernel), if_pos (by decide +kernel),
    if_pos (by decide +kernel), if_pos (by decide +kernel), if_pos (by decide +kernel)]
  exact (List.Perm.swap _ _ _).cons _

/-! ### Transfers between two keys -/

section Transfers

variable {l : Layout} {T : Token Key} {s : Store Key D.toItemKeys} {sender recipient : Key}

/-- **One transfer**, in a store that holds a sound token: when it succeeds, and what it does. -/
theorem transfer_step (hr : Rep l T s) (hT : T.Sound) {c : Call Key} {amount : U256}
    (hc : c.op? = some (.transfer sender recipient amount)) :
    (c.Succeeds s ↔ sender ≠ recipient ∧ amount.toNat ≤ T.balances sender) ∧
      (c.Succeeds s → ∃ T', Rep l T' (exec s c) ∧ T'.Sound ∧ T'.badges = T.badges ∧
        T'.toLedger = T.move sender recipient amount.toNat) := by
  constructor
  · rw [succeeds_iff hr]
    constructor
    · rintro ⟨op, T', hop, hstep⟩
      rw [hc] at hop
      cases hop
      cases Token.step_takes hstep with
      | transfer hne hbalance hmax => exact ⟨hne, hbalance⟩
    · rintro ⟨hne, hbalance⟩
      have hmax := hT.fits hne hbalance
      have hstep : ∃ T', T.step (.transfer sender recipient amount) = .ok T' := by
        simp only [Token.step]
        rw [if_neg hne, if_neg (Nat.not_lt.2 hbalance), if_neg (Nat.not_lt.2 hmax)]
        exact ⟨_, rfl⟩
      obtain ⟨T', hstep⟩ := hstep
      exact ⟨_, T', hc, hstep⟩
  · intro hs
    rcases call_cases hr c with ⟨hfails, -⟩ | ⟨op, -, hop, -, ht, hr'⟩
    · exact absurd hs hfails
    · rw [hc] at hop
      cases hop
      refine ⟨_, hr', hT.takes ht, ?_⟩
      generalize T.exec c.op? = T' at ht
      cases ht with
      | transfer hne hbalance hmax => exact ⟨rfl, rfl⟩

/-- **Transfers one after the other**: when all of them succeed, and what they do. -/
theorem transfers_run (hne : sender ≠ recipient) {calls : List (Call Key)} {amounts : List U256}
    (hcalls : List.Forall₂ (fun c amount => c.op? = some (.transfer sender recipient amount)) calls
      amounts) : ∀ {T : Token Key} {s : Store Key D.toItemKeys}, Rep l T s → T.Sound →
    (Run.Everywhere exec (fun s c => Call.Succeeds c s) s calls ↔
        (amounts.map BitVec.toNat).sum ≤ T.balances sender) ∧
      (Run.Everywhere exec (fun s c => Call.Succeeds c s) s calls → ∃ T', Rep l T' (run s calls) ∧
        T'.badges = T.badges ∧
        T'.toLedger = T.move sender recipient (amounts.map BitVec.toNat).sum) := by
  induction hcalls with
  | nil =>
    intro T s hr hT
    refine ⟨by simp [Run.Everywhere], fun _ => ⟨T, hr, rfl, ?_⟩⟩
    exact (Ledger.move_zero sender recipient).symm
  | @cons c amount calls amounts hc hcalls ih =>
    intro T s hr hT
    obtain ⟨hiff, hdoes⟩ := transfer_step hr hT hc
    simp only [Run.Everywhere, List.map_cons, List.sum_cons]
    constructor
    · constructor
      · rintro ⟨hs, hlater⟩
        obtain ⟨T', hr', hT', -, hL⟩ := hdoes hs
        have hrest := (ih hr' hT').1.1 hlater
        have hpaid := (hiff.1 hs).2
        rw [hL, Ledger.move_balances hne, if_neg hne, if_pos rfl] at hrest
        omega
      · intro hle
        have hs : c.Succeeds s := hiff.2 ⟨hne, by omega⟩
        obtain ⟨T', hr', hT', -, hL⟩ := hdoes hs
        refine ⟨hs, (ih hr' hT').1.2 ?_⟩
        rw [hL, Ledger.move_balances hne, if_neg hne, if_pos rfl]
        omega
    · rintro ⟨hs, hlater⟩
      obtain ⟨T', hr', hT', hbadges, hL⟩ := hdoes hs
      obtain ⟨T'', hr'', hbadges', hL'⟩ := (ih hr' hT').2 hlater
      refine ⟨T'', hr'', hbadges'.trans hbadges, ?_⟩
      rw [hL', hL, Ledger.move_move hne]

end Transfers

/-- **Transfers merge.** In every state that an installed token reaches, transfers between the same
two keys all succeed, one after the other, exactly if one transfer of their sum does; and they
leave balances, allowances, badges and supply as it does. -/
theorem transfers_merge (d : Deployment Key D.toItemKeys) (before : List (Call Key))
    {sender recipient : Key} (hne : sender ≠ recipient) {calls : List (Call Key)}
    {amounts : List U256} (hcalls : List.Forall₂
      (fun c amount => c.op? = some (.transfer sender recipient amount)) calls amounts)
    {one : Call Key} {amount : U256} (hone : one.op? = some (.transfer sender recipient amount))
    (hsum : amount.toNat = (amounts.map BitVec.toNat).sum) :
    (Run.Everywhere exec (fun s c => Call.Succeeds c s) (d.after before) calls ↔
        one.Succeeds (d.after before)) ∧
      (one.Succeeds (d.after before) →
        (∀ k, (d.after (before ++ calls)).balance k = (d.after (before ++ [one])).balance k) ∧
        (∀ o sp, (d.after (before ++ calls)).allowance o sp =
          (d.after (before ++ [one])).allowance o sp) ∧
        (∀ k, (d.after (before ++ calls)).badge k = (d.after (before ++ [one])).badge k) ∧
        (d.after (before ++ calls)).totalSupply = (d.after (before ++ [one])).totalSupply) := by
  obtain ⟨l, T, hr, hT⟩ := d.holds_after before
  obtain ⟨hall, hdo⟩ := transfers_run hne hcalls hr hT
  obtain ⟨hiff, hdoes⟩ := transfer_step hr hT hone
  have hsame : Run.Everywhere exec (fun s c => Call.Succeeds c s) (d.after before) calls ↔
      one.Succeeds (d.after before) := by
    rw [hall, hiff, hsum]
    exact ⟨fun h => ⟨hne, h⟩, fun h => h.2⟩
  refine ⟨hsame, fun hs => ?_⟩
  obtain ⟨T₁, hr₁, hbadges₁, hL₁⟩ := hdo (hsame.2 hs)
  obtain ⟨T₂, hr₂, -, hbadges₂, hL₂⟩ := hdoes hs
  have hL : T₁.toLedger = T₂.toLedger := by rw [hL₁, hL₂, hsum]
  rw [d.after_append, d.after_append]
  have hr₂' : Rep l T₂ (run (d.after before) [one]) := hr₂
  refine ⟨fun k => BitVec.eq_of_toNat_eq ?_, fun o sp => BitVec.eq_of_toNat_eq ?_, fun k => ?_,
    BitVec.eq_of_toNat_eq ?_⟩
  · rw [hr₁.balance, hr₂'.balance, hL]
  · rw [hr₁.allowance, hr₂'.allowance, hL]
  · rw [hr₁.badge, hr₂'.badge, hbadges₁, hbadges₂]
  · rw [hr₁.totalSupply, hr₂'.totalSupply, hL]

/-- The installer of a plain token transfers 5 and 7, or 12 at once. -/
theorem transfers_merge_plain :
    Run.Everywhere exec (fun s c => Call.Succeeds c s) (plainToken.after [])
        [Call.plain 1 .transfer [(RECIPIENT, { asKey := some (.account 2) }),
          (AMOUNT, { asU256 := some 5 })],
        Call.plain 1 .transfer [(RECIPIENT, { asKey := some (.account 2) }),
          (AMOUNT, { asU256 := some 7 })]] ↔
      (Call.plain 1 .transfer [(RECIPIENT, { asKey := some (.account 2) }),
        (AMOUNT, { asU256 := some 12 })]).Succeeds (plainToken.after []) :=
  (transfers_merge plainToken [] (show PlainKey.account 1 ≠ PlainKey.account 2 by decide)
    (.cons rfl (.cons rfl .nil)) rfl rfl).1

end Cep18
