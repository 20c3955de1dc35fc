import Cep18.Proof.Events
import Cep18.Proof.Orders
import Cep18.Spec.Observers

/-!
# Allowances over whole runs

* `observers_apart`: an observer that adds and subtracts the amounts in allowance events is
  ahead of one that writes down their new values by exactly what saturation has cut off
  since the last approval; where nothing was cut off, the two agree.
* `withdrawn_le_granted`: what a spender has withdrawn from an owner, with what it may still
  withdraw, is at most what the owner has granted it.
-/

namespace Cep18

open Program Constants

variable {Key : Type} [CasperKey Key]

/-! ### Granting and withdrawing -/

section Amounts

/-- The call is one of the owner's, granting the spender an allowance. -/
def Call.Grants (owner spender : Key) (c : Call Key) : Prop :=
  (c.entryPoint = .approve ∨ c.entryPoint = .increaseAllowance) ∧
    c.env.callerIdentity = some owner ∧ c.env.arg? Key SPENDER = some spender

instance (owner spender : Key) (c : Call Key) : Decidable (c.Grants owner spender) :=
  inferInstanceAs (Decidable (_ ∧ _))

instance (owner spender : Key) (c : Call Key) : Decidable (c.Spends owner spender) :=
  inferInstanceAs (Decidable (_ ∧ _))

variable {D : ItemKeys Key}

/-- What a call grants the spender: its amount, if it is a successful grant. -/
def granted (owner spender : Key) (s : Store Key D) (c : Call Key) : ℕ :=
  if c.Grants owner spender ∧ c.Succeeds s then c.amount.toNat else 0

/-- What a call withdraws from the owner: its amount, if it is a successful `transfer_from`. -/
def withdrawn (owner spender : Key) (s : Store Key D) (c : Call Key) : ℕ :=
  if c.Spends owner spender ∧ c.Succeeds s then c.amount.toNat else 0

end Amounts

variable {D : DistinctItemKeys Key} {s : Store Key D.toItemKeys} {owner spender : Key}

/-- Only a `transfer_from` withdraws anything. -/
theorem withdrawn_eq_zero {c : Call Key} (h : c.entryPoint ≠ .transferFrom) :
    withdrawn owner spender s c = 0 := by
  simp [withdrawn, Call.Spends, h]

/-- A successful grant grants its amount. -/
theorem granted_eq {c : Call Key} (hg : c.Grants owner spender) (hs : c.Succeeds s) {amount : U256}
    (hamount : c.env.arg? U256 AMOUNT = some amount) :
    granted owner spender s c = amount.toNat := by
  simp [granted, hg, hs, Call.amount_eq hamount]

/-- **One call** raises the allowance by at most what it grants, and lowers it by at least what
it withdraws. -/
theorem allowance_bound_step (h : Holds s) (c : Call Key) :
    ((exec s c).allowance owner spender).toNat + withdrawn owner spender s c ≤
      (s.allowance owner spender).toNat + granted owner spender s c := by
  obtain ⟨l, T, hr, -⟩ := h
  rcases call_cases hr c with ⟨hs, he, -⟩ | ⟨op, hs, -, hd, ht, hr'⟩
  · simp [withdrawn, hs, he]
  generalize T.exec c.op? = T' at ht hr'
  rw [hr.allowance, hr'.allowance]
  cases ht with
  | query =>
    have hw : withdrawn owner spender s c = 0 := by
      refine withdrawn_eq_zero fun he => ?_
      simp [Call.Describes, he] at hd
    omega
  | @approve o sp amount hne =>
    obtain ⟨he, ho, hsp, hamount⟩ := hd
    have hw : withdrawn owner spender s c = 0 := withdrawn_eq_zero (by simp [he])
    simp only [Token.record_toLedger, Token.withLedger_toLedger, Ledger.setAllowance_allowances]
    split_ifs with hc
    · obtain ⟨rfl, rfl⟩ := hc
      have hg := granted_eq ⟨Or.inl he, ho, hsp⟩ hs hamount
      omega
    · omega
  | @increaseAllowance o sp amount hne =>
    obtain ⟨he, ho, hsp, hamount⟩ := hd
    have hw : withdrawn owner spender s c = 0 := withdrawn_eq_zero (by simp [he])
    simp only [Token.record_toLedger, Token.withLedger_toLedger, Ledger.setAllowance_allowances]
    split_ifs with hc
    · obtain ⟨rfl, rfl⟩ := hc
      have hg := granted_eq ⟨Or.inr he, ho, hsp⟩ hs hamount
      omega
    · omega
  | @decreaseAllowance o sp amount hne =>
    have hw : withdrawn owner spender s c = 0 := withdrawn_eq_zero (by simp [hd.1])
    simp only [Token.record_toLedger, Token.withLedger_toLedger, Ledger.setAllowance_allowances]
    split_ifs with hc
    · obtain ⟨rfl, rfl⟩ := hc
      omega
    · omega
  | @transferNothing sp o recipient hne =>
    have hw : withdrawn owner spender s c = 0 := by
      simp [withdrawn, Call.amount_eq hd.2.2.2.2]
    omega
  | @transferFrom sp o recipient amount hne hpos hallowance hbalance hmax =>
    obtain ⟨he, hsp, -, ho, hamount⟩ := hd
    simp only [Token.record_toLedger, Token.withLedger_toLedger, Ledger.setAllowance_allowances,
      Ledger.move_allowances]
    split_ifs with hc
    · -- what is withdrawn was there to be withdrawn
      obtain ⟨rfl, rfl⟩ := hc
      have hw : withdrawn owner spender s c = amount.toNat := by
        simp [withdrawn, Call.Spends, he, ho, hsp, hs, Call.amount_eq hamount]
      omega
    · have hw : withdrawn owner spender s c = 0 := by
        have hnot : ¬ c.Spends owner spender := by
          rintro ⟨-, hsp', ho'⟩
          rw [hsp] at hsp'
          rw [ho] at ho'
          exact hc ⟨(Option.some.inj ho').symm, (Option.some.inj hsp').symm⟩
        simp [withdrawn, hnot]
      omega
  | _ =>
    have hw : withdrawn owner spender s c = 0 := withdrawn_eq_zero (by simp [hd.1])
    simp only [Token.record_toLedger, Token.withLedger_toLedger, Token.setBadges_toLedger,
      Ledger.move_allowances, Ledger.issue_allowances, Ledger.retire_allowances]
    omega

/-- **A run** raises the allowance by at most what it grants, less what it withdraws. -/
theorem allowance_bound (h : Holds s) (owner spender : Key) (calls : List (Call Key)) :
    ((run s calls).allowance owner spender).toNat +
        (Run.outputs exec (withdrawn owner spender) s calls).sum ≤
      (s.allowance owner spender).toNat + (Run.outputs exec (granted owner spender) s calls).sum := by
  have hI : ∀ (s : Store Key D.toItemKeys) (c : Call Key), Holds s → Holds (exec s c) :=
    fun s c hs => hs.exec c
  have hstep : ∀ (s : Store Key D.toItemKeys) (c : Call Key), Holds s →
      ((exec s c).allowance owner spender).toNat + withdrawn owner spender s c ≤
        (s.allowance owner spender).toNat + granted owner spender s c :=
    fun s c hs => allowance_bound_step hs c
  exact Run.foldl_bound (φ := fun s => (s.allowance owner spender).toNat) hI hstep calls h

/-- Nobody has an allowance in a fresh token. -/
theorem Deployment.allowance (d : Deployment Key D.toItemKeys) (owner spender : Key) :
    (d.store.allowance owner spender).toNat = 0 := by
  obtain ⟨c, l, -, hr⟩ := d.rep
  rw [hr.allowance]; rfl

/-- **A spender never withdraws more than was granted.** At every point of a run, what the owner
has granted covers what the spender has withdrawn and may still withdraw; and over any
stretch in which the owner grants it nothing, the spender withdraws at most the allowance it
had at the start. -/
theorem withdrawn_le_granted (d : Deployment Key D.toItemKeys) (calls : List (Call Key))
    (owner spender : Key) :
    ((d.after calls).allowance owner spender).toNat +
        (Run.outputs exec (withdrawn owner spender) d.store calls).sum ≤
        (Run.outputs exec (granted owner spender) d.store calls).sum ∧
      ∀ stretch : List (Call Key), (∀ c ∈ stretch, ¬ c.Grants owner spender) →
        (Run.outputs exec (withdrawn owner spender) (d.after calls) stretch).sum ≤
          ((d.after calls).allowance owner spender).toNat := by
  constructor
  · have hbound := allowance_bound d.holds owner spender calls
    have hzero := d.allowance owner spender
    unfold Deployment.after
    omega
  · intro stretch hnone
    have hbound := allowance_bound (d.holds_after calls) owner spender stretch
    have hzero : (Run.outputs exec (granted owner spender) (d.after calls) stretch).sum = 0 :=
      Run.outputs_sum_eq_zero stretch (fun s c hc => by simp [granted, hnone c hc]) _
    omega

/-! ### Two observers of the event log -/

section Drift

variable {D : ItemKeys Key}

/-- How far the first observer is ahead of the second on the allowance after a call. -/
def Call.drift (owner spender : Key) (s : Store Key D) (δ : ℤ) (c : Call Key) : ℤ :=
  if c.Succeeds s then
    match c.op? with
    | some op => op.drift owner spender (s.allowance owner spender).toNat δ
    | none => δ
  else δ

/-- How far it is ahead after a run, if it was ahead by `δ` at its start. -/
def drift (owner spender : Key) : Store Key D → ℤ → List (Call Key) → ℤ
  | _, δ, [] => δ
  | s, δ, c :: calls => drift owner spender (exec s c) (c.drift owner spender s δ) calls

/-- A successful call that adjusts the allowance and is cut off. -/
def Call.Saturates (owner spender : Key) (s : Store Key D) (c : Call Key) : Prop :=
  c.Succeeds s ∧ c.Adjusts owner spender ∧ c.Clamps owner spender s

/-- A call that is not cut off brings the observers no further apart. -/
theorem Call.drift_zero {s : Store Key D} {c : Call Key} (h : ¬ c.Saturates owner spender s) :
    c.drift owner spender s 0 = 0 := by
  unfold Call.drift
  split_ifs with hs
  · cases hop : c.op? with
    | none => rfl
    | some op =>
      have hd := Call.describes_of_op? hop
      cases op with
      | approve o sp amount =>
        simp only [Op.drift]
        split_ifs <;> rfl
      | increaseAllowance o sp amount =>
        obtain ⟨he, ho, hsp, hamount⟩ := hd
        simp only [Op.drift]
        split_ifs with hc
        · obtain ⟨rfl, rfl⟩ := hc
          have hfit : ¬ U256.MAX < (s.allowance owner spender).toNat + amount.toNat := by
            intro hlt
            refine h ⟨hs, ⟨Or.inl he, ho, hsp⟩, Or.inl ⟨he, ?_⟩⟩
            rw [Call.amount_eq hamount]; exact hlt
          omega
        · rfl
      | decreaseAllowance o sp amount =>
        obtain ⟨he, ho, hsp, hamount⟩ := hd
        simp only [Op.drift]
        split_ifs with hc
        · obtain ⟨rfl, rfl⟩ := hc
          have hfit : ¬ (s.allowance owner spender).toNat < amount.toNat := by
            intro hlt
            refine h ⟨hs, ⟨Or.inr he, ho, hsp⟩, Or.inr ⟨he, ?_⟩⟩
            rw [Call.amount_eq hamount]; exact hlt
          omega
        · rfl
      | _ => rfl
  · rfl

theorem drift_zero : ∀ (calls : List (Call Key)) {s : Store Key D},
    Run.Everywhere exec (fun s c => ¬ c.Saturates owner spender s) s calls →
    drift owner spender s 0 calls = 0 := by
  intro calls
  induction calls with
  | nil => intro s _; rfl
  | cons c calls ih =>
    rintro s ⟨hc, hcs⟩
    unfold drift
    rw [Call.drift_zero hc]
    exact ih hcs

end Drift

/-- The store holds a sound token whose log the observers have followed. -/
def HoldsObserved (owner spender : Key) (δ : ℤ) (s : Store Key D.toItemKeys) : Prop :=
  ∃ l T, Rep l T s ∧ T.Sound ∧ T.Observed owner spender δ

/-- **One call** brings the observers apart by what it cuts off. -/
theorem HoldsObserved.exec {δ : ℤ} (h : HoldsObserved owner spender δ s) (c : Call Key) :
    HoldsObserved owner spender (c.drift owner spender s δ) (exec s c) := by
  obtain ⟨l, T, hr, hT, ho⟩ := h
  rcases call_cases hr c with ⟨hs, he, -⟩ | ⟨op, hs, hop, -, ht, hr'⟩
  · rw [he, Call.drift, if_neg hs]
    exact ⟨l, T, hr, hT, ho⟩
  · rw [Call.drift, if_pos hs, hop, hr.allowance]
    exact ⟨l, _, hr', hT.takes ht, ho.takes hT ht⟩

theorem HoldsObserved.run : ∀ (calls : List (Call Key)) {s : Store Key D.toItemKeys} {δ : ℤ},
    HoldsObserved owner spender δ s →
    HoldsObserved owner spender (drift owner spender s δ calls) (run s calls) := by
  intro calls
  induction calls with
  | nil => intro s δ h; exact h
  | cons c calls ih => intro s δ h; exact ih (h.exec c)

/-- **The two observers, over every run.** In CES mode, the observer that adds and subtracts what
events say was asked for is ahead of the one that writes down their new values by what was
cut off since the last approval; if nothing ever was, they agree. -/
theorem observers_apart (d : Deployment Key D.toItemKeys)
    (hces : d.env.arg? UInt8 EVENTS_MODE = some 1) (calls : List (Call Key))
    (owner spender : Key) :
    observed Event.byDelta (d.after calls).log owner spender =
        observed Event.byValue (d.after calls).log owner spender +
          drift owner spender d.store 0 calls ∧
      (Run.Everywhere exec (fun s c => ¬ c.Saturates owner spender s) d.store calls →
        observed Event.byDelta (d.after calls).log owner spender =
          observed Event.byValue (d.after calls).log owner spender) := by
  obtain ⟨c, l, hc, hr⟩ := d.rep
  have hstart : HoldsObserved owner spender 0 d.store :=
    ⟨l, c.token, hr, c.sound, c.observed (Env.config?_ces hc hces) owner spender⟩
  obtain ⟨l', T, hr', -, ho⟩ := hstart.run calls
  have hlog : (d.after calls).log = T.log := hr'.log ho.mode
  have hdrift : observed Event.byDelta (d.after calls).log owner spender =
      observed Event.byValue (d.after calls).log owner spender +
        drift owner spender d.store 0 calls := by
    rw [hlog, ho.delta, ho.value]
  refine ⟨hdrift, fun hnone => ?_⟩
  rw [hdrift, drift_zero calls hnone, add_zero]

/-- Account 1 allows 8 and lowers it by 10. -/
def lowering : List (Call PlainKey) :=
  allowing 8 ++ [Call.plain 1 .decreaseAllowance
    [(SPENDER, { asKey := some (.account 2) }), (AMOUNT, { asU256 := some 10 })]]

/-- An allowance of 20 lowered by 10 and raised by 10 is not cut off, and the observers agree. -/
theorem observers_apart_plain :
    observed Event.byDelta (plainToken.after (allowing 20 ++ adjusting)).log (.account 1)
        (.account 2) =
      observed Event.byValue (plainToken.after (allowing 20 ++ adjusting)).log (.account 1)
        (.account 2) := by
  refine (observers_apart plainToken (by decide +kernel) (allowing 20 ++ adjusting) _ _).2 ?_
  refine ⟨?_, ?_, ?_, trivial⟩
  · unfold Call.Saturates Call.Adjusts Call.Clamps; decide +kernel
  · unfold Call.Saturates Call.Adjusts Call.Clamps; decide +kernel
  · unfold Call.Saturates Call.Adjusts Call.Clamps; decide +kernel

/-- An allowance of 8 lowered by 10: one observer is at zero, and the other below it. -/
theorem lowering_apart :
    ¬ ∀ (d : Deployment PlainKey plainItems.toItemKeys) (calls : List (Call PlainKey)),
      d.env.arg? UInt8 EVENTS_MODE = some 1 →
      observed Event.byDelta (d.after calls).log = observed Event.byValue (d.after calls).log := by
  intro h
  have heq := congrFun (congrFun (h plainToken lowering (by decide +kernel)) (.account 1))
    (.account 2)
  have hne : observed Event.byDelta (plainToken.after lowering).log (.account 1) (.account 2) ≠
      observed Event.byValue (plainToken.after lowering).log (.account 1) (.account 2) := by
    decide +kernel
  exact hne heq

end Cep18
