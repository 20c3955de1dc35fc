import Cep18.Lib.Interleave
import Cep18.Model.Reference
import Cep18.Proof.Supply

/-!
# Orders of adjusting and spending

An owner adjusts an allowance while its spender spends it. `interleavings_agree`: in
whatever order the two sequences are interleaved, if every call succeeds, the balances
come out the same, and so does the allowance as long as no adjustment is clamped at zero
or at the largest word.

Clamping forgets what it cuts off, so it does not commute with spending
(`clamped_orders_differ`).
-/

namespace Cep18

open Program Constants

variable {Key : Type} [CasperKey Key]

section Calls

/-- The call is one of the owner's, adjusting the spender's allowance. -/
def Call.Adjusts (owner spender : Key) (c : Call Key) : Prop :=
  (c.entryPoint = .increaseAllowance ∨ c.entryPoint = .decreaseAllowance) ∧
    c.env.callerIdentity = some owner ∧ c.env.arg? Key SPENDER = some spender

/-- The call is one of the spender's, spending from the owner. -/
def Call.Spends (owner spender : Key) (c : Call Key) : Prop :=
  c.entryPoint = .transferFrom ∧ c.env.callerIdentity = some spender ∧
    c.env.arg? Key OWNER = some owner

variable {D : ItemKeys Key}

/-- The call raises the allowance past the largest word, or lowers it past zero. -/
def Call.Clamps (owner spender : Key) (s : Store Key D) (c : Call Key) : Prop :=
  (c.entryPoint = .increaseAllowance ∧
      U256.MAX < (s.allowance owner spender).toNat + c.amount.toNat) ∨
    (c.entryPoint = .decreaseAllowance ∧ (s.allowance owner spender).toNat < c.amount.toNat)

/-- What a call that is not clamped adds to the allowance. -/
def Call.adjustment (c : Call Key) : ℤ :=
  if c.entryPoint = .increaseAllowance then c.amount.toNat else -c.amount.toNat

/-- What a spending call does to the balances; an adjusting one does nothing. -/
def Call.moves (b : Key → ℕ) (c : Call Key) : Key → ℕ :=
  match c.entryPoint, c.env.arg? Key OWNER, c.env.arg? Key RECIPIENT with
  | .transferFrom, some owner, some recipient =>
    (Ledger.move ⟨b, fun _ _ => 0, 0⟩ owner recipient c.amount.toNat).balances
  | _, _, _ => b

end Calls

variable {D : DistinctItemKeys Key} {s : Store Key D.toItemKeys} {owner spender : Key}

/-- What a call that adjusts comes down to. -/
theorem Call.Adjusts.op {c : Call Key} (hc : c.Adjusts owner spender) {op : Op Key}
    (hop : c.op? = some op) : ∃ n, c.amount = n ∧
      ((c.entryPoint = .increaseAllowance ∧ op = .increaseAllowance owner spender n) ∨
        (c.entryPoint = .decreaseAllowance ∧ op = .decreaseAllowance owner spender n)) := by
  obtain ⟨he | he, ho, hsp⟩ := hc
  · simp only [Call.op?, he, ho, hsp, Option.bind_eq_bind, Option.bind_some,
      Option.bind_eq_some_iff] at hop
    obtain ⟨n, hn, ⟨⟩⟩ := hop
    exact ⟨n, Call.amount_eq hn, Or.inl ⟨he, rfl⟩⟩
  · simp only [Call.op?, he, ho, hsp, Option.bind_eq_bind, Option.bind_some,
      Option.bind_eq_some_iff] at hop
    obtain ⟨n, hn, ⟨⟩⟩ := hop
    exact ⟨n, Call.amount_eq hn, Or.inr ⟨he, rfl⟩⟩

/-- What a call that spends comes down to. -/
theorem Call.Spends.op {c : Call Key} (hc : c.Spends owner spender) {op : Op Key}
    (hop : c.op? = some op) : ∃ recipient n, c.env.arg? Key RECIPIENT = some recipient ∧
      c.amount = n ∧ op = .transferFrom spender owner recipient n := by
  obtain ⟨he, hsp, ho⟩ := hc
  simp only [Call.op?, he, ho, hsp, Option.bind_eq_bind, Option.bind_some,
    Option.bind_eq_some_iff] at hop
  obtain ⟨recipient, hr, n, hn, ⟨⟩⟩ := hop
  exact ⟨recipient, n, hr, Call.amount_eq hn, rfl⟩

/-- The balances after a call that adjusts or spends. -/
theorem balances_step (h : Holds s) {c : Call Key} (hs : c.Succeeds s)
    (hc : c.Adjusts owner spender ∨ c.Spends owner spender) :
    (fun k => ((exec s c).balance k).toNat) = c.moves fun k => (s.balance k).toNat := by
  obtain ⟨l, T, hr, -⟩ := h
  rcases call_cases hr c with ⟨hns, -, -⟩ | ⟨op, -, hop, -, ht, hr'⟩
  · exact absurd hs hns
  generalize T.exec c.op? = T' at ht hr'
  rw [funext hr'.balance, funext hr.balance]
  rcases hc with hc | hc
  · obtain ⟨n, -, ⟨he, rfl⟩ | ⟨he, rfl⟩⟩ := hc.op hop
    · cases ht with
      | increaseAllowance hne => simp only [Call.moves, he]; rfl
    · cases ht with
      | decreaseAllowance hne => simp only [Call.moves, he]; rfl
  · obtain ⟨recipient, n, hrecipient, hn, rfl⟩ := hc.op hop
    obtain ⟨he, -, howner⟩ := hc
    have hmoves : ∀ b : Key → ℕ, c.moves b =
        (Ledger.move ⟨b, fun _ _ => 0, 0⟩ owner recipient n.toNat).balances := by
      intro b
      simp only [Call.moves, he, howner, hrecipient, hn]
    rw [hmoves]
    cases ht with
    | transferNothing hne => exact (congrArg Ledger.balances (Ledger.move_zero _ _)).symm
    | transferFrom hne hpos hallowance hbalance hmax => rfl

/-- The allowance after a call that adjusts or spends it, and is not clamped. -/
theorem allowance_step (h : Holds s) {c : Call Key} (hs : c.Succeeds s)
    (hc : c.Adjusts owner spender ∨ c.Spends owner spender) (hn : ¬ c.Clamps owner spender s) :
    ((exec s c).allowance owner spender).toNat =
      ((s.allowance owner spender).toNat : ℤ) + c.adjustment := by
  obtain ⟨hn₁, hn₂⟩ := not_or.1 hn
  obtain ⟨l, T, hr, -⟩ := h
  rcases call_cases hr c with ⟨hns, -, -⟩ | ⟨op, -, hop, -, ht, hr'⟩
  · exact absurd hs hns
  generalize T.exec c.op? = T' at ht hr'
  rw [hr.allowance] at hn₁ hn₂ ⊢
  rw [hr'.allowance]
  rcases hc with hc | hc
  · obtain ⟨n, hamount, ⟨he, rfl⟩ | ⟨he, rfl⟩⟩ := hc.op hop
    · have hfit : T.allowances owner spender + n.toNat ≤ U256.MAX := by
        rw [hamount] at hn₁
        exact Nat.le_of_not_lt fun hlt => hn₁ ⟨he, hlt⟩
      have hadd : c.adjustment = n.toNat := by rw [Call.adjustment, if_pos he, hamount]
      cases ht with
      | increaseAllowance hne =>
        simp only [Token.record_toLedger, Token.withLedger_toLedger, Ledger.setAllowance_self]
        omega
    · have hfit : n.toNat ≤ T.allowances owner spender := by
        rw [hamount] at hn₂
        exact Nat.le_of_not_lt fun hlt => hn₂ ⟨he, hlt⟩
      have hadd : c.adjustment = -n.toNat := by
        rw [Call.adjustment, if_neg (by rw [he]; decide), hamount]
      cases ht with
      | decreaseAllowance hne =>
        simp only [Token.record_toLedger, Token.withLedger_toLedger, Ledger.setAllowance_self]
        omega
  · obtain ⟨recipient, n, -, hamount, rfl⟩ := hc.op hop
    have hadd : c.adjustment = -n.toNat := by
      rw [Call.adjustment, if_neg (by rw [hc.1]; decide), hamount]
    cases ht with
    | transferNothing hne => rw [hadd]; simp
    | transferFrom hne hpos hallowance hbalance hmax =>
      simp only [Token.record_toLedger, Token.withLedger_toLedger, Ledger.setAllowance_self]
      omega

/-- **Adjusting and spending can interleave in any order**, up to clamping. From every state
an installed token reaches, two interleavings of an owner's adjustments and a spender's
spendings in which every call succeeds lead to the same balances, and to the same
allowance if neither clamps an adjustment. -/
theorem interleavings_agree (d : Deployment Key D.toItemKeys) (calls : List (Call Key))
    {adjustments spendings order order' : List (Call Key)}
    (hadj : ∀ c ∈ adjustments, c.Adjusts owner spender)
    (hsp : ∀ c ∈ spendings, c.Spends owner spender)
    (h : Interleaving adjustments spendings order)
    (h' : Interleaving adjustments spendings order')
    (hs : Run.Everywhere exec (fun s c => c.Succeeds s) (d.after calls) order)
    (hs' : Run.Everywhere exec (fun s c => c.Succeeds s) (d.after calls) order') :
    (∀ k, (run (d.after calls) order).balance k = (run (d.after calls) order').balance k) ∧
      (Run.Everywhere exec (fun s c => ¬ c.Clamps owner spender s) (d.after calls) order →
        Run.Everywhere exec (fun s c => ¬ c.Clamps owner spender s) (d.after calls) order' →
        (run (d.after calls) order).allowance owner spender =
          (run (d.after calls) order').allowance owner spender) := by
  have hholds := d.holds_after calls
  have hI : ∀ (s : Store Key D.toItemKeys) (c : Call Key), Holds s → Holds (exec s c) :=
    fun s c h => h.exec c
  have hmem : ∀ {zs : List (Call Key)}, Interleaving adjustments spendings zs →
      ∀ c ∈ zs, c.Adjusts owner spender ∨ c.Spends owner spender := fun hz c hc =>
    (hz.mem_iff.1 hc).imp (hadj c) (hsp c)
  constructor
  · -- only the spendings move balances, and their order is the same
    have hmoves : ∀ {zs : List (Call Key)}, Interleaving adjustments spendings zs →
        Run.Everywhere exec (fun s c => c.Succeeds s) (d.after calls) zs →
        (fun k => ((run (d.after calls) zs).balance k).toNat) =
          spendings.foldl Call.moves fun k => ((d.after calls).balance k).toNat := by
      intro zs hz hzs
      rw [← hz.foldl_right (f := Call.moves)]
      · exact hzs.foldl_view (φ := fun s k => (s.balance k).toNat) hI zs
          (fun s c hc ht hst => balances_step ht hst (hmem hz c hc)) hholds
      · rintro c hc b
        obtain ⟨he | he, -, -⟩ := hadj c hc <;> simp only [Call.moves, he]
    intro k
    apply BitVec.eq_of_toNat_eq
    exact congrFun ((hmoves h hs).trans (hmoves h' hs').symm) k
  · -- every call adds its own number to the allowance
    intro hn hn'
    have hadds : ∀ {zs : List (Call Key)}, Interleaving adjustments spendings zs →
        Run.Everywhere exec (fun s c => c.Succeeds s) (d.after calls) zs →
        Run.Everywhere exec (fun s c => ¬ c.Clamps owner spender s) (d.after calls) zs →
        (((run (d.after calls) zs).allowance owner spender).toNat : ℤ) =
          zs.foldl (fun z c => z + c.adjustment)
            (((d.after calls).allowance owner spender).toNat : ℤ) := by
      intro zs hz hzs hzn
      have hstep : ∀ (s : Store Key D.toItemKeys), ∀ c ∈ zs, Holds s →
          c.Succeeds s ∧ ¬ c.Clamps owner spender s →
          (((exec s c).allowance owner spender).toNat : ℤ) =
            ((s.allowance owner spender).toNat : ℤ) + c.adjustment :=
        fun s c hc ht hst => allowance_step ht hst.1 (hmem hz c hc) hst.2
      exact (hzs.and zs hzn).foldl_view (φ := fun s => ((s.allowance owner spender).toNat : ℤ))
        (f := fun z c => z + c.adjustment) hI zs hstep hholds
    have heq := h.foldl_comm h' (f := fun (z : ℤ) (c : Call Key) => z + c.adjustment)
      (fun z c c' => by omega) (((d.after calls).allowance owner spender).toNat : ℤ)
    apply BitVec.eq_of_toNat_eq
    have h1 := hadds h hs hn
    have h2 := hadds h' hs' hn'
    omega

section Plain

/-- Account 1 allows account 2 an amount of its plain token. -/
def allowing (amount : U256) : List (Call PlainKey) :=
  [Call.plain 1 .approve
    [(SPENDER, { asKey := some (.account 2) }), (AMOUNT, { asU256 := some amount })]]

/-- It lowers the allowance by 10 and raises it by 10. -/
def adjusting : List (Call PlainKey) :=
  [Call.plain 1 .decreaseAllowance
    [(SPENDER, { asKey := some (.account 2) }), (AMOUNT, { asU256 := some 10 })],
  Call.plain 1 .increaseAllowance
    [(SPENDER, { asKey := some (.account 2) }), (AMOUNT, { asU256 := some 10 })]]

/-- Account 2 spends 5 of it. -/
def spending : List (Call PlainKey) :=
  [Call.plain 2 .transferFrom [(OWNER, { asKey := some (.account 1) }),
    (RECIPIENT, { asKey := some (.account 3) }), (AMOUNT, { asU256 := some 5 })]]

theorem adjusting_adjusts : ∀ c ∈ adjusting, c.Adjusts (.account 1) (.account 2) := by
  intro c hc
  simp only [adjusting, List.mem_cons, List.not_mem_nil, or_false] at hc
  rcases hc with rfl | rfl
  · exact ⟨Or.inr rfl, rfl, rfl⟩
  · exact ⟨Or.inl rfl, rfl, rfl⟩

theorem spending_spends : ∀ c ∈ spending, c.Spends (.account 1) (.account 2) := by
  intro c hc
  simp only [spending, List.mem_singleton] at hc
  subst hc
  exact ⟨rfl, rfl, rfl⟩

theorem spending_first : Interleaving adjusting spending (spending ++ adjusting) :=
  .right (.left (.left .nil))

theorem spending_last : Interleaving adjusting spending (adjusting ++ spending) :=
  .left (.left (.right .nil))

/-- With an allowance of 20 nothing is clamped, and the orders agree. -/
theorem interleavings_agree_plain :
    (run (plainToken.after (allowing 20)) (spending ++ adjusting)).allowance (.account 1)
        (.account 2) =
      (run (plainToken.after (allowing 20)) (adjusting ++ spending)).allowance (.account 1)
        (.account 2) := by
  refine (interleavings_agree plainToken (allowing 20) adjusting_adjusts spending_spends
    spending_first spending_last ?_ ?_).2 ?_ ?_
  · exact ⟨by decide +kernel, by decide +kernel, by decide +kernel, trivial⟩
  · exact ⟨by decide +kernel, by decide +kernel, by decide +kernel, trivial⟩
  · exact ⟨by unfold Call.Clamps; decide +kernel, by unfold Call.Clamps; decide +kernel,
      by unfold Call.Clamps; decide +kernel, trivial⟩
  · exact ⟨by unfold Call.Clamps; decide +kernel, by unfold Call.Clamps; decide +kernel,
      by unfold Call.Clamps; decide +kernel, trivial⟩

/-- With an allowance of 8, lowering it by 10 is clamped at zero: spending first leaves an
allowance of 10, spending last one of 5. -/
theorem clamped_orders_differ :
    ¬ ∀ (d : Deployment PlainKey plainItems.toItemKeys) (calls : List (Call PlainKey))
      (owner spender : PlainKey) (adjustments spendings order order' : List (Call PlainKey)),
      owner ≠ spender → (∀ c ∈ adjustments, c.Adjusts owner spender) →
      (∀ c ∈ spendings, c.Spends owner spender) →
      Interleaving adjustments spendings order → Interleaving adjustments spendings order' →
      Run.Everywhere exec (fun s c => c.Succeeds s) (d.after calls) order →
      Run.Everywhere exec (fun s c => c.Succeeds s) (d.after calls) order' →
      (run (d.after calls) order).allowance owner spender =
          (run (d.after calls) order').allowance owner spender ∧
        ∀ k, (run (d.after calls) order).balance k = (run (d.after calls) order').balance k := by
  intro h
  have heq := (h plainToken (allowing 8) (.account 1) (.account 2) adjusting spending _ _
    (by decide) adjusting_adjusts spending_spends spending_first spending_last
    ⟨by decide +kernel, by decide +kernel, by decide +kernel, trivial⟩
    ⟨by decide +kernel, by decide +kernel, by decide +kernel, trivial⟩).1
  have hne : (run (plainToken.after (allowing 8)) (spending ++ adjusting)).allowance (.account 1)
      (.account 2) ≠ (run (plainToken.after (allowing 8)) (adjusting ++ spending)).allowance
        (.account 1) (.account 2) := by decide +kernel
  exact hne heq

end Plain

end Cep18
