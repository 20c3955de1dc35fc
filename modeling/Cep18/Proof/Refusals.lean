import Cep18.Proof.Answers

/-!
# Why calls are refused

`Store.refusal`: what an operation is refused for, read off the stored data, with no check for an
overflow but the one that a mint makes of the supply. In every state that an installed token
reaches, that is exactly why a call is refused that comes down to an operation; one that comes down
to none stops with what its checks say (`refused_iff`).
-/

namespace Cep18

open Program Constants Checked

variable {Key : Type} [CasperKey Key]

/-- **What an operation is refused for.** -/
def Store.refusal {D : ItemKeys Key} (s : Store Key D) : Op Key → Option Cep18Error
  | .query => none
  | .init => some .AlreadyInitialized
  | .approve owner spender _ | .decreaseAllowance owner spender _
  | .increaseAllowance owner spender _ =>
    if spender = owner then some .CannotTargetSelfUser else none
  | .transfer sender recipient amount =>
    if sender = recipient then some .CannotTargetSelfUser
    else if (s.balance sender).toNat < amount.toNat then some .InsufficientBalance
    else none
  | .transferFrom spender owner recipient amount =>
    if owner = recipient then some .CannotTargetSelfUser
    else if amount = 0 then none
    else if (s.allowance owner spender).toNat < amount.toNat then some .InsufficientAllowance
    else if (s.balance owner).toNat < amount.toNat then some .InsufficientBalance
    else none
  | .mint caller _ amount =>
    if s.enableMintBurn = 0 then some .MintBurnDisabled
    else if s.badge caller ≠ some .Admin ∧ s.badge caller ≠ some .Minter then
      some .InsufficientRights
    else if U256.MAX < s.totalSupply.toNat + amount.toNat then some .Overflow
    else none
  | .burn caller owner amount =>
    if s.enableMintBurn = 0 then some .MintBurnDisabled
    else if owner ≠ caller then some .InvalidBurnTarget
    else if (s.balance owner).toNat < amount.toNat then some .InsufficientBalance
    else none
  | .changeSecurity caller _ _ _ =>
    if s.enableMintBurn = 0 then some .MintBurnDisabled
    else if s.badge caller ≠ some .Admin then some .InsufficientRights
    else none

variable {D : DistinctItemKeys Key} {l : Layout} {T : Token Key} {s : Store Key D.toItemKeys}

/-- **A sound token refuses what its store says**, and nothing else. -/
theorem Rep.refusal (h : Rep l T s) (hT : T.Sound) (op : Op Key) :
    match s.refusal op with
    | some err => T.step op = .error err
    | none => ∃ T', T.step op = .ok T' := by
  cases op with
  | query => exact ⟨T, rfl⟩
  | init => rfl
  | approve owner spender amount =>
    simp only [Store.refusal, Token.step]
    split_ifs with hne
    · rfl
    · exact ⟨_, rfl⟩
  | decreaseAllowance owner spender amount =>
    simp only [Store.refusal, Token.step]
    split_ifs with hne
    · rfl
    · exact ⟨_, rfl⟩
  | increaseAllowance owner spender amount =>
    simp only [Store.refusal, Token.step]
    split_ifs with hne
    · rfl
    · exact ⟨_, rfl⟩
  | transfer sender recipient amount =>
    simp only [Store.refusal, Token.step, h.balance]
    split_ifs with hne hbal hmax
    · rfl
    · rfl
    · -- what the sender holds fits on top of what the recipient holds
      have := hT.fits hne (Nat.le_of_not_lt hbal)
      omega
    · exact ⟨_, rfl⟩
  | transferFrom spender owner recipient amount =>
    simp only [Store.refusal, hT.step_transferFrom, h.allowance, h.balance]
    split_ifs with hne h0 hall hbal
    · rfl
    · exact ⟨_, rfl⟩
    · rfl
    · rfl
    · exact ⟨_, rfl⟩
  | mint caller owner amount =>
    have hle := hT.backed.le owner
    simp only [Store.refusal, Token.step, h.enableMintBurn, h.badge, h.totalSupply]
    split_ifs with hflag hbadge hsup hbal hbal
    · rfl
    · rfl
    · rfl
    · rfl
    · -- a balance is part of the supply
      omega
    · exact ⟨_, rfl⟩
  | burn caller owner amount =>
    have hle := hT.backed.le owner
    simp only [Store.refusal, Token.step, h.enableMintBurn, h.balance]
    split_ifs with hflag hne hbal hsup
    · rfl
    · rfl
    · rfl
    · omega
    · exact ⟨_, rfl⟩
  | changeSecurity caller admins minters nones =>
    simp only [Store.refusal, Token.step, h.enableMintBurn, h.badge]
    split_ifs with hflag hbadge
    · rfl
    · rfl
    · exact ⟨_, rfl⟩

/-- **A call that comes down to an operation** stops with what the operation is refused for. -/
theorem Rep.refused_of_some (h : Rep l T s) (hT : T.Sound) {c : Call Key} {op : Op Key}
    (hop : c.op? = some op) (err : Cep18Error) :
    answer c.program s = .error err.toApi ↔ s.refusal op = some err := by
  have hends := h.ends hop
  have hwhy := h.refusal hT op
  cases hs : s.refusal op with
  | some err' =>
    rw [hs] at hwhy
    rw [show T.step op = .error err' from hwhy] at hends
    rw [show answer c.program s = .error err'.toApi from hends]
    constructor
    · intro he
      rw [Cep18Error.toApi_inj (Except.error.inj he)]
    · intro he
      rw [Option.some.inj he]
  | none =>
    rw [hs] at hwhy
    obtain ⟨T', hstep⟩ := hwhy
    rw [hstep] at hends
    obtain ⟨v, -, hv⟩ := hends
    rw [hv]
    constructor
    · intro he; cases he
    · intro he; cases he

/-- **A call that comes down to no operation** stops with what its checks say. -/
theorem Rep.refused_of_none (h : Rep l T s) {c : Call Key} (hop : c.op? = none) (e : ApiError) :
    answer c.program s = .error e ↔ c.admission s.enableMintBurn s.badge = .error e := by
  obtain ⟨e', hchecks, hstops⟩ := h.stops_of_none hop
  have hbadges : s.badge = T.badges := funext h.badge
  rw [h.enableMintBurn, hbadges, hchecks, answer_of_error hstops]
  constructor
  · intro he; cases he; rfl
  · intro he; cases he; rfl

/-- **Why calls are refused.** In every state that an installed token reaches,

* a call goes through exactly if it comes down to an operation that the stored data gives no reason
  to refuse;
* a call that comes down to an operation stops with an error of the contract exactly if that is the
  reason there is;
* a call that comes down to none, for want of a caller or of an argument, stops with what its
  checks say of the flag, of its caller's badge and of its arguments. -/
theorem refused_iff (d : Deployment Key D.toItemKeys) (calls : List (Call Key)) (c : Call Key) :
    (c.Succeeds (d.after calls) ↔
        ∃ op, c.op? = some op ∧ (d.after calls).refusal op = none) ∧
      (∀ op, c.op? = some op → ∀ err : Cep18Error,
        answer c.program (d.after calls) = .error err.toApi ↔
          (d.after calls).refusal op = some err) ∧
      (c.op? = none → ∀ e : ApiError, answer c.program (d.after calls) = .error e ↔
        c.admission (d.after calls).enableMintBurn (d.after calls).badge = .error e) := by
  obtain ⟨l, T, hr, hT⟩ := d.holds_after calls
  refine ⟨?_, fun op hop err => hr.refused_of_some hT hop err,
    fun hop e => hr.refused_of_none hop e⟩
  have hrefusal := hr.refusal hT
  rw [succeeds_iff hr]
  constructor
  · rintro ⟨op, T', hop, hstep⟩
    refine ⟨op, hop, ?_⟩
    have hno := hrefusal op
    cases hs : (d.after calls).refusal op with
    | none => rfl
    | some err =>
      rw [hs] at hno
      rw [show T.step op = .error err from hno] at hstep
      cases hstep
  · rintro ⟨op, hop, hnone⟩
    have hyes := hrefusal op
    rw [hnone] at hyes
    obtain ⟨T', hstep⟩ := hyes
    exact ⟨op, T', hop, hstep⟩

end Cep18
