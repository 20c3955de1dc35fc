import Cep18.Lib.Interleave
import Cep18.Lib.Simulate
import Cep18.Spec.Entries

/-!
# Circles of keys

Who deals with whom: a call is *among* the keys of a set if it names no other. Two tokens are
*the same for* a set of keys if nothing that is about these keys alone tells them apart; how they
keep their log is not looked at.

* `Token.SameFor.step`: an operation among the keys of the set goes the same way in both, and
  leaves them the same.
* `Token.Takes.sameFor`: an operation among other keys leaves a token the same for the set, unless
  it changes the supply.
-/

namespace Cep18

open Constants Program

variable {A : Type} [LinearOrder A]

/-! ### Operations -/

/-- The operation names keys in `K` only. -/
def Op.Among (K : Set A) : Op A → Prop
  | .query | .init => True
  | .approve owner spender _ | .decreaseAllowance owner spender _
  | .increaseAllowance owner spender _ => owner ∈ K ∧ spender ∈ K
  | .transfer sender recipient _ => sender ∈ K ∧ recipient ∈ K
  | .transferFrom spender owner recipient _ => spender ∈ K ∧ owner ∈ K ∧ recipient ∈ K
  | .mint caller owner _ | .burn caller owner _ => caller ∈ K ∧ owner ∈ K
  | .changeSecurity caller adminList minterList noneList =>
    caller ∈ K ∧ ∀ k ∈ adminList.getD [] ++ minterList.getD [] ++ noneList.getD [], k ∈ K

/-- The operation changes the total supply. -/
def Op.MovesSupply : Op A → Prop
  | .mint _ _ _ | .burn _ _ _ => True
  | _ => False

omit [LinearOrder A] in
/-- Whoever an operation concerns is named by it. -/
theorem Op.Among.concerns {K : Set A} {op : Op A} (h : op.Among K) :
    (∀ a ∈ op.holders, a ∈ K) ∧ (∀ p ∈ op.pairs, p.1 ∈ K) ∧ ∀ a ∈ op.listed, a ∈ K := by
  cases op with
  | query => simp [Op.holders, Op.pairs, Op.listed]
  | init => simp [Op.holders, Op.pairs, Op.listed]
  | changeSecurity caller admins minters nones =>
    simp only [Op.holders, Op.pairs, Op.listed, List.not_mem_nil, false_imp_iff, implies_true,
      true_and]
    exact h.2
  | _ => simp_all [Op.Among, Op.holders, Op.pairs, Op.listed]

namespace Token

/-- **The same for the keys in `K`.** -/
structure SameFor (K : Set A) (T T' : Token A) : Prop where
  ledger : Ledger.AgreeOn K T.toLedger T'.toLedger
  badges : ∀ a ∈ K, T.badges a = T'.badges a
  name : T.name = T'.name
  symbol : T.symbol = T'.symbol
  decimals : T.decimals = T'.decimals
  enableMintBurn : T.enableMintBurn = T'.enableMintBurn

variable {K : Set A} {T T' U : Token A} {op : Op A}

/-- Two outcomes of an operation that are the same for the keys in `K`. -/
def SameOutcome (K : Set A) : Except Cep18Error (Token A) → Except Cep18Error (Token A) → Prop
  | .ok T, .ok T' => SameFor K T T'
  | .error e, .error e' => e = e'
  | _, _ => False

theorem SameFor.refl (T : Token A) : SameFor K T T :=
  ⟨⟨fun _ _ => rfl, fun _ _ _ _ => rfl, rfl⟩, fun _ _ => rfl, rfl, rfl, rfl, rfl⟩

theorem SameFor.trans (h : SameFor K T T') (h' : SameFor K T' U) : SameFor K T U where
  ledger := {
    balances := fun a ha => (h.ledger.balances a ha).trans (h'.ledger.balances a ha)
    allowances := fun o ho s hs =>
      (h.ledger.allowances o ho s hs).trans (h'.ledger.allowances o ho s hs)
    totalSupply := h.ledger.totalSupply.trans h'.ledger.totalSupply }
  badges := fun a ha => (h.badges a ha).trans (h'.badges a ha)
  name := h.name.trans h'.name
  symbol := h.symbol.trans h'.symbol
  decimals := h.decimals.trans h'.decimals
  enableMintBurn := h.enableMintBurn.trans h'.enableMintBurn

/-- Ledgers that agree in place of the old ones, and an event each. -/
theorem SameFor.withLedger (h : SameFor K T T') {L L' : Ledger A} (hL : Ledger.AgreeOn K L L')
    (e e' : Event A) : SameFor K ((T.withLedger L).record e) ((T'.withLedger L').record e') :=
  ⟨hL, h.badges, h.name, h.symbol, h.decimals, h.enableMintBurn⟩

theorem SameFor.setBadges (h : SameFor K T T') (changes : BTreeMap A SecurityBadge)
    (e e' : Event A) :
    SameFor K ((T.setBadges changes).record e) ((T'.setBadges changes).record e') := by
  refine ⟨h.ledger, fun a ha => ?_, h.name, h.symbol, h.decimals, h.enableMintBurn⟩
  simp only [record_badges, setBadges_badges, h.badges a ha]

/-- **What is done among the keys of `K`** goes the same way in both tokens. -/
theorem SameFor.step (h : SameFor K T T') (hop : op.Among K) :
    SameOutcome K (T.step op) (T'.step op) := by
  have hL := h.ledger
  cases op with
  | query => exact h
  | init => rfl
  | approve owner spender amount =>
    simp only [Token.step]
    split_ifs with hne
    · rfl
    · exact h.withLedger (hL.setAllowance _ _ _) _ _
  | decreaseAllowance owner spender amount =>
    simp only [Token.step, hL.allowances owner hop.1 spender hop.2]
    split_ifs with hne
    · rfl
    · exact h.withLedger (hL.setAllowance _ _ _) _ _
  | increaseAllowance owner spender amount =>
    simp only [Token.step, hL.allowances owner hop.1 spender hop.2]
    split_ifs with hne
    · rfl
    · exact h.withLedger (hL.setAllowance _ _ _) _ _
  | transfer sender recipient amount =>
    simp only [Token.step, hL.balances sender hop.1, hL.balances recipient hop.2]
    split_ifs with hne hbal hmax
    · rfl
    · rfl
    · rfl
    · exact h.withLedger (hL.move hop.1 hop.2 _) _ _
  | transferFrom spender owner recipient amount =>
    obtain ⟨hs, ho, hr⟩ := hop
    simp only [Token.step, hL.allowances owner ho spender hs, hL.balances owner ho,
      hL.balances recipient hr]
    split_ifs with hne h0 hall hbal hmax
    · rfl
    · exact h
    · rfl
    · rfl
    · rfl
    · exact h.withLedger ((hL.move ho hr _).setAllowance _ _ _) _ _
  | mint caller owner amount =>
    simp only [Token.step, h.enableMintBurn, h.badges caller hop.1, hL.balances owner hop.2,
      hL.totalSupply]
    split_ifs with hflag hbadge hbal hsup
    · rfl
    · rfl
    · rfl
    · rfl
    · exact h.withLedger (hL.issue hop.2 _) _ _
  | burn caller owner amount =>
    simp only [Token.step, h.enableMintBurn, hL.balances owner hop.2, hL.totalSupply]
    split_ifs with hflag hne hbal hsup
    · rfl
    · rfl
    · rfl
    · rfl
    · exact h.withLedger (hL.retire hop.2 _) _ _
  | changeSecurity caller admins minters nones =>
    simp only [Token.step, h.enableMintBurn, h.badges caller hop.1]
    split_ifs with hflag hbadge
    · rfl
    · rfl
    · exact h.setBadges _ _ _

/-- **What is done among other keys** leaves the token the same for `K`. -/
theorem Takes.sameFor (h : T.Takes op T') (hop : op.Among Kᶜ) (hsupply : ¬ op.MovesSupply) :
    SameFor K T' T := by
  obtain ⟨hholders, hpairs, hlisted⟩ := hop.concerns
  obtain ⟨hname, hsymbol, hdecimals, hflag, -⟩ := h.same_settings
  have htotal : T'.totalSupply = T.totalSupply := by
    cases h with
    | mint hflag hbadge hbalance hsum => exact absurd trivial hsupply
    | burn hflag hbalance hsum => exact absurd trivial hsupply
    | _ => rfl
  refine ⟨⟨fun a ha => ?_, fun o ho s _ => ?_, htotal⟩, fun a ha => ?_, hname, hsymbol, hdecimals,
    hflag⟩
  · exact h.balance_eq fun hm => hholders a hm ha
  · exact h.allowance_eq fun hm => hpairs (o, s) hm ho
  · exact h.badge_eq fun hm => hlisted a hm ha

/-! ### Effects -/

/-- Two tokens that are the same stay so under what is done among the keys of `K`. -/
theorem SameFor.exec_both (h : SameFor K T T') {o : Option (Op A)}
    (ho : ∀ op, o = some op → op.Among K) : SameFor K (T.exec o) (T'.exec o) := by
  cases o with
  | none => exact h
  | some op =>
    have hs := h.step (ho op rfl)
    cases hT : T.step op with
    | ok U =>
      cases hT' : T'.step op with
      | ok U' =>
        rw [hT, hT'] at hs
        simp only [exec, hT, hT']
        exact hs
      | error e' => rw [hT, hT'] at hs; exact hs.elim
    | error e =>
      cases hT' : T'.step op with
      | ok U' => rw [hT, hT'] at hs; exact hs.elim
      | error e' => simp only [exec, hT, hT']; exact h

/-- What is done among other keys in one of two tokens that are the same leaves them so. -/
theorem SameFor.exec_left (h : SameFor K T T') {o : Option (Op A)}
    (ho : ∀ op, o = some op → op.Among Kᶜ ∧ ¬ op.MovesSupply) : SameFor K (T.exec o) T' := by
  rcases T.exec_cases o with ⟨he, -⟩ | ⟨op, hop, -, ht⟩
  · rw [he]; exact h
  · obtain ⟨hamong, hsupply⟩ := ho op hop
    exact (ht.sameFor hamong hsupply).trans h

end Token

/-! ### Calls and stores -/

variable {Key : Type} [CasperKey Key] {D : ItemKeys Key}

/-- **The call names keys in `K` only**: those of its caller and among its arguments. -/
structure Call.Among (K : Set Key) (c : Call Key) : Prop where
  caller : ∀ k, c.env.callerIdentity = some k → k ∈ K
  key : ∀ name k, c.env.arg? Key name = some k → k ∈ K
  keys : ∀ name list, c.env.arg? (List Key) name = some list → ∀ k ∈ list, k ∈ K

/-- **Nothing that is about keys in `K` alone tells the two stores apart**: calls among these keys
are answered the same, whether they return or stop; and what is stored about these keys is the
same. -/
structure Store.AlikeFor (K : Set Key) (s s' : Store Key D) : Prop where
  answered : ∀ c : Call Key, c.Among K → answer c.program s = answer c.program s'
  balance : ∀ k ∈ K, s.balance k = s'.balance k
  allowance : ∀ owner ∈ K, ∀ spender ∈ K, s.allowance owner spender = s'.allowance owner spender
  badge : ∀ k ∈ K, s.badge k = s'.badge k

end Cep18
