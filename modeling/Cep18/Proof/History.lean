import Cep18.Proof.Supply
import Cep18.Spec.Security

/-!
# What is stored is what was called

Every entry of an installed token is told by its successful calls, in order, and by those alone
that concern it.

* `balance_explained`: a balance is what it started with and received, less what was paid.
* `allowance_explained`: an allowance is what the calls between the two keys have made of it.
* `badge_explained`: a badge is the last that was given.
-/

namespace Cep18

open Program Constants Checked

variable {Key : Type} [CasperKey Key]

/-! ### What a successful call says -/

/-- The calls of a run that succeed. -/
def Deployment.successful {D : ItemKeys Key} (d : Deployment Key D) (calls : List (Call Key)) :
    List (Call Key) := Run.taken exec (fun s c => c.Succeeds s) d.store calls

/-- What a key receives from a call. -/
def Call.received (k : Key) (c : Call Key) : ℕ :=
  match c.entryPoint with
  | .transfer | .transferFrom =>
    if c.env.arg? Key RECIPIENT = some k then c.amount.toNat else 0
  | .mint => if c.env.arg? Key OWNER = some k then c.amount.toNat else 0
  | _ => 0

/-- What a key pays for a call. -/
def Call.paid (k : Key) (c : Call Key) : ℕ :=
  match c.entryPoint with
  | .transfer => if c.env.callerIdentity = some k then c.amount.toNat else 0
  | .transferFrom | .burn => if c.env.arg? Key OWNER = some k then c.amount.toNat else 0
  | _ => 0

/-- What a call makes of the allowance `n` of a pair. -/
def Call.adjusted (owner spender : Key) (n : ℕ) (c : Call Key) : ℕ :=
  match c.entryPoint with
  | .approve =>
    if c.env.callerIdentity = some owner ∧ c.env.arg? Key SPENDER = some spender then c.amount.toNat
    else n
  | .increaseAllowance =>
    if c.env.callerIdentity = some owner ∧ c.env.arg? Key SPENDER = some spender then
      min (n + c.amount.toNat) U256.MAX
    else n
  | .decreaseAllowance =>
    if c.env.callerIdentity = some owner ∧ c.env.arg? Key SPENDER = some spender then
      n - c.amount.toNat
    else n
  | .transferFrom =>
    if c.env.arg? Key OWNER = some owner ∧ c.env.callerIdentity = some spender then
      n - c.amount.toNat
    else n
  | _ => n

/-- The badge that a call gives to a key. -/
def Call.badgeGiven (k : Key) (c : Call Key) : Option SecurityBadge := do
  let caller ← c.env.callerIdentity
  if c.entryPoint = .changeSecurity then
    badgeChange caller (c.env.arg? (List Key) ADMIN_LIST) (c.env.arg? (List Key) MINTER_LIST)
      (c.env.arg? (List Key) NONE_LIST) k
  else none

/-! ### One call -/

section Steps

variable {D : DistinctItemKeys Key} {s : Store Key D.toItemKeys} {c : Call Key}

/-- **A successful call** moves a balance by what is received and paid. -/
theorem balance_told (h : Holds s) (hs : c.Succeeds s) (k : Key) :
    ((exec s c).balance k).toNat + c.paid k = (s.balance k).toNat + c.received k := by
  obtain ⟨l, T, hr, -⟩ := h
  rcases call_cases hr c with ⟨hfails, -⟩ | ⟨op, -, -, hd, ht, hr'⟩
  · exact absurd hs hfails
  generalize T.exec c.op? = T' at ht hr'
  rw [hr.balance, hr'.balance]
  unfold Call.paid Call.received
  cases ht with
  | query =>
    simp only [Call.Describes, List.mem_cons, List.not_mem_nil, or_false] at hd
    rcases hd with he | he | he | he | he | he <;> simp [he]
  | @transfer sender recipient amount hne hbalance hmax =>
    obtain ⟨he, h1, h2, h3⟩ := hd
    simp only [he, h1, h2, Call.amount_eq h3, Option.some.injEq, Token.record_toLedger,
      Token.withLedger_toLedger, Ledger.move_balances hne, eq_comm (a := k)]
    split_ifs <;> subst_vars <;> first | omega | contradiction
  | @transferNothing spender owner recipient hne =>
    obtain ⟨he, h1, h2, h3, h4⟩ := hd
    simp [he, Call.amount_eq h4]
  | @transferFrom spender owner recipient amount hne hpos hallowance hbalance hmax =>
    obtain ⟨he, h1, h2, h3, h4⟩ := hd
    simp only [he, h2, h3, Call.amount_eq h4, Option.some.injEq, Token.record_toLedger,
      Token.withLedger_toLedger, Ledger.setAllowance_balances, Ledger.move_balances hne,
      eq_comm (a := k)]
    split_ifs <;> subst_vars <;> first | omega | contradiction
  | @mint caller owner amount hflag hbadge hbalance hsupply =>
    obtain ⟨he, h1, h2, h3⟩ := hd
    simp only [he, h2, Call.amount_eq h3, Option.some.injEq, Token.record_toLedger,
      Token.withLedger_toLedger, Ledger.issue_balances, eq_comm (a := k)]
    split_ifs <;> subst_vars <;> omega
  | @burn owner amount hflag hbalance hsupply =>
    obtain ⟨he, h1, h2, h3⟩ := hd
    simp only [he, h1, Call.amount_eq h3, Option.some.injEq, Token.record_toLedger,
      Token.withLedger_toLedger, Ledger.retire_balances, eq_comm (a := k)]
    split_ifs <;> subst_vars <;> omega
  | _ => simp [hd.1]

/-- A successful call makes of an allowance what it says. -/
theorem allowance_told (h : Holds s) (hs : c.Succeeds s) (owner spender : Key) :
    ((exec s c).allowance owner spender).toNat =
      c.adjusted owner spender (s.allowance owner spender).toNat := by
  obtain ⟨l, T, hr, -⟩ := h
  rcases call_cases hr c with ⟨hfails, -⟩ | ⟨op, -, -, hd, ht, hr'⟩
  · exact absurd hs hfails
  generalize T.exec c.op? = T' at ht hr'
  rw [hr.allowance, hr'.allowance]
  unfold Call.adjusted
  cases ht with
  | query =>
    simp only [Call.Describes, List.mem_cons, List.not_mem_nil, or_false] at hd
    rcases hd with he | he | he | he | he | he <;> simp [he]
  | @transferNothing sp o recipient hne =>
    obtain ⟨he, h1, h2, h3, h4⟩ := hd
    simp [he, Call.amount_eq h4]
  | @transferFrom sp o recipient amount hne hpos hallowance hbalance hmax =>
    obtain ⟨he, h1, h2, h3, h4⟩ := hd
    simp only [he, h1, h3, Call.amount_eq h4, Option.some.injEq, Token.record_toLedger,
      Token.withLedger_toLedger, Ledger.setAllowance_allowances, Ledger.move_allowances,
      eq_comm (a := owner), eq_comm (a := spender)]
    split_ifs with hpair
    · rw [hpair.1, hpair.2]
    · rfl
  | transfer hne hbalance hmax => simp [hd.1]
  | mint hflag hbadge hbalance hsupply => simp [hd.1]
  | burn hflag hbalance hsupply => simp [hd.1]
  | changeSecurity hflag hbadge => simp [hd.1]
  | approve hne =>
    obtain ⟨he, h1, h2, h3⟩ := hd
    simp only [he, h1, h2, Call.amount_eq h3, Option.some.injEq, Token.record_toLedger,
      Token.withLedger_toLedger, Ledger.setAllowance_allowances, eq_comm (a := owner),
      eq_comm (a := spender)]
  | _ hne =>
    -- an adjustment, either way
    obtain ⟨he, h1, h2, h3⟩ := hd
    simp only [he, h1, h2, Call.amount_eq h3, Option.some.injEq, Token.record_toLedger,
      Token.withLedger_toLedger, Ledger.setAllowance_allowances, eq_comm (a := owner),
      eq_comm (a := spender)]
    split_ifs with hpair
    · rw [hpair.1, hpair.2]
    · rfl

/-- A successful call gives the badge that it says, if any. -/
theorem badge_told (h : Holds s) (hs : c.Succeeds s) (k : Key) :
    (exec s c).badge k = (c.badgeGiven k).or (s.badge k) := by
  obtain ⟨l, T, hr, -⟩ := h
  rcases call_cases hr c with ⟨hfails, -⟩ | ⟨op, -, -, hd, ht, hr'⟩
  · exact absurd hs hfails
  generalize T.exec c.op? = T' at ht hr'
  rw [hr.badge, hr'.badge]
  have hother : c.entryPoint ≠ .changeSecurity → c.badgeGiven k = none := by
    intro hne
    unfold Call.badgeGiven
    cases c.env.callerIdentity with
    | none => rfl
    | some caller => exact if_neg hne
  cases ht with
  | query =>
    rw [hother fun he => by simp [Call.Describes, he] at hd]
    rfl
  | @changeSecurity caller admins minters nones hflag hbadge =>
    obtain ⟨he, h1, h2, h3, h4⟩ := hd
    have hgiven : c.badgeGiven k = badgeChange caller admins minters nones k := by
      unfold Call.badgeGiven
      rw [h1, Env.arg?_of_optArg? h2, Env.arg?_of_optArg? h3, Env.arg?_of_optArg? h4]
      exact if_pos he
    rw [hgiven, Token.record_badges, Token.setBadges_badges, Token.secChangeMap_get]
  | _ =>
    rw [hother (by rw [hd.1]; decide)]
    rfl

end Steps

/-! ### Runs -/

variable {D : DistinctItemKeys Key}

/-- From a store that holds a token, successful calls account for what becomes of a balance. -/
theorem balance_run {s : Store Key D.toItemKeys} (h : Holds s) (calls : List (Call Key)) (k : Key) :
    ((run s calls).balance k).toNat +
        ((Run.taken exec (fun s c => c.Succeeds s) s calls).map (Call.paid k)).sum =
      (s.balance k).toNat +
        ((Run.taken exec (fun s c => c.Succeeds s) s calls).map (Call.received k)).sum := by
  refine Run.foldl_taken_balance (φ := fun s => (s.balance k).toNat) (I := Holds)
    (fun s c hs => hs.exec c) (fun s c hh hs => balance_told hh hs k) (fun s c _ hs => ?_) calls h
  show ((exec s c).balance k).toNat = _
  rw [exec_of_not_succeeds hs]

/-- **Where a balance comes from**: with all that its key has paid in successful calls, it is all
that the key has received, and the installed supply if the key is the installer's. -/
theorem balance_explained (d : Deployment Key D.toItemKeys) (calls : List (Call Key)) (k : Key) :
    ((d.after calls).balance k).toNat + ((d.successful calls).map (Call.paid k)).sum =
      (if k = ofAccount d.env.caller then d.store.totalSupply.toNat else 0) +
        ((d.successful calls).map (Call.received k)).sum := by
  have hstart : (d.store.balance k).toNat =
      if k = ofAccount d.env.caller then d.store.totalSupply.toNat else 0 := by
    obtain ⟨config, l, hc, hr⟩ := d.rep
    rw [hr.balance, hr.totalSupply, ← (Env.gives_of_config? hc).installer]
    show Function.update (fun _ => 0) config.installer config.totalSupply.toNat k = _
    rw [Function.update_apply]
    rfl
  rw [← hstart]
  exact balance_run d.holds calls k

/-- **Where an allowance comes from**: it is what the successful calls of its owner and its spender
have made of it, one after the other. -/
theorem allowance_explained (d : Deployment Key D.toItemKeys) (calls : List (Call Key))
    (owner spender : Key) : ((d.after calls).allowance owner spender).toNat =
      (d.successful calls).foldl (Call.adjusted owner spender) 0 := by
  have hstart : (d.store.allowance owner spender).toNat = 0 := by
    obtain ⟨config, l, -, hr⟩ := d.rep
    rw [hr.allowance]
    rfl
  rw [← hstart]
  refine Run.foldl_taken (φ := fun s => (s.allowance owner spender).toNat) (I := Holds)
    (fun s c hs => hs.exec c) (fun s c hh hs => allowance_told hh hs owner spender)
    (fun s c _ hs => ?_) calls d.holds
  show ((exec s c).allowance owner spender).toNat = _
  rw [exec_of_not_succeeds hs]

/-- **Where a badge comes from**: it is the last that a successful change of security has given to
the key, or else the one that its installation gave it. -/
theorem badge_explained (d : Deployment Key D.toItemKeys) (calls : List (Call Key)) (k : Key) :
    (d.after calls).badge k =
      ((d.successful calls).filterMap (Call.badgeGiven k)).getLast?.or (d.store.badge k) := by
  rw [← Run.foldl_or]
  refine Run.foldl_taken (φ := fun s => s.badge k) (I := Holds) (fun s c hs => hs.exec c)
    (fun s c hh hs => badge_told hh hs k) (fun s c _ hs => ?_) calls d.holds
  show (exec s c).badge k = _
  rw [exec_of_not_succeeds hs]

end Cep18
