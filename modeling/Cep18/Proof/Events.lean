import Cep18.Lib.Run
import Cep18.Model.Reference
import Cep18.Proof.Supply
import Cep18.Spec.Replay

/-!
# The event log

For a token installed in CES mode:

* `log_replays`: replaying the log from an empty ledger never underflows and gives the
  contract's balances, supply and allowances; replaying it on the badges `init` left
  gives its badges.
* `log_complete_iff`: the log holds one event for the installation and one for each
  successful mutating call, exactly if no successful `transfer_from` was for nothing.
  Such a call returns early and leaves no trace.
-/

namespace Cep18

open Program Constants

variable {Key : Type} [CasperKey Key]

/-! ### Replaying -/

section Replay

variable {D : DistinctItemKeys Key}

theorem Env.config?_ces {env : Env Key} {name : String} {c : Config Key}
    (h : env.config? name = some c) (hces : env.arg? UInt8 EVENTS_MODE = some 1) :
    c.eventsMode = .CES := by
  obtain ⟨m, hm, hmode⟩ := (Env.gives_of_config? h).eventsMode
  rw [Env.arg?_of_optArg? hm] at hces
  rw [hces] at hmode
  exact (Except.ok.inj hmode).symm

/-- A token that keeps a log is one whose log tells its story, in every state it reaches. -/
theorem Deployment.told (d : Deployment Key D.toItemKeys)
    (hces : d.env.arg? UInt8 EVENTS_MODE = some 1) (calls : List (Call Key)) :
    ∃ l T, Rep l T (d.after calls) ∧ T.Sound ∧ T.Told d.store.badge := by
  obtain ⟨c, l, hc, hr⟩ := d.rep
  have hb : d.store.badge = c.token.badges := funext hr.badge
  have hexec : ∀ (T : Token Key) (o : Option (Op Key)), T.Sound ∧ T.Told d.store.badge →
      (T.exec o).Sound ∧ (T.exec o).Told d.store.badge :=
    fun T o hT => ⟨hT.1.exec o, hT.2.exec hT.1 o⟩
  exact ⟨l, _, run_rep hr calls, Run.foldl_invariant hexec (calls.map Call.op?)
    ⟨c.sound, hb ▸ c.told (Env.config?_ces hc hces)⟩⟩

/-- **The event log reconstructs the ledger**, after any run. -/
theorem log_replays (d : Deployment Key D.toItemKeys)
    (hces : d.env.arg? UInt8 EVENTS_MODE = some 1) (calls : List (Call Key)) :
    (∃ L, replay Ledger.empty (d.after calls).log = some L ∧
      (∀ k, L.balances k = ((d.after calls).balance k).toNat) ∧
      L.totalSupply = (d.after calls).totalSupply.toNat ∧
      ∀ o sp, L.allowances o sp = ((d.after calls).allowance o sp).toNat) ∧
      replayBadges d.store.badge (d.after calls).log = (d.after calls).badge := by
  obtain ⟨l, T, hr, -, hT⟩ := d.told hces calls
  have hlog : (d.after calls).log = T.log := hr.log hT.mode
  have hbadge : (d.after calls).badge = T.badges := funext hr.badge
  rw [hlog, hbadge]
  refine ⟨⟨T.toLedger, hT.ledger, ?_, ?_, ?_⟩, hT.badges⟩
  · intro k; exact (hr.balance k).symm
  · exact hr.totalSupply.symm
  · intro o sp; exact (hr.allowance o sp).symm

/-- Account 1 approves an allowance, part of it is spent, and account 2 becomes a Minter. -/
def telling : List (Call PlainKey) :=
  [Call.plain 1 .approve
    [(SPENDER, { asKey := some (.account 2) }), (AMOUNT, { asU256 := some 7 })],
  Call.plain 2 .transferFrom [(OWNER, { asKey := some (.account 1) }),
    (RECIPIENT, { asKey := some (.account 3) }), (AMOUNT, { asU256 := some 5 })],
  Call.plain 1 .changeSecurity [(MINTER_LIST, { asKeys := some [.account 2] })]]

/-- The log of a plain token tells all of it. -/
theorem log_replays_plain :
    (∃ L, replay Ledger.empty (plainToken.after telling).log = some L ∧
      (∀ k, L.balances k = ((plainToken.after telling).balance k).toNat) ∧
      L.totalSupply = (plainToken.after telling).totalSupply.toNat ∧
      ∀ o sp, L.allowances o sp = ((plainToken.after telling).allowance o sp).toNat) ∧
      replayBadges plainToken.store.badge (plainToken.after telling).log =
        (plainToken.after telling).badge ∧
      (plainToken.after telling).balance (.account 3) = 5 ∧
      (plainToken.after telling).badge (.account 2) = some .Minter := by
  obtain ⟨hledger, hbadges⟩ := log_replays plainToken (by decide +kernel) telling
  exact ⟨hledger, hbadges, by decide +kernel, by decide +kernel⟩

end Replay

/-! ### One event for each call -/

section Expected

variable {D : ItemKeys Key}

/-- The event a successful mutating call is to be recorded by: of the kind of its entry point,
filled in with its caller, its arguments and, for an adjusted allowance, the new value. -/
def Call.expected (s : Store Key D) (c : Call Key) : Option (Event Key) :=
  if c.Succeeds s then
    match c.entryPoint with
    | .approve => do
      let owner ← c.env.callerIdentity
      let spender ← c.env.arg? Key SPENDER
      some (.SetAllowance owner spender c.amount)
    | .decreaseAllowance => do
      let owner ← c.env.callerIdentity
      let spender ← c.env.arg? Key SPENDER
      some (.DecreaseAllowance owner spender ((exec s c).allowance owner spender) c.amount)
    | .increaseAllowance => do
      let owner ← c.env.callerIdentity
      let spender ← c.env.arg? Key SPENDER
      some (.IncreaseAllowance owner spender ((exec s c).allowance owner spender) c.amount)
    | .transfer => do
      let sender ← c.env.callerIdentity
      let recipient ← c.env.arg? Key RECIPIENT
      some (.Transfer sender recipient c.amount)
    | .transferFrom => do
      let spender ← c.env.callerIdentity
      let owner ← c.env.arg? Key OWNER
      let recipient ← c.env.arg? Key RECIPIENT
      some (.TransferFrom spender owner recipient c.amount)
    | .mint => do
      let owner ← c.env.arg? Key OWNER
      some (.Mint owner c.amount)
    | .burn => do
      let owner ← c.env.arg? Key OWNER
      some (.Burn owner c.amount)
    | .changeSecurity => do
      let caller ← c.env.callerIdentity
      some (.ChangeSecurity caller (Token.secChangeMap caller (c.env.arg? (List Key) ADMIN_LIST)
        (c.env.arg? (List Key) MINTER_LIST) (c.env.arg? (List Key) NONE_LIST)))
    | _ => none
  else none

/-- A successful `transfer_from` for nothing. -/
def Call.Idle (s : Store Key D) (c : Call Key) : Prop :=
  c.entryPoint = .transferFrom ∧ c.Succeeds s ∧ c.amount = 0

instance (s : Store Key D) (c : Call Key) : Decidable (c.Idle s) :=
  inferInstanceAs (Decidable (_ ∧ _ ∧ _))

/-- The events a call does record. -/
def Call.recorded (s : Store Key D) (c : Call Key) : List (Event Key) :=
  if c.Idle s then [] else (c.expected s).toList

end Expected

variable {D : DistinctItemKeys Key} {s : Store Key D.toItemKeys}

/-- What the operation of a successful call records is what the call records. -/
theorem recorded_eq {l : Layout} {T' : Token Key} {op : Op Key} {c : Call Key}
    (hs : c.Succeeds s) (hd : c.Describes op) (hr : Rep l T' (exec s c)) :
    (op.event T').toList = c.recorded s := by
  have hallowance : ∀ o sp, BitVec.ofNat 256 (T'.allowances o sp) = (exec s c).allowance o sp :=
    fun o sp => ofNat_of_toNat_eq (hr.allowance o sp)
  unfold Call.recorded Call.Idle Call.expected
  rw [if_pos hs]
  cases op with
  | query =>
    simp only [Call.Describes, List.mem_cons, List.not_mem_nil, or_false] at hd
    rcases hd with he | he | he | he | he | he <;> simp [he, Op.event]
  | init =>
    simp only [Call.Describes] at hd
    simp [hd, Op.event]
  | transferFrom spender owner recipient amount =>
    obtain ⟨he, h1, h2, h3, h4⟩ := hd
    -- both sides are empty for a zero amount
    simp only [he, hs, h1, h2, h3, Call.amount_eq h4, true_and, Op.event, Option.bind_eq_bind,
      Option.bind_some]
    split_ifs <;> rfl
  | changeSecurity caller admins minters nones =>
    obtain ⟨he, h1, h2, h3, h4⟩ := hd
    simp only [he, h1, Env.arg?_of_optArg? h2, Env.arg?_of_optArg? h3, Env.arg?_of_optArg? h4]
    rfl
  | _ =>
    obtain ⟨he, h1, h2, h3⟩ := hd
    simp only [he, h1, h2, Call.amount_eq h3, Op.event, ← hallowance]
    rfl

/-- The store holds a sound token that keeps a log. -/
def HoldsLog (s : Store Key D.toItemKeys) : Prop :=
  ∃ l T, Rep l T s ∧ T.Sound ∧ T.eventsMode = .CES

theorem HoldsLog.exec (h : HoldsLog s) (c : Call Key) : HoldsLog (exec s c) := by
  obtain ⟨l, T, hr, hT, hm⟩ := h
  refine ⟨l, T.exec c.op?, exec_rep hr c, hT.exec _, ?_⟩
  rcases T.exec_cases c.op? with ⟨he, -⟩ | ⟨op, -, -, ht⟩
  · rw [he]; exact hm
  · exact ht.eventsMode.trans hm

/-- **One call** appends to the log what it records. -/
theorem log_step (h : HoldsLog s) (c : Call Key) : (exec s c).log = s.log ++ c.recorded s := by
  have h' := h.exec c
  obtain ⟨l, T, hr, -, hm⟩ := h
  rcases call_cases hr c with ⟨hs, he, -⟩ | ⟨op, hs, -, hd, ht, hr'⟩
  · rw [he]
    simp [Call.recorded, Call.expected, Call.Idle, hs]
  · rw [hr'.log (ht.eventsMode.trans hm), hr.log hm, ht.log hm,
      recorded_eq hs hd hr']

/-- A successful `transfer_from` is to be recorded, whatever its amount. -/
theorem expected_of_idle (h : HoldsLog s) {c : Call Key} (hi : c.Idle s) :
    (c.expected s).toList.length = 1 := by
  obtain ⟨he, hs, -⟩ := hi
  obtain ⟨l, T, hr, -, -⟩ := h
  obtain ⟨op, T', hop, -⟩ := (succeeds_iff hr c).1 hs
  simp only [Call.op?, he, Option.bind_eq_bind, Option.bind_eq_some_iff] at hop
  obtain ⟨spender, h1, recipient, h2, owner, h3, amount, -, -⟩ := hop
  simp [Call.expected, hs, he, h1, h2, h3]

theorem recorded_length_le (s : Store Key D.toItemKeys) (c : Call Key) :
    (c.recorded s).length ≤ (c.expected s).toList.length := by
  unfold Call.recorded
  split_ifs
  · exact Nat.zero_le _
  · exact le_rfl

theorem recorded_length_eq_iff (h : HoldsLog s) (c : Call Key) :
    (c.recorded s).length = (c.expected s).toList.length ↔ ¬ c.Idle s := by
  unfold Call.recorded
  by_cases hi : c.Idle s
  · simp [hi, expected_of_idle h hi]
  · simp [hi]

theorem Deployment.holdsLog (d : Deployment Key D.toItemKeys)
    (hces : d.env.arg? UInt8 EVENTS_MODE = some 1) : HoldsLog d.store := by
  obtain ⟨l, T, hr, hT, ht⟩ := d.told hces []
  exact ⟨l, T, hr, hT, ht.mode⟩

/-- A fresh log holds the mint of the installed supply. -/
theorem Deployment.log (d : Deployment Key D.toItemKeys)
    (hces : d.env.arg? UInt8 EVENTS_MODE = some 1) :
    d.store.log = [.Mint (ofAccount d.env.caller) d.store.totalSupply] := by
  obtain ⟨c, l, hc, hr⟩ := d.rep
  have hm := Env.config?_ces hc hces
  have hs : d.store.totalSupply = c.totalSupply := BitVec.eq_of_toNat_eq hr.totalSupply
  rw [hr.log hm, hs, ← (Env.gives_of_config? hc).installer]
  show [] ++ (if c.eventsMode = .CES then _ else _) = _
  rw [if_pos hm]; rfl

/-- **Every successful mutating call is recorded exactly once**, after the event of the
installation and in call order, exactly if no successful `transfer_from` in the run was for
nothing. -/
theorem log_complete_iff (d : Deployment Key D.toItemKeys)
    (hces : d.env.arg? UInt8 EVENTS_MODE = some 1) (calls : List (Call Key)) :
    ((d.after calls).log = .Mint (ofAccount d.env.caller) d.store.totalSupply ::
        (Run.outputs exec (fun s c => (c.expected s).toList) d.store calls).flatten) ↔
      ∀ before c later, calls = before ++ c :: later →
        ¬ (c.entryPoint = .transferFrom ∧ c.Succeeds (d.after before) ∧ c.amount = 0) := by
  have hstart : HoldsLog d.store := d.holdsLog hces
  have hI : ∀ (s : Store Key D.toItemKeys) (c : Call Key), HoldsLog s → HoldsLog (exec s c) :=
    fun s c h => h.exec c
  have hstep : ∀ (s : Store Key D.toItemKeys) (c : Call Key), HoldsLog s →
      (exec s c).log = s.log ++ c.recorded s := fun s c h => log_step h c
  have hle : ∀ (s : Store Key D.toItemKeys) (c : Call Key), HoldsLog s →
      (c.recorded s).length ≤ (c.expected s).toList.length := fun s c _ => recorded_length_le s c
  have hrun : (d.after calls).log = .Mint (ofAccount d.env.caller) d.store.totalSupply ::
      (Run.outputs exec (fun s c => c.recorded s) d.store calls).flatten := by
    rw [Deployment.after, run, Run.foldl_log hI hstep calls hstart, d.log hces]
    rfl
  have hsplit : Run.Everywhere exec (fun s c => ¬ Call.Idle s c) d.store calls ↔ _ :=
    Run.everywhere_iff calls
  rw [hrun, List.cons_inj_right]
  -- what is recorded is never more than what is expected, so lengths decide
  refine Iff.trans ⟨fun h => ?_, fun h => ?_⟩ hsplit
  · have hlen := (Run.outputs_length_eq_iff hI hle calls hstart).1 (congrArg List.length h)
    have hidle : ∀ (s : Store Key D.toItemKeys) (c : Call Key), HoldsLog s →
        (c.recorded s).length = (c.expected s).toList.length → ¬ c.Idle s :=
      fun s c hs => (recorded_length_eq_iff hs c).1
    exact hlen.imp hI hidle calls hstart
  · have hrecorded : ∀ (s : Store Key D.toItemKeys) (c : Call Key), HoldsLog s → ¬ c.Idle s →
        c.recorded s = (c.expected s).toList := fun s c _ hi => if_neg hi
    have heq := h.imp hI hrecorded calls hstart
    rw [heq.outputs_eq]

/-- A transfer by the installer of a plain token is in its log. -/
theorem log_complete_plain :
    (plainToken.after [Call.plain 1 .transfer [(RECIPIENT, { asKey := some (.account 2) }),
      (AMOUNT, { asU256 := some 0 })]]).log =
      .Mint (ofAccount plainToken.env.caller) plainToken.store.totalSupply ::
        (Run.outputs exec (fun s c => (c.expected s).toList) plainToken.store
          [Call.plain 1 .transfer [(RECIPIENT, { asKey := some (.account 2) }),
            (AMOUNT, { asU256 := some 0 })]]).flatten := by
  refine (log_complete_iff plainToken (by decide +kernel) _).2 ?_
  rintro before c later h ⟨he, -⟩
  have hc : c ∈ [Call.plain 1 .transfer [(RECIPIENT, { asKey := some (.account 2) }),
      (AMOUNT, { asU256 := some 0 })]] := by rw [h]; simp
  rw [List.mem_singleton.1 hc] at he
  cases he

/-- A `transfer_from` of nothing by anyone, which succeeds. -/
def idleCall : Call PlainKey :=
  Call.plain 2 .transferFrom [(OWNER, { asKey := some (.account 1) }),
    (RECIPIENT, { asKey := some (.account 3) }), (AMOUNT, { asU256 := some 0 })]

/-- It leaves no event. -/
theorem idleCall_unrecorded :
    ¬ ((plainToken.after [idleCall]).log =
      .Mint (ofAccount plainToken.env.caller) plainToken.store.totalSupply ::
        (Run.outputs exec (fun s c => (c.expected s).toList) plainToken.store
          [idleCall]).flatten) := by
  intro h
  have hlen : (plainToken.after [idleCall]).log.length = 1 := by decide +kernel
  have hexp : (Run.outputs exec (fun s c => (c.expected s).toList) plainToken.store
      [idleCall]).flatten.length = 1 := by decide +kernel
  rw [h, List.length_cons, hexp] at hlen
  cases hlen

end Cep18
