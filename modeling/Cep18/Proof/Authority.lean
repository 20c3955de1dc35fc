import Cep18.Lib.Run
import Cep18.Model.Reference
import Cep18.Proof.Calls
import Cep18.Spec.Authority

/-!
# Authority

Who can do what to an installed token, in every state it reaches.

* `debits_authorised`: a balance goes down only by its owner's transfer or burn, or
  against an allowance; an allowance goes up only by its owner. The caller is the frame
  below the token's own, and nothing deeper in the call stack matters.
* `supply_and_badges_authorised`: the supply and the badges move only on the authority of
  badges, so nobody else can escalate, however many calls they make.
* `admin_remains`: `change_security` never removes the last Admin.
-/

namespace Cep18

open Program Constants

variable {Key : Type} [CasperKey Key]

section Identity

/-- The caller's identity is that of the frame below the running code's own. -/
theorem callerIdentity_append {env : Env Key} {below : List CallStackElement}
    {frame own : CallStackElement} (h : env.callStack = below ++ [frame, own]) :
    env.callerIdentity = some (callStackElementToAddress frame) := by
  rw [callerIdentity_eq_some]
  simp [getImmediateCallerAddress, h]

variable {D : ItemKeys Key}

/-- **Only the frame below matters.** Apart from `init`, an entry point looks at its call stack
through the identity of the immediate caller only. -/
theorem invoke_congr {entryPoint : EntryPoint} (hi : entryPoint ≠ .init) {env env' : Env Key}
    (hargs : env'.args = env.args)
    (hframe : (getImmediateCallerAddress env' : Except Cep18Error Key) =
      getImmediateCallerAddress env) :
    (invoke entryPoint env' : HostM Key D CLValue) = invoke entryPoint env := by
  obtain ⟨callStack, caller, args⟩ := env
  obtain ⟨callStack', caller', args'⟩ := env'
  obtain rfl : args' = args := hargs
  -- with the two identities equal, what is left reads the arguments only
  cases entryPoint with
  | init => exact absurd rfl hi
  | transfer => unfold invoke transfer; rw [hframe]; rfl
  | approve => unfold invoke approve; rw [hframe]; rfl
  | decreaseAllowance => unfold invoke decreaseAllowance adjustAllowance; rw [hframe]; rfl
  | increaseAllowance => unfold invoke increaseAllowance adjustAllowance; rw [hframe]; rfl
  | transferFrom => unfold invoke transferFrom; rw [hframe]; rfl
  | changeSecurity => unfold invoke changeSecurity secCheck; rw [hframe]; rfl
  | burn => unfold invoke burn; rw [hframe]; rfl
  | mint => unfold invoke mint secCheck; rw [hframe]; rfl
  | _ => rfl

end Identity

variable {D : DistinctItemKeys Key} {s : Store Key D.toItemKeys}

/-- An initialised token's `init` stops at once, whoever calls it. -/
theorem init_run (h : Holds s) (env : Env Key) :
    (invoke .init env : HostM Key D.toItemKeys CLValue).run s =
      .error (Cep18Error.toApi .AlreadyInitialized) s := by
  obtain ⟨l, T, hr, -⟩ := h
  exact invoke_refines hr ⟨.init, env⟩

/-- Calls that agree on the entry point, the arguments and the frame below do the same. -/
theorem program_congr (h : Holds s) {c c' : Call Key} (hentry : c'.entryPoint = c.entryPoint)
    (hargs : c'.env.args = c.env.args)
    (hframe : c'.env.callStack.reverse[1]? = c.env.callStack.reverse[1]?) :
    (c'.program : HostM Key D.toItemKeys CLValue).run s = c.program.run s := by
  unfold Call.program
  rw [hentry]
  have hcaller : (getImmediateCallerAddress c'.env : Except Cep18Error Key) =
      getImmediateCallerAddress c.env := by
    unfold getImmediateCallerAddress; rw [hframe]
  by_cases hi : c.entryPoint = .init
  · -- `init` does look at the account that started the deploy, but is refused first
    rw [hi, init_run h, init_run h]
  · rw [invoke_congr hi hargs hcaller]

/-! ### Debits -/

theorem debit_step (h : Holds s) (c : Call Key) {k : Key}
    (hlt : ((exec s c).balance k).toNat < (s.balance k).toNat) :
    ((c.entryPoint = .transfer ∨ c.entryPoint = .burn) ∧ c.env.callerIdentity = some k) ∨
      (c.entryPoint = .transferFrom ∧ c.env.arg? Key OWNER = some k ∧
        ∃ caller n, c.env.callerIdentity = some caller ∧
          ((exec s c).balance k).toNat + n = (s.balance k).toNat ∧
          ((exec s c).allowance k caller).toNat + n = (s.allowance k caller).toNat) := by
  obtain ⟨l, T, hr, -⟩ := h
  rcases call_cases hr c with ⟨-, he, -⟩ | ⟨op, -, -, hd, ht, hr'⟩
  · rw [he] at hlt; exact absurd hlt (lt_irrefl _)
  · rw [hr.balance, hr'.balance] at hlt ⊢
    rcases ht.debit hlt with ⟨r, n, rfl⟩ | ⟨n, rfl⟩ | ⟨caller, r, n, rfl, hb, ha⟩
    · obtain ⟨hentry, hcaller, -, -⟩ := hd
      exact Or.inl ⟨Or.inl hentry, hcaller⟩
    · obtain ⟨hentry, -, hcaller, -⟩ := hd
      exact Or.inl ⟨Or.inr hentry, hcaller⟩
    · obtain ⟨he, hc, -, ho, -⟩ := hd
      refine Or.inr ⟨he, ho, caller, n.toNat, hc, hb, ?_⟩
      rw [hr.allowance, hr'.allowance]; exact ha

theorem raise_step (h : Holds s) (c : Call Key) {o sp : Key}
    (hlt : (s.allowance o sp).toNat < ((exec s c).allowance o sp).toNat) :
    c.env.callerIdentity = some o := by
  obtain ⟨l, T, hr, -⟩ := h
  rcases call_cases hr c with ⟨-, he, -⟩ | ⟨op, -, -, hd, ht, hr'⟩
  · rw [he] at hlt; exact absurd hlt (lt_irrefl _)
  · rw [hr.allowance, hr'.allowance] at hlt
    rcases ht.raise hlt with ⟨n, rfl | rfl⟩ <;> exact hd.2.1

/-- **Debits are authorised**, in every state an installed token reaches, for every call. -/
theorem debits_authorised (d : Deployment Key D.toItemKeys) (calls : List (Call Key))
    (c : Call Key) :
    (∀ k, ((exec (d.after calls) c).balance k).toNat < ((d.after calls).balance k).toNat →
      ((c.entryPoint = .transfer ∨ c.entryPoint = .burn) ∧ c.env.callerIdentity = some k) ∨
        (c.entryPoint = .transferFrom ∧ c.env.arg? Key OWNER = some k ∧
          ∃ caller n, c.env.callerIdentity = some caller ∧
            ((exec (d.after calls) c).balance k).toNat + n = ((d.after calls).balance k).toNat ∧
            ((exec (d.after calls) c).allowance k caller).toNat + n =
              ((d.after calls).allowance k caller).toNat)) ∧
      (∀ o sp, ((d.after calls).allowance o sp).toNat <
          ((exec (d.after calls) c).allowance o sp).toNat → c.env.callerIdentity = some o) ∧
      (∀ below frame own, c.env.callStack = below ++ [frame, own] →
        c.env.callerIdentity = some (match frame with
          | .Session accountHash => ofAccount accountHash
          | .StoredSession accountHash _ _ => ofAccount accountHash
          | .StoredContract contractPackageHash _ => ofHash contractPackageHash)) ∧
      ∀ c' : Call Key, c'.entryPoint = c.entryPoint → c'.env.args = c.env.args →
        c'.env.callStack.reverse[1]? = c.env.callStack.reverse[1]? →
        (c'.program : HostM Key D.toItemKeys CLValue).run (d.after calls) =
          c.program.run (d.after calls) := by
  have h := d.holds_after calls
  refine ⟨?_, ?_, ?_, ?_⟩
  · intro k hlt
    exact debit_step h c hlt
  · intro o sp hlt
    exact raise_step h c hlt
  · intro below frame own hstack
    rw [callerIdentity_append hstack]
    cases frame <;> rfl
  · intro c' hentry hargs hframe
    exact program_congr h hentry hargs hframe

/-! ### Supply and badges -/

theorem settings_step (h : Holds s) (c : Call Key) :
    (exec s c).enableMintBurn = s.enableMintBurn := by
  obtain ⟨l, T, hr, -⟩ := h
  rcases call_cases hr c with ⟨-, he, -⟩ | ⟨op, -, -, -, ht, hr'⟩
  · rw [he]
  · rw [hr'.enableMintBurn, hr.enableMintBurn]
    exact ht.enableMintBurn

theorem supply_rise_step (h : Holds s) (c : Call Key)
    (hlt : s.totalSupply.toNat < (exec s c).totalSupply.toNat) :
    c.entryPoint = .mint ∧ c.Succeeds s ∧ s.enableMintBurn ≠ 0 ∧
      ∃ caller, c.env.callerIdentity = some caller ∧
        (s.badge caller = some .Admin ∨ s.badge caller = some .Minter) := by
  obtain ⟨l, T, hr, -⟩ := h
  rcases call_cases hr c with ⟨-, he, -⟩ | ⟨op, hs, -, hd, ht, hr'⟩
  · rw [he] at hlt; exact absurd hlt (lt_irrefl _)
  · rw [hr.totalSupply, hr'.totalSupply] at hlt
    obtain ⟨caller, owner, n, rfl, hflag, hbadge⟩ := ht.supply_rise hlt
    obtain ⟨hentry, hcaller, -, -⟩ := hd
    have hflag' : s.enableMintBurn ≠ 0 := by rw [hr.enableMintBurn]; exact hflag
    refine ⟨hentry, hs, hflag', caller, hcaller, ?_⟩
    rw [hr.badge]; exact hbadge

theorem supply_fall_step (h : Holds s) (c : Call Key)
    (hlt : (exec s c).totalSupply.toNat < s.totalSupply.toNat) :
    c.entryPoint = .burn ∧ c.Succeeds s ∧ s.enableMintBurn ≠ 0 ∧
      ∃ caller, c.env.callerIdentity = some caller ∧ c.env.arg? Key OWNER = some caller := by
  obtain ⟨l, T, hr, -⟩ := h
  rcases call_cases hr c with ⟨-, he, -⟩ | ⟨op, hs, -, hd, ht, hr'⟩
  · rw [he] at hlt; exact absurd hlt (lt_irrefl _)
  · rw [hr.totalSupply, hr'.totalSupply] at hlt
    obtain ⟨caller, n, rfl, hflag⟩ := ht.supply_fall hlt
    obtain ⟨hentry, howner, hcaller, -⟩ := hd
    have hflag' : s.enableMintBurn ≠ 0 := by rw [hr.enableMintBurn]; exact hflag
    exact ⟨hentry, hs, hflag', caller, hcaller, howner⟩

theorem badge_change_step (h : Holds s) (c : Call Key) {k : Key}
    (hne : (exec s c).badge k ≠ s.badge k) :
    c.entryPoint = .changeSecurity ∧ c.Succeeds s ∧ s.enableMintBurn ≠ 0 ∧
      ∃ caller, c.env.callerIdentity = some caller ∧ s.badge caller = some .Admin := by
  obtain ⟨l, T, hr, -⟩ := h
  rcases call_cases hr c with ⟨-, he, -⟩ | ⟨op, hs, -, hd, ht, hr'⟩
  · rw [he] at hne; exact absurd rfl hne
  · rw [hr.badge, hr'.badge] at hne
    have hbadges : (T.exec c.op?).badges ≠ T.badges := fun he => hne (congrFun he k)
    obtain ⟨caller, admins, minters, nones, rfl, hflag, hbadge⟩ := ht.badge_change hbadges
    obtain ⟨hentry, hcaller, -⟩ := hd
    have hflag' : s.enableMintBurn ≠ 0 := by rw [hr.enableMintBurn]; exact hflag
    refine ⟨hentry, hs, hflag', caller, hcaller, ?_⟩
    rw [hr.badge]; exact hbadge

/-- **No escalation.** As long as nobody who is an Admin at the start calls
`change_security`, the badges stay what they were. -/
theorem badges_constant (h : Holds s) {calls : List (Call Key)}
    (hcalls : ∀ c ∈ calls, c.entryPoint = .changeSecurity →
      ∀ k, c.env.callerIdentity = some k → s.badge k ≠ some .Admin) (k : Key) :
    (run s calls).badge k = s.badge k := by
  have hstep : ∀ t : Store Key D.toItemKeys, ∀ c ∈ calls,
      (Holds t ∧ ∀ k, t.badge k = s.badge k) →
        Holds (exec t c) ∧ ∀ k, (exec t c).badge k = s.badge k := by
    rintro t c hc ⟨ht, hb⟩
    refine ⟨ht.exec c, fun k => ?_⟩
    -- a change needs an Admin of `t`, and the Admins of `t` are those of `s`
    by_contra hne
    rw [← hb k] at hne
    obtain ⟨he, -, -, caller, hcaller, hadmin⟩ := badge_change_step ht c hne
    rw [hb caller] at hadmin
    exact hcalls c hc he caller hcaller hadmin
  have hrun := Run.foldl_invariant_mem calls hstep ⟨h, fun _ => rfl⟩
  exact hrun.2 k

/-- With minting and burning disabled, the supply and the badges stay what they were. -/
theorem disabled_constant (h : Holds s) (hflag : s.enableMintBurn = 0) (calls : List (Call Key)) :
    (run s calls).totalSupply = s.totalSupply ∧ ∀ k, (run s calls).badge k = s.badge k := by
  have hstep : ∀ (t : Store Key D.toItemKeys) (c : Call Key),
      ((Holds t ∧ t.enableMintBurn = 0) ∧ t.totalSupply = s.totalSupply ∧
        ∀ k, t.badge k = s.badge k) →
      (Holds (exec t c) ∧ (exec t c).enableMintBurn = 0) ∧
        (exec t c).totalSupply = s.totalSupply ∧ ∀ k, (exec t c).badge k = s.badge k := by
    rintro t c ⟨⟨ht, h0⟩, hs, hb⟩
    refine ⟨⟨ht.exec c, (settings_step ht c).trans h0⟩, ?_, fun k => ?_⟩
    · -- the supply neither rises nor falls, since both need the flag
      rw [← hs]
      apply BitVec.eq_of_toNat_eq
      rcases lt_trichotomy (exec t c).totalSupply.toNat t.totalSupply.toNat with hlt | heq | hlt
      · exact absurd h0 (supply_fall_step ht c hlt).2.2.1
      · exact heq
      · exact absurd h0 (supply_rise_step ht c hlt).2.2.1
    · by_contra hne
      rw [← hb k] at hne
      exact absurd h0 (badge_change_step ht c hne).2.2.1
  have hrun := Run.foldl_invariant hstep calls ⟨⟨h, hflag⟩, rfl, fun _ => rfl⟩
  exact hrun.2

/-- **Supply and badges move on authority only**, in every state an installed token reaches:
by whom the supply rises and falls and the badges change; that nobody but a present Admin
can set off a change of badges; and that nothing moves if minting and burning were
installed as disabled. -/
theorem supply_and_badges_authorised (d : Deployment Key D.toItemKeys) (calls : List (Call Key)) :
    (∀ c : Call Key, (d.after calls).totalSupply.toNat <
        (exec (d.after calls) c).totalSupply.toNat →
      c.entryPoint = .mint ∧ c.Succeeds (d.after calls) ∧ (d.after calls).enableMintBurn ≠ 0 ∧
        ∃ caller, c.env.callerIdentity = some caller ∧
          ((d.after calls).badge caller = some .Admin ∨
            (d.after calls).badge caller = some .Minter)) ∧
      (∀ c : Call Key, (exec (d.after calls) c).totalSupply.toNat <
          (d.after calls).totalSupply.toNat →
        c.entryPoint = .burn ∧ c.Succeeds (d.after calls) ∧ (d.after calls).enableMintBurn ≠ 0 ∧
          ∃ caller, c.env.callerIdentity = some caller ∧ c.env.arg? Key OWNER = some caller) ∧
      (∀ (c : Call Key) (k : Key), (exec (d.after calls) c).badge k ≠ (d.after calls).badge k →
        c.entryPoint = .changeSecurity ∧ c.Succeeds (d.after calls) ∧
          (d.after calls).enableMintBurn ≠ 0 ∧
          ∃ caller, c.env.callerIdentity = some caller ∧
            (d.after calls).badge caller = some .Admin) ∧
      (∀ more : List (Call Key), (∀ c ∈ more, c.entryPoint = .changeSecurity →
          ∀ k, c.env.callerIdentity = some k → (d.after calls).badge k ≠ some .Admin) →
        ∀ k, (run (d.after calls) more).badge k = (d.after calls).badge k) ∧
      ((d.env.arg? UInt8 ENABLE_MINT_BURN).getD 0 = 0 →
        (d.after calls).totalSupply = d.store.totalSupply ∧
          ∀ k, (d.after calls).badge k = d.store.badge k) := by
  have h := d.holds_after calls
  refine ⟨?_, ?_, ?_, ?_, ?_⟩
  · intro c hlt
    exact supply_rise_step h c hlt
  · intro c hlt
    exact supply_fall_step h c hlt
  · intro c k hne
    exact badge_change_step h c hne
  · intro more hmore k
    exact badges_constant h hmore k
  · intro h0
    have hflag : d.store.enableMintBurn = 0 := d.enableMintBurn.trans h0
    exact disabled_constant d.holds hflag calls

/-! ### The last Admin -/

theorem admin_step (h : ∃ l T, Rep l T s) (ha : ∃ k, s.badge k = some .Admin) (c : Call Key) :
    ∃ k, (exec s c).badge k = some .Admin := by
  obtain ⟨l, T, hr⟩ := h
  obtain ⟨k, hk⟩ := ha
  rw [hr.badge] at hk
  obtain ⟨k', hk'⟩ := T.exec_keeps_admin c.op? ⟨k, hk⟩
  have hr' := exec_rep hr c
  refine ⟨k', ?_⟩
  rw [hr'.badge]; exact hk'

theorem changeSecurity_caller (h : ∃ l T, Rep l T s) {c : Call Key}
    (hc : c.entryPoint = .changeSecurity) (hs : c.Succeeds s) :
    ∃ caller, c.env.callerIdentity = some caller ∧ (exec s c).badge caller = some .Admin ∧
      (exec s c).badge caller = s.badge caller := by
  obtain ⟨l, T, hr⟩ := h
  rcases call_cases hr c with ⟨hns, -, -⟩ | ⟨op, -, hop, -, ht, hr'⟩
  · exact absurd hs hns
  generalize T.exec c.op? = T' at ht hr'
  simp only [Call.op?, hc, Option.bind_eq_bind, Option.bind_eq_some_iff] at hop
  obtain ⟨caller, hcaller, admins, -, minters, -, nones, -, ⟨⟩⟩ := hop
  cases ht with
  | changeSecurity hflag hbadge =>
    have hkeep : (exec s c).badge caller = T.badges caller := by
      rw [hr'.badge]; exact Token.setBadges_caller caller admins minters nones
    exact ⟨caller, hcaller, hkeep.trans hbadge, by rw [hkeep, hr.badge]⟩

/-- **Admin rights cannot be lost by `change_security`.** From every store that holds a token
with an Admin, every state a run reaches has an Admin, and the caller of a successful
`change_security` is still one, with its badge untouched. -/
theorem admin_remains {l : Layout} {T : Token Key} (h : Rep l T s)
    (ha : ∃ k, s.badge k = some .Admin) (calls : List (Call Key)) :
    (∃ k, (run s calls).badge k = some .Admin) ∧
      ∀ c : Call Key, c.entryPoint = .changeSecurity → c.Succeeds (run s calls) →
        ∃ caller, c.env.callerIdentity = some caller ∧
          (exec (run s calls) c).badge caller = some .Admin ∧
          (exec (run s calls) c).badge caller = (run s calls).badge caller := by
  have hstep : ∀ (t : Store Key D.toItemKeys) (c : Call Key),
      ((∃ l T, Rep l T t) ∧ ∃ k, t.badge k = some .Admin) →
        (∃ l T, Rep l T (exec t c)) ∧ ∃ k, (exec t c).badge k = some .Admin := by
    rintro t c ⟨⟨l, T, ht⟩, hadmin⟩
    exact ⟨⟨l, _, exec_rep ht c⟩, admin_step ⟨l, T, ht⟩ hadmin c⟩
  have hrun := Run.foldl_invariant hstep calls ⟨⟨l, T, h⟩, ha⟩
  exact ⟨hrun.2, fun c hc hs => changeSecurity_caller hrun.1 hc hs⟩

/-- The installer of a plain token, naming itself in `none_list`, stays its Admin. -/
theorem admin_remains_plain : ∃ k, (run plainToken.store
    [Call.plain 1 .changeSecurity [(NONE_LIST, { asKeys := some [.account 1] })]]).badge k =
      some .Admin := by
  obtain ⟨c, l, -, h⟩ := plainToken.rep
  exact (admin_remains h ⟨.account 1, by decide +kernel⟩ _).1

end Cep18
