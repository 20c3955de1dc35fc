import Cep18.Proof.Admission
import Cep18.Proof.Supply

/-!
# Calls that fail

* `failures_write_nothing`: a call that stops with an error has written nothing, so the
  contract does not depend on being rolled back.
* `overflow_unreachable`: transfers and burns never stop with `Overflow`, and `mint` does
  exactly if the total supply would not fit in a word.
-/

namespace Cep18

open Program Constants

variable {Key : Type} [CasperKey Key]

section Attempt

variable {D : ItemKeys Key}

/-- The effect of a call on a host that rolls nothing back. -/
def attempt (s : Store Key D) (c : Call Key) : Store Key D := leaves c.program s

end Attempt

variable {D : DistinctItemKeys Key} {l : Layout} {T : Token Key} {s s' : Store Key D.toItemKeys}

/-! ### Nothing is written -/

/-- A call that stops has written nothing. -/
theorem unchanged_of_error (h : Rep l T s) {c : Call Key} {e : ApiError}
    (he : c.program.run s = .error e s') : s' = s := by
  have hr := invoke_refines h c
  cases hop : c.op? with
  | none =>
    rw [hop] at hr
    obtain ⟨e', he'⟩ := hr
    rw [he] at he'
    cases he'; rfl
  | some op =>
    rw [hop] at hr
    simp only [RefinesAt] at hr
    cases hs : T.step op with
    | ok T' =>
      rw [hs] at hr
      obtain ⟨a, t, ht, -⟩ := hr
      rw [he] at ht; cases ht
    | error e' =>
      rw [hs] at hr
      simp only [MeetsAt] at hr
      rw [he] at hr
      cases hr; rfl

/-- With nothing rolled back, a call does the same. -/
theorem attempt_eq_exec (h : Rep l T s) (c : Call Key) : attempt s c = exec s c := by
  unfold attempt leaves
  cases hx : (c.program : HostM Key D.toItemKeys CLValue).run s with
  | ok a t => exact (commit_of_ok hx).symm
  | error e t =>
    have ht : t = s := unchanged_of_error h hx
    rw [ht]
    exact (commit_of_error hx).symm

theorem attempts_eq_run (h : Holds s) (calls : List (Call Key)) :
    calls.foldl attempt s = run s calls := by
  have hstep : ∀ (s t : Store Key D.toItemKeys) (c : Call Key), s = t ∧ Holds t →
      attempt s c = exec t c ∧ Holds (exec t c) := by
    rintro s t c ⟨rfl, ht⟩
    obtain ⟨l, T, hr, -⟩ := id ht
    exact ⟨attempt_eq_exec hr c, ht.exec c⟩
  have hrun := Run.foldl_simulates (R := fun s t => s = t ∧ Holds (D := D) t) (g := id) hstep calls
    ⟨rfl, h⟩
  rw [List.map_id] at hrun
  exact hrun.1

/-- **Failing calls write nothing.** In every state an installed token reaches, a call that
stops with an error leaves the store as it was, writes counted; the mode that every
recording reads back is a known one, and recording never fails; so a host that rolls
nothing back arrives at the same states. -/
theorem failures_write_nothing (d : Deployment Key D.toItemKeys) (calls : List (Call Key)) :
    (∀ (c : Call Key) (e : ApiError) (s' : Store Key D.toItemKeys),
        c.program.run (d.after calls) = .error e s' → s' = d.after calls) ∧
      (∃ mode, EventsMode.tryFrom (d.after calls).eventsMode = .ok mode) ∧
      (∀ event : Event Key, Succeeds (recordEventDictionary event) (d.after calls)) ∧
      calls.foldl attempt d.store = d.after calls := by
  obtain ⟨l, T, hr, -⟩ := d.holds_after calls
  refine ⟨fun c e s' he => unchanged_of_error hr he, ⟨_, hr.eventsMode⟩, fun event => ?_,
    attempts_eq_run d.holds calls⟩
  obtain ⟨a, t, ht, -⟩ := recordEventDictionary_ensures event _ hr
  exact ⟨a, t, ht⟩

/-! ### Overflow -/

/-- A call of an operation stops with an error of the contract exactly if the operation is
refused with it. -/
theorem error_iff (h : Rep l T s) {c : Call Key} {op : Op Key} (hop : c.op? = some op)
    (e : Cep18Error) :
    (∃ s', (c.program : HostM Key D.toItemKeys CLValue).run s = .error e.toApi s') ↔
      T.step op = .error e := by
  have hr := invoke_refines h c
  rw [hop] at hr
  simp only [RefinesAt] at hr
  cases hs : T.step op with
  | ok T' =>
    rw [hs] at hr
    obtain ⟨a, t, ht, -⟩ := hr
    simp [ht]
  | error e' =>
    rw [hs] at hr
    simp only [MeetsAt] at hr
    rw [hr]
    constructor
    · rintro ⟨s', he⟩
      cases Cep18Error.toApi_inj (EStateM.Result.error.inj he).1
      rfl
    · intro he
      cases he
      exact ⟨s, rfl⟩

/-- A call of an operation succeeds, or stops with the error the operation is refused with. -/
theorem succeeds_or_refused (h : Rep l T s) {c : Call Key} {op : Op Key} (hop : c.op? = some op) :
    c.Succeeds s ∨ ∃ e, T.step op = .error e ∧
      (c.program : HostM Key D.toItemKeys CLValue).run s = .error e.toApi s := by
  cases hs : T.step op with
  | ok T' => exact Or.inl ((succeeds_iff h c).2 ⟨op, T', hop, hs⟩)
  | error e =>
    obtain ⟨s', he⟩ := (error_iff h hop e).2 hs
    obtain rfl : s' = s := unchanged_of_error h he
    exact Or.inr ⟨e, rfl, he⟩

/-- **Arithmetic never hits its defensive branches.** In every state an installed token
reaches, no transfer, `transfer_from` or burn stops with `Overflow`; and a mint by an Admin
or a Minter, where minting is enabled, does exactly if the total supply would not fit in a
word, and otherwise succeeds and raises the balance and the supply by its amount. -/
theorem overflow_unreachable (d : Deployment Key D.toItemKeys) (calls : List (Call Key))
    (c : Call Key) :
    (c.entryPoint = .transfer ∨ c.entryPoint = .transferFrom ∨ c.entryPoint = .burn →
        ¬ ∃ s', c.program.run (d.after calls) = .error (Cep18Error.toApi .Overflow) s') ∧
      ∀ caller owner amount, c.entryPoint = .mint → c.env.callerIdentity = some caller →
        c.env.arg? Key OWNER = some owner → c.env.arg? U256 AMOUNT = some amount →
        (d.after calls).enableMintBurn ≠ 0 →
        (d.after calls).badge caller = some .Admin ∨ (d.after calls).badge caller = some .Minter →
        ((∃ s', c.program.run (d.after calls) = .error (Cep18Error.toApi .Overflow) s') ↔
            U256.MAX < (d.after calls).totalSupply.toNat + amount.toNat) ∧
          ((d.after calls).totalSupply.toNat + amount.toNat ≤ U256.MAX →
            c.Succeeds (d.after calls) ∧
            ((exec (d.after calls) c).balance owner).toNat =
              ((d.after calls).balance owner).toNat + amount.toNat ∧
            (exec (d.after calls) c).totalSupply.toNat =
              (d.after calls).totalSupply.toNat + amount.toNat) := by
  obtain ⟨l, T, hr, hT⟩ := d.holds_after calls
  generalize d.after calls = s at hr ⊢
  constructor
  · intro hc
    cases hop : c.op? with
    | none =>
      -- what the checks stop with is no overflow
      obtain ⟨e, hchecks, he⟩ := hr.stops_of_none hop
      rintro ⟨s', hs'⟩
      rw [he] at hs'
      have hover : e = Cep18Error.toApi .Overflow := (EStateM.Result.error.inj hs').1
      rcases c.admission_checks e hchecks with ⟨err, hne, rfl⟩ | ⟨rfl | rfl, -⟩
      · exact hne (Cep18Error.toApi_inj hover)
      · cases hover
      · cases hover
    | some op =>
      rw [error_iff hr hop]
      have hd := Call.describes_of_op? hop
      obtain ⟨htransfer, htransferFrom, hburn⟩ := hT.no_overflow
      cases op with
      | transfer sender recipient amount => exact htransfer _ _ _
      | transferFrom spender owner recipient amount => exact htransferFrom _ _ _ _
      | burn caller owner amount => exact hburn _ _ _
      | query => rcases hc with hc | hc | hc <;> simp [Call.Describes, hc] at hd
      | init => rcases hc with hc | hc | hc <;> simp [Call.Describes, hc] at hd
      | _ => rcases hc with hc | hc | hc <;> exact absurd (hc.symm.trans hd.1) (by decide)
  · intro caller owner amount he hcaller howner hamount hflag hbadge
    have hop : c.op? = some (.mint caller owner amount) :=
      Call.op?_of_describes ⟨he, hcaller, howner, hamount⟩ (by simp)
    rw [hr.enableMintBurn] at hflag
    rw [hr.badge] at hbadge
    obtain ⟨hover, hok⟩ := hT.mint_overflows_iff owner amount hflag hbadge
    rw [error_iff hr hop, hr.totalSupply]
    refine ⟨hover, fun hfit => ?_⟩
    have hstep := hok hfit
    have hr' := exec_rep hr c
    have hexec : T.exec c.op? = (T.withLedger (T.issue owner amount.toNat)).record
        (.Mint owner amount) := by
      rw [hop]
      simp only [Token.exec, hstep]
    rw [hexec] at hr'
    refine ⟨(succeeds_iff hr c).2 ⟨_, _, hop, hstep⟩, ?_, ?_⟩
    · rw [hr'.balance, hr.balance]
      simp [Ledger.issue_balances]
    · rw [hr'.totalSupply]
      simp

end Cep18
