import Cep18.Proof.Arguments
import Cep18.Proof.Refine
import Cep18.Spec.Admission

/-!
# Calls that come down to nothing

A call without a caller, or with an argument that is missing or malformed, comes down to no
operation. The checks of its entry point still run, in their order, and the first that fails
decides what the call stops with (`Rep.stops`). So of all that is stored, only the flag and the
badge of the caller have a say in it (`Rep.stops_of_none`).
-/

namespace Cep18

open Program Constants

variable {Key : Type} [CasperKey Key]

/-! ### What the contract stops with -/

/-- From `s`, the program stops with what the checks stop with, if they do, having written
nothing. -/
def StopsWith {D : ItemKeys Key} {α β : Type} (x : HostM Key D α) (s : Store Key D)
    (checks : Except ApiError β) : Prop :=
  ∀ e, checks = .error e → x.run s = .error e s

namespace StopsWith

variable {D : ItemKeys Key} {α β γ : Type} {s : Store Key D} {env : Env Key}
variable {x : HostM Key D α} {f : α → HostM Key D β} {checks : Except ApiError γ}

/-- Checks that are passed say nothing of the rest of the program. -/
theorem passed (c : γ) : StopsWith x s (.ok c) := by
  intro e h
  cases h

/-- What comes before the first check. -/
theorem bind_ok {a : α} (h : x.run s = .ok a s) (hf : StopsWith (f a) s checks) :
    StopsWith (x >>= f) s checks := by
  intro e he
  rw [bind_of_ok h]
  exact hf e he

/-- What comes after the checks. -/
theorem bind (h : StopsWith x s checks) : StopsWith (x >>= f) s checks := by
  intro e he
  exact bind_of_error (h e he)

theorem refuseIf {p q : Prop} [Decidable p] [Decidable q] (hpq : p ↔ q) {e : Cep18Error}
    {g : Unit → Except ApiError γ} (h : StopsWith x s (g ())) :
    StopsWith (if p then revert e else x) s (Cep18.refuseIf q e >>= g) := by
  unfold Cep18.refuseIf
  by_cases hp : p
  · rw [if_pos hp, if_pos (hpq.1 hp)]
    intro e' he'
    cases he'; rfl
  · rw [if_neg hp, if_neg (mt hpq.2 hp)]
    exact h

theorem caller {f : Key → HostM Key D β} {g : Key → Except ApiError γ}
    (h : ∀ k, StopsWith (f k) s (g k)) :
    StopsWith (unwrapOrRevert (getImmediateCallerAddress env) >>= f) s
      (env.expectCaller >>= g) := by
  unfold Env.expectCaller
  cases (getImmediateCallerAddress env : Except Cep18Error Key) with
  | ok k => exact bind_ok rfl (h k)
  | error e =>
    intro e' he'
    cases he'; rfl

theorem arg {V : Type} [FromArg Key V] {name : String} {f : V → HostM Key D β}
    {g : V → Except ApiError γ} (h : ∀ v, StopsWith (f v) s (g v)) :
    StopsWith (getNamedArg env name >>= f) s (env.expectArg V name >>= g) := by
  unfold Env.expectArg
  rw [getNamedArg_read]
  cases env.read V name with
  | none =>
    intro e he
    cases he; rfl
  | some value =>
    cases value with
    | none =>
      intro e he
      cases he; rfl
    | some v => exact bind_ok rfl (h v)

theorem optArg {V : Type} [FromArg Key V] {name : String} {invalid : Cep18Error}
    (hi : invalid ≠ .Phantom) {f : Option V → HostM Key D β} {g : Option V → Except ApiError γ}
    (h : ∀ v, StopsWith (f v) s (g v)) :
    StopsWith (getOptionalNamedArgWithUserErrors env name invalid >>= f) s
      (env.expectOptArg V name invalid >>= g) := by
  unfold Env.expectOptArg
  rw [getOptionalNamedArg_read]
  cases env.read V name with
  | none => exact bind_ok rfl (h none)
  | some value =>
    cases value with
    | none =>
      rw [if_neg hi]
      intro e he
      cases he; rfl
    | some v => exact bind_ok rfl (h (some v))

end StopsWith

variable {D : DistinctItemKeys Key} {l : Layout} {T : Token Key} {s : Store Key D.toItemKeys}
variable {env : Env Key}

/-- The check of the caller's badge. -/
theorem StopsWith.secCheck (h : Rep l T s) {allowed : List SecurityBadge} {p : Key → Prop}
    [∀ k, Decidable (p k)] (hp : ∀ k, p k ↔ ∀ badge ∈ allowed, T.badges k ≠ some badge)
    {β γ : Type} {f : Unit → HostM Key D.toItemKeys β} {g : Key → Except ApiError γ}
    (hf : ∀ k, StopsWith (f ()) s (g k)) :
    StopsWith (Cep18.secCheck env allowed >>= f) s (do
      let caller ← env.expectCaller
      Cep18.refuseIf (p caller) .InsufficientRights
      g caller) := by
  cases hc : env.callerIdentity with
  | none =>
    intro e he
    have hcaller := callerIdentity_eq_none.1 hc
    unfold Env.expectCaller at he
    rw [hcaller] at he
    unfold Cep18.secCheck
    rw [hcaller]
    cases he; rfl
  | some caller =>
    rw [Env.expectCaller_eq_ok.2 hc]
    show StopsWith _ s (Cep18.refuseIf (p caller) .InsufficientRights >>= fun _ => g caller)
    unfold Cep18.refuseIf
    split_ifs with hno
    · intro e he
      cases he
      exact bind_of_error (secCheck_of_no_badge h hc ((hp caller).1 hno))
    · obtain ⟨badge, hmem, hb⟩ : ∃ badge ∈ allowed, T.badges caller = some badge := by
        rw [hp caller] at hno
        push Not at hno
        exact hno
      exact bind_ok (secCheck_of_badge h hc hb hmem) (hf caller)

/-- What the calls that are about their caller and another key have in front. -/
theorem StopsWith.admitPair {D : ItemKeys Key} {s : Store Key D} {β : Type} {name : String}
    {op : Key → Key → U256 → Op Key} {f : Key → Key → U256 → HostM Key D β} :
    StopsWith (do
      let caller ← unwrapOrRevert (getImmediateCallerAddress env)
      let other : Key ← getNamedArg env name
      if other = caller then
        revert .CannotTargetSelfUser
      else
        let amount : U256 ← getNamedArg env AMOUNT
        f caller other amount) s (env.admitPair name op) :=
  caller fun _ => arg fun _ => refuseIf Iff.rfl (arg fun _ => passed _)

/-- **The contract stops with what the checks of a call stop with.** -/
theorem Rep.stops (h : Rep l T s) (c : Call Key) :
    StopsWith (c.program : HostM Key D.toItemKeys CLValue) s
      (c.admission T.enableMintBurn T.badges) := by
  obtain ⟨entryPoint, env⟩ := c
  have hflag : (readFrom ENABLE_MINT_BURN : HostM Key D.toItemKeys UInt8).run s =
      .ok T.enableMintBurn s := readFrom_run h.cells.enableMintBurn
  unfold Call.program
  cases entryPoint with
  | init => exact .passed _
  | name => exact .passed _
  | symbol => exact .passed _
  | decimals => exact .passed _
  | totalSupply => exact .passed _
  | balanceOf =>
    simp only [invoke, map_eq_pure_bind]
    exact .bind (.arg fun address => .passed _)
  | allowance =>
    simp only [invoke, map_eq_pure_bind]
    exact .bind (.arg fun spender => .arg fun owner => .passed _)
  | approve =>
    simp only [invoke, seqRight_eq_bind]
    exact .bind .admitPair
  | decreaseAllowance =>
    simp only [invoke, seqRight_eq_bind]
    exact .bind .admitPair
  | increaseAllowance =>
    simp only [invoke, seqRight_eq_bind]
    exact .bind .admitPair
  | transfer =>
    simp only [invoke, seqRight_eq_bind]
    -- the keys are compared the other way round
    exact .bind (.caller fun sender => .arg fun recipient => .refuseIf eq_comm
      (.arg fun amount => .passed _))
  | transferFrom =>
    simp only [invoke, seqRight_eq_bind]
    exact .bind (.caller fun spender => .arg fun recipient => .arg fun owner =>
      .refuseIf Iff.rfl (.arg fun amount => .passed _))
  | mint =>
    simp only [invoke, seqRight_eq_bind, mint]
    refine .bind (.bind_ok hflag (.refuseIf eq_comm (.secCheck h (by simp) fun caller => ?_)))
    exact .arg fun owner => .arg fun amount => .passed _
  | burn =>
    simp only [invoke, seqRight_eq_bind, burn]
    refine .bind (.bind_ok hflag (.refuseIf eq_comm (.arg fun owner => .caller fun caller => ?_)))
    exact .refuseIf Iff.rfl (.arg fun amount => .passed _)
  | changeSecurity =>
    simp only [invoke, seqRight_eq_bind, changeSecurity]
    refine .bind (.bind_ok hflag (.refuseIf eq_comm (.secCheck h (by simp) fun caller => ?_)))
    exact .optArg (by decide) fun admins => .optArg (by decide) fun minters =>
      .optArg (by decide) fun nones => .passed _

/-- **A call that comes down to no operation** stops with what its checks stop with, having written
nothing. -/
theorem Rep.stops_of_none (h : Rep l T s) {c : Call Key} (hop : c.op? = none) :
    ∃ e, c.admission T.enableMintBurn T.badges = .error e ∧
      (c.program : HostM Key D.toItemKeys CLValue).run s = .error e s := by
  cases hc : c.admission T.enableMintBurn T.badges with
  | ok op => rw [Call.op?_of_admission hc] at hop; cases hop
  | error e => exact ⟨e, rfl, h.stops c e hc⟩

/-- A transfer to oneself is refused as such before its amount is missed. -/
example : (Call.plain 1 .transfer [(RECIPIENT, { asKey := some (.account 1) })]).admission 1
    (fun _ => none) = .error (Cep18Error.toApi .CannotTargetSelfUser) := rfl

end Cep18
