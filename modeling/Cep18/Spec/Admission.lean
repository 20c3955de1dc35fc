import Cep18.Model.Interface
import Cep18.Spec.Arguments
import Cep18.Spec.Token

/-!
# What calls are checked for

Before it does anything, an entry point looks at the flag, at its caller and at its arguments, and
stops at the first of them that will not do.

* `Call.admission`: these checks, in the order of the source: what they stop with, or the operation
  that the call comes down to.
* `Call.op?_of_admission`: whatever passes the checks comes down to its operation.
* `Call.admission_congr`: of what is stored, the flag and the caller's badge have a say in them.
* `Call.admission_checks`: what the checks stop with is an error of the contract, or the report of a
  declared parameter that was not given.
-/

namespace Cep18

open Constants

variable {Key : Type} [CasperKey Key]

/-! ### The checks -/

/-- The immediate caller, or what is reported where there is none. -/
def Env.expectCaller (env : Env Key) : Except ApiError Key :=
  (getImmediateCallerAddress env).mapError Cep18Error.toApi

/-- A named argument, or what is reported of one that is missing or malformed. -/
def Env.expectArg (T : Type) [FromArg Key T] (env : Env Key) (name : String) : Except ApiError T :=
  match env.read T name with
  | none => .error .missingArgument
  | some none => .error .invalidArgument
  | some (some value) => .ok value

/-- A named argument that may be missing, or what is reported of one that is malformed. -/
def Env.expectOptArg (T : Type) [FromArg Key T] (env : Env Key) (name : String)
    (invalid : Cep18Error) : Except ApiError (Option T) :=
  match env.read T name with
  | none => .ok none
  | some none => .error invalid.toApi
  | some (some value) => .ok (some value)

/-- A condition under which a call is refused. -/
def refuseIf (p : Prop) [Decidable p] (e : Cep18Error) : Except ApiError Unit :=
  if p then .error e.toApi else .ok ()

/-- The checks of a call that is about its caller and the key in an argument. -/
def Env.admitPair (env : Env Key) (name : String) (op : Key → Key → U256 → Op Key) :
    Except ApiError (Op Key) := do
  let caller ← env.expectCaller
  let other ← env.expectArg Key name
  refuseIf (other = caller) .CannotTargetSelfUser
  let amount ← env.expectArg U256 AMOUNT
  .ok (op caller other amount)

/-- **The checks that a call goes through** until all its arguments are read, given the flag and
the badges of the token: what they stop with, or the operation that the call comes down to. -/
def Call.admission (enableMintBurn : UInt8) (badges : Key → Option SecurityBadge) (c : Call Key) :
    Except ApiError (Op Key) :=
  match c.entryPoint with
  -- once a token is installed, no argument of `init` is looked at
  | .init => .ok .init
  | .name | .symbol | .decimals | .totalSupply => .ok .query
  | .balanceOf => do
    let _ ← c.env.expectArg Key ADDRESS
    .ok .query
  | .allowance => do
    let _ ← c.env.expectArg Key SPENDER
    let _ ← c.env.expectArg Key OWNER
    .ok .query
  | .approve => c.env.admitPair SPENDER .approve
  | .decreaseAllowance => c.env.admitPair SPENDER .decreaseAllowance
  | .increaseAllowance => c.env.admitPair SPENDER .increaseAllowance
  | .transfer => c.env.admitPair RECIPIENT .transfer
  | .transferFrom => do
    let spender ← c.env.expectCaller
    let recipient ← c.env.expectArg Key RECIPIENT
    let owner ← c.env.expectArg Key OWNER
    refuseIf (owner = recipient) .CannotTargetSelfUser
    let amount ← c.env.expectArg U256 AMOUNT
    .ok (.transferFrom spender owner recipient amount)
  | .mint => do
    refuseIf (enableMintBurn = 0) .MintBurnDisabled
    let caller ← c.env.expectCaller
    refuseIf (badges caller ≠ some .Admin ∧ badges caller ≠ some .Minter) .InsufficientRights
    let owner ← c.env.expectArg Key OWNER
    let amount ← c.env.expectArg U256 AMOUNT
    .ok (.mint caller owner amount)
  | .burn => do
    refuseIf (enableMintBurn = 0) .MintBurnDisabled
    let owner ← c.env.expectArg Key OWNER
    let caller ← c.env.expectCaller
    refuseIf (owner ≠ caller) .InvalidBurnTarget
    let amount ← c.env.expectArg U256 AMOUNT
    .ok (.burn caller owner amount)
  | .changeSecurity => do
    refuseIf (enableMintBurn = 0) .MintBurnDisabled
    let caller ← c.env.expectCaller
    refuseIf (badges caller ≠ some .Admin) .InsufficientRights
    let adminList ← c.env.expectOptArg (List Key) ADMIN_LIST .InvalidAdminList
    let minterList ← c.env.expectOptArg (List Key) MINTER_LIST .InvalidMinterList
    let noneList ← c.env.expectOptArg (List Key) NONE_LIST .InvalidNoneList
    .ok (.changeSecurity caller adminList minterList noneList)

/-! ### Operations -/

theorem except_bind_eq_ok {ε α β : Type} {x : Except ε α} {f : α → Except ε β} {b : β} :
    (x >>= f) = .ok b ↔ ∃ a, x = .ok a ∧ f a = .ok b := by
  cases x with
  | ok a =>
    constructor
    · intro h; exact ⟨a, rfl, h⟩
    · rintro ⟨_, ⟨⟩, h⟩; exact h
  | error e =>
    constructor
    · intro h; cases h
    · rintro ⟨_, ⟨⟩, -⟩

theorem refuseIf_eq_ok {p : Prop} [Decidable p] {e : Cep18Error} {u : Unit} :
    refuseIf p e = .ok u ↔ ¬ p := by
  unfold refuseIf
  split_ifs with h <;> simp [h]

section

variable {env : Env Key} {T : Type} [FromArg Key T] {name : String}

theorem Env.expectCaller_eq_ok {k : Key} :
    env.expectCaller = .ok k ↔ env.callerIdentity = some k := by
  unfold expectCaller callerIdentity
  cases (getImmediateCallerAddress env : Except Cep18Error Key) <;>
    simp [Except.mapError, Except.toOption]

omit [CasperKey Key] in
theorem Env.expectArg_eq_ok {v : T} : env.expectArg T name = .ok v ↔ env.arg? T name = some v := by
  unfold expectArg Env.read arg?
  cases env.args name with
  | none => simp
  | some arg =>
    simp only [Option.map_some, Option.bind_some]
    cases (FromArg.fromArg arg : Option T) <;> simp

omit [CasperKey Key] in
theorem Env.expectOptArg_eq_ok {invalid : Cep18Error} {v : Option T} :
    env.expectOptArg T name invalid = .ok v ↔ env.optArg? T name = some v := by
  unfold expectOptArg Env.read optArg?
  cases env.args name with
  | none => simp
  | some arg =>
    simp only [Option.map_some]
    cases (FromArg.fromArg arg : Option T) <;> simp

end

/-- **What passes the checks** comes down to its operation. -/
theorem Call.op?_of_admission {flag : UInt8} {badges : Key → Option SecurityBadge} {c : Call Key}
    {op : Op Key} (h : c.admission flag badges = .ok op) : c.op? = some op := by
  obtain ⟨entryPoint, env⟩ := c
  cases entryPoint <;>
    simp only [admission, Env.admitPair, except_bind_eq_ok, refuseIf_eq_ok, Env.expectCaller_eq_ok,
      Env.expectArg_eq_ok, Env.expectOptArg_eq_ok] at h
  case init => cases h; rfl
  case name => cases h; rfl
  case symbol => cases h; rfl
  case decimals => cases h; rfl
  case totalSupply => cases h; rfl
  case balanceOf =>
    obtain ⟨address, ha, ⟨⟩⟩ := h
    simp [op?, ha]
  case allowance =>
    obtain ⟨spender, hs, owner, ho, ⟨⟩⟩ := h
    simp [op?, hs, ho]
  case transferFrom =>
    obtain ⟨spender, hs, recipient, hr, owner, ho, -, -, amount, ha, ⟨⟩⟩ := h
    simp [op?, hs, hr, ho, ha]
  case mint =>
    obtain ⟨-, -, caller, hc, -, -, owner, ho, amount, ha, ⟨⟩⟩ := h
    simp [op?, hc, ho, ha]
  case burn =>
    obtain ⟨-, -, owner, ho, caller, hc, -, -, amount, ha, ⟨⟩⟩ := h
    simp [op?, hc, ho, ha]
  case changeSecurity =>
    obtain ⟨-, -, caller, hc, -, -, admins, ha, minters, hm, nones, hn, ⟨⟩⟩ := h
    simp [op?, hc, ha, hm, hn]
  all_goals
    obtain ⟨caller, hc, other, ho, -, -, amount, ha, ⟨⟩⟩ := h
    simp [op?, hc, ho, ha]

/-- Of what is stored, **the checks look at the flag and at the badge of the caller** only. -/
theorem Call.admission_congr {flag : UInt8} {badges badges' : Key → Option SecurityBadge}
    {c : Call Key} (h : ∀ k, c.env.callerIdentity = some k → badges k = badges' k) :
    c.admission flag badges = c.admission flag badges' := by
  obtain ⟨entryPoint, env⟩ := c
  have hcaller : ∀ f g : Key → Except ApiError (Op Key),
      (∀ k, env.callerIdentity = some k → f k = g k) →
      (env.expectCaller >>= f) = env.expectCaller >>= g := by
    intro f g hfg
    cases hk : env.expectCaller with
    | error e => rfl
    | ok k => exact hfg k (Env.expectCaller_eq_ok.1 hk)
  unfold admission
  cases entryPoint
  case mint =>
    refine congrArg _ (funext fun _ => hcaller _ _ fun k hk => ?_)
    rw [h k hk]
  case changeSecurity =>
    refine congrArg _ (funext fun _ => hcaller _ _ fun k hk => ?_)
    rw [h k hk]
  all_goals rfl

/-! ### What the checks stop with -/

/-- The argument is there, and of the declared type. -/
def Parameter.Given (p : Parameter) (args : RuntimeArgs Key) : Prop :=
  ∃ arg, args p.name = some arg ∧
    match p.cl_type with
    | .Key => (FromArg.fromArg arg : Option Key).isSome
    | .U256 => (FromArg.fromArg arg : Option U256).isSome
    | .U8 => (FromArg.fromArg arg : Option UInt8).isSome
    | .String => (FromArg.fromArg arg : Option String).isSome
    | .Unit => True

omit [CasperKey Key] in
theorem Parameter.given_key {name : String} {env : Env Key} :
    (⟨name, .Key⟩ : Parameter).Given env.args ↔ (env.arg? Key name).isSome := by
  simp only [Given, Env.arg?]
  cases env.args name <;> simp

omit [CasperKey Key] in
theorem Parameter.given_u256 {name : String} {env : Env Key} :
    (⟨name, .U256⟩ : Parameter).Given env.args ↔ (env.arg? U256 name).isSome := by
  simp only [Given, Env.arg?]
  cases env.args name <;> simp

/-- An error of the contract other than an overflow, or the report of a parameter that was not
given. -/
def CheckError (params : List Parameter) (args : RuntimeArgs Key) (e : ApiError) : Prop :=
  (∃ err : Cep18Error, err ≠ .Overflow ∧ e = err.toApi) ∨
    (e = .missingArgument ∨ e = .invalidArgument) ∧ ∃ p ∈ params, ¬ p.Given args

/-- Checks that stop with such errors only. -/
def Checks {α : Type} (params : List Parameter) (args : RuntimeArgs Key)
    (checks : Except ApiError α) : Prop :=
  ∀ e, checks = .error e → CheckError params args e

namespace Checks

variable {α β : Type} {params : List Parameter} {args : RuntimeArgs Key} {env : Env Key}

omit [CasperKey Key]

theorem ok (a : α) : Checks params args (.ok a) := by
  intro e h
  cases h

theorem own {err : Cep18Error} (h : err ≠ .Overflow) :
    Checks params args (.error err.toApi : Except ApiError α) := by
  intro e he
  cases he
  exact .inl ⟨err, h, rfl⟩

theorem bind {checks : Except ApiError α} {f : α → Except ApiError β}
    (h : Checks params args checks) (hf : ∀ a, Checks params args (f a)) :
    Checks params args (checks >>= f) := by
  cases checks with
  | ok a => exact hf a
  | error e =>
    intro e' he'
    cases he'
    exact h e rfl

theorem refuseIf {p : Prop} [Decidable p] {err : Cep18Error} (h : err ≠ .Overflow) :
    Checks params args (Cep18.refuseIf p err) := by
  unfold Cep18.refuseIf
  split_ifs
  · exact own h
  · exact ok ()

/-- What reading an argument stops with, if only a parameter that was not given makes it. -/
theorem arg {V : Type} [FromArg Key V] {name : String} {p : Parameter} (hp : p ∈ params)
    (h : p.Given env.args ↔ (env.arg? V name).isSome) :
    Checks params env.args (env.expectArg V name) := by
  intro e he
  refine .inr ⟨?_, p, hp, ?_⟩
  · unfold Env.expectArg at he
    cases hread : env.read V name with
    | none => rw [hread] at he; cases he; exact .inl rfl
    | some value =>
      cases value with
      | none => rw [hread] at he; cases he; exact .inr rfl
      | some v => rw [hread] at he; cases he
  · rw [h]
    intro hsome
    obtain ⟨v, hv⟩ := Option.isSome_iff_exists.1 hsome
    rw [Env.expectArg_eq_ok.2 hv] at he
    cases he

theorem key {name : String} (h : ⟨name, .Key⟩ ∈ params) :
    Checks params env.args (env.expectArg Key name) := arg h Parameter.given_key

theorem u256 {name : String} (h : ⟨name, .U256⟩ ∈ params) :
    Checks params env.args (env.expectArg U256 name) := arg h Parameter.given_u256

theorem optArg {V : Type} [FromArg Key V] {name : String} {invalid : Cep18Error}
    (h : invalid ≠ .Overflow) : Checks params args (env.expectOptArg V name invalid) := by
  unfold Env.expectOptArg
  cases env.read V name with
  | none => exact ok none
  | some value =>
    cases value with
    | none => exact own h
    | some v => exact ok (some v)

end Checks

theorem Checks.caller {params : List Parameter} {args : RuntimeArgs Key} {env : Env Key} :
    Checks params args env.expectCaller := by
  unfold Env.expectCaller
  cases hc : (getImmediateCallerAddress env : Except Cep18Error Key) with
  | ok k => exact ok k
  | error err =>
    have herr : err = .InvalidContext := by
      unfold getImmediateCallerAddress at hc
      split at hc
      · cases hc
      · cases hc; rfl
    subst herr
    exact own (by decide)

/-- The checks that are about the caller and another key. -/
theorem Checks.pair {params : List Parameter} {env : Env Key} {name : String}
    {op : Key → Key → U256 → Op Key} (hname : ⟨name, .Key⟩ ∈ params)
    (hamount : ⟨AMOUNT, .U256⟩ ∈ params) : Checks params env.args (env.admitPair name op) :=
  caller.bind fun _ => (key hname).bind fun _ => (refuseIf (by decide)).bind fun _ =>
    (u256 hamount).bind fun _ => ok _

/-- **What the checks of a call stop with** is an error of the contract, and never an overflow, or
the report of a declared parameter that was not given. -/
theorem Call.admission_checks {flag : UInt8} {badges : Key → Option SecurityBadge} (c : Call Key) :
    Checks c.entryPoint.declaration.args c.env.args (c.admission flag badges) := by
  obtain ⟨entryPoint, env⟩ := c
  show Checks entryPoint.declaration.args env.args _
  cases entryPoint with
  | init => exact .ok _
  | name => exact .ok _
  | symbol => exact .ok _
  | decimals => exact .ok _
  | totalSupply => exact .ok _
  | balanceOf => exact .bind (.key (by decide)) fun _ => .ok _
  | allowance =>
    exact .bind (.key (by decide)) fun spender => .bind (.key (by decide)) fun owner => .ok _
  | approve => exact .pair (by decide) (by decide)
  | decreaseAllowance => exact .pair (by decide) (by decide)
  | increaseAllowance => exact .pair (by decide) (by decide)
  | transfer => exact .pair (by decide) (by decide)
  | transferFrom =>
    refine .bind .caller fun spender => .bind (.key (by decide)) fun recipient => ?_
    refine .bind (.key (by decide)) fun owner => .bind (.refuseIf (by decide)) fun _ => ?_
    exact .bind (.u256 (by decide)) fun amount => .ok _
  | mint =>
    refine .bind (.refuseIf (by decide)) fun _ => .bind .caller fun caller => ?_
    refine .bind (.refuseIf (by decide)) fun _ => .bind (.key (by decide)) fun owner => ?_
    exact .bind (.u256 (by decide)) fun amount => .ok _
  | burn =>
    refine .bind (.refuseIf (by decide)) fun _ => .bind (.key (by decide)) fun owner => ?_
    refine .bind .caller fun caller => .bind (.refuseIf (by decide)) fun _ => ?_
    exact .bind (.u256 (by decide)) fun amount => .ok _
  | changeSecurity =>
    refine .bind (.refuseIf (by decide)) fun _ => .bind .caller fun caller => ?_
    refine .bind (.refuseIf (by decide)) fun _ => .bind (.optArg (by decide)) fun admins => ?_
    exact .bind (.optArg (by decide)) fun minters => .bind (.optArg (by decide)) fun nones => .ok _

end Cep18
