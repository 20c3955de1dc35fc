import Cep18.Model.Interface
import Cep18.Proof.Answers
import Cep18.Proof.Arguments

/-!
# The declared interface is the real one

In every state that an installed token reaches (`interface_exact`), an entry point is found by its
declared name; a call that goes through was given every declared parameter, and returns a value of
the declared type; a call that is given them stops with no error but the contract's own; and what
else it is given does not matter, but for three lists that `change_security` reads undeclared.
-/

namespace Cep18

open Program Constants

variable {Key : Type} [CasperKey Key]

/-! ### Types of arguments and values -/

/-- The type of a value, of those that are declared. -/
def CLValue.clType : CLValue → Option CLType
  | .unit => some .Unit
  | .u8 _ => some .U8
  | .u32 _ => none
  | .u256 _ => some .U256
  | .string _ => some .String

/-- The lists that `change_security` reads although it is declared to take no arguments. A comment
on its declaration announces these and two more, which the contract does not read. -/
def undeclaredLists : List String := [ADMIN_LIST, MINTER_LIST, NONE_LIST]

/-- What the entry points are declared to take. -/
theorem EntryPoint.declaration_args (entryPoint : EntryPoint) :
    entryPoint.declaration.args = match entryPoint with
      | .balanceOf => [⟨ADDRESS, .Key⟩]
      | .allowance => [⟨OWNER, .Key⟩, ⟨SPENDER, .Key⟩]
      | .transfer => [⟨RECIPIENT, .Key⟩, ⟨AMOUNT, .U256⟩]
      | .approve | .decreaseAllowance | .increaseAllowance => [⟨SPENDER, .Key⟩, ⟨AMOUNT, .U256⟩]
      | .transferFrom => [⟨OWNER, .Key⟩, ⟨RECIPIENT, .Key⟩, ⟨AMOUNT, .U256⟩]
      | .mint | .burn => [⟨OWNER, .Key⟩, ⟨AMOUNT, .U256⟩]
      | _ => [] := by
  cases entryPoint <;> rfl

/-- The entry points are told apart by their declared names. -/
theorem EntryPoint.ofName_declaration (entryPoint : EntryPoint) :
    ofName entryPoint.declaration.name = some entryPoint := by
  cases entryPoint <;> decide

/-! ### What is needed -/

/-- A call comes down to an operation only if it was given its parameters. -/
theorem Call.given_of_op? {c : Call Key} {op : Op Key} (h : c.op? = some op) :
    ∀ p ∈ c.entryPoint.declaration.args, p.Given c.env.args := by
  obtain ⟨entryPoint, env⟩ := c
  intro p hp
  simp only [Call.op?, Option.bind_eq_bind] at h
  -- without the argument in question there is no operation
  cases entryPoint <;>
    simp only [EntryPoint.declaration_args, List.mem_cons, List.not_mem_nil, or_false] at hp
  case balanceOf =>
    subst hp
    rw [Parameter.given_key, Option.isSome_iff_ne_none]
    intro hn
    simp [hn] at h
  case transferFrom =>
    rcases hp with rfl | rfl | rfl <;>
      simp only [Parameter.given_key, Parameter.given_u256, Option.isSome_iff_ne_none] <;>
      intro hn <;> simp [hn] at h
  all_goals
    rcases hp with rfl | rfl <;>
      simp only [Parameter.given_key, Parameter.given_u256, Option.isSome_iff_ne_none] <;>
      intro hn <;> simp [hn] at h

/-! ### What does not matter -/

/-- An entry point of an installed token reads what it is declared to take; `change_security` reads
its lists. -/
theorem EntryPoint.reads_declared {entryPoint : EntryPoint} (hinit : entryPoint ≠ .init) :
    ∀ p ∈ entryPoint.reads, (∃ q ∈ entryPoint.declaration.args, q.name = p.1) ∨
      entryPoint = .changeSecurity ∧ p.1 ∈ undeclaredLists := by
  cases entryPoint
  case init => exact absurd rfl hinit
  all_goals decide

variable {D : ItemKeys Key}

/-- An entry point of an installed token looks at its immediate caller and at these arguments. -/
theorem invoke_congr_declared {entryPoint : EntryPoint} (hinit : entryPoint ≠ .init)
    {env env' : Env Key} (hcaller : (getImmediateCallerAddress env' : Except Cep18Error Key) =
      getImmediateCallerAddress env)
    (hargs : ∀ p ∈ entryPoint.declaration.args, env'.args p.name = env.args p.name)
    (hlists : entryPoint = .changeSecurity →
      ∀ name ∈ undeclaredLists, env'.args name = env.args name) :
    (invoke entryPoint env' : HostM Key D CLValue) = invoke entryPoint env := by
  refine invoke_congr_reads hcaller (fun he => absurd he hinit) fun p hp => ?_
  refine ArgType.same_of_eq ?_ p.2
  rcases EntryPoint.reads_declared hinit p hp with ⟨q, hq, hname⟩ | ⟨hcs, hlist⟩
  · rw [← hname]
    exact hargs q hq
  · exact hlists hcs p.1 hlist

/-! ### Calls of an installed token -/

/-- What the token replies is of the declared type. -/
theorem Token.reply_clType {T : Token Key} {c : Call Key} {v : CLValue} (h : T.reply c = some v) :
    v.clType = some c.entryPoint.declaration.ret := by
  obtain ⟨entryPoint, env⟩ := c
  unfold reply at h
  cases entryPoint
  case balanceOf =>
    obtain ⟨address, -, hv⟩ := Option.bind_eq_some_iff.1 h
    cases hv; rfl
  case allowance =>
    obtain ⟨spender, -, h⟩ := Option.bind_eq_some_iff.1 h
    obtain ⟨owner, -, hv⟩ := Option.bind_eq_some_iff.1 h
    cases hv; rfl
  all_goals cases h; rfl

section Held

variable {D : DistinctItemKeys Key} {l : Layout} {T : Token Key} {s : Store Key D.toItemKeys}

/-- What goes through was given its parameters, and returns what is declared. -/
theorem Rep.returns (h : Rep l T s) {c : Call Key} {v : CLValue}
    (hv : answer c.program s = .ok v) :
    v.clType = some c.entryPoint.declaration.ret ∧
      ∀ p ∈ c.entryPoint.declaration.args, p.Given c.env.args := by
  have hs : c.Succeeds s := succeeds_iff_answer.2 ⟨v, hv⟩
  obtain ⟨op, T', hop, -⟩ := (succeeds_iff h c).1 hs
  obtain ⟨w, hw, ha⟩ := h.reply hop hs
  rw [hv] at ha
  cases ha
  exact ⟨Token.reply_clType hw, Call.given_of_op? hop⟩

/-- What is given its parameters stops with the contract's errors only. -/
theorem Rep.own_errors (h : Rep l T s) {c : Call Key}
    (hgiven : ∀ p ∈ c.entryPoint.declaration.args, p.Given c.env.args) {e : ApiError}
    (he : answer c.program s = .error e) : ∃ err : Cep18Error, e = err.toApi := by
  cases hop : c.op? with
  | none =>
    -- the checks have no parameter to complain of
    obtain ⟨e', hchecks, hstops⟩ := h.stops_of_none hop
    have hsame : e = e' := Except.error.inj (he.symm.trans (answer_of_error hstops))
    rw [hsame]
    rcases c.admission_checks e' hchecks with ⟨err, -, herr⟩ | ⟨-, p, hp, hmissing⟩
    · exact ⟨err, herr⟩
    · exact absurd (hgiven p hp) hmissing
  | some op =>
    have hends := h.ends hop
    cases hs : T.step op with
    | error err =>
      rw [hs] at hends
      exact ⟨err, Except.error.inj (he.symm.trans hends)⟩
    | ok T' =>
      -- it goes through
      rw [hs] at hends
      obtain ⟨v, -, hv⟩ := hends
      have hboth : (Except.error e : Except ApiError CLValue) = .ok v := he.symm.trans hv
      cases hboth

/-- Another initialisation stops before it looks at anything. -/
theorem Rep.init_stops (h : Rep l T s) (env : Env Key) :
    answer (invoke .init env) s = .error (Cep18Error.toApi .AlreadyInitialized) ∧
      exec s ⟨.init, env⟩ = s := by
  have hstop : answer (invoke .init env) s = .error (Cep18Error.toApi .AlreadyInitialized) :=
    h.answered ⟨.init, env⟩
  refine ⟨hstop, exec_of_not_succeeds fun hs => ?_⟩
  obtain ⟨v, hv⟩ := succeeds_iff_answer.1 hs
  have hboth := hstop.symm.trans hv
  cases hboth

end Held

/-- **The declared interface is the real one**: in every state that an installed token reaches,

* the entry point is found under its declared name;
* a call that goes through was given each declared parameter, at its type, and returns a value of
  the declared type;
* a call that is given its declared parameters stops with no error but the contract's own;
* no undeclared argument, other than the three lists of `change_security`, and neither who signed
  the deploy nor who called the caller makes a difference. -/
theorem interface_exact {D : DistinctItemKeys Key} (d : Deployment Key D.toItemKeys)
    (calls : List (Call Key)) (c : Call Key) :
    EntryPoint.ofName c.entryPoint.declaration.name = some c.entryPoint ∧
      (∀ v, answer c.program (d.after calls) = .ok v →
        v.clType = some c.entryPoint.declaration.ret ∧
          ∀ p ∈ c.entryPoint.declaration.args, p.Given c.env.args) ∧
      ((∀ p ∈ c.entryPoint.declaration.args, p.Given c.env.args) →
        ∀ e, answer c.program (d.after calls) = .error e → ∃ err : Cep18Error, e = err.toApi) ∧
      ∀ env' : Env Key, (getImmediateCallerAddress env' : Except Cep18Error Key) =
          getImmediateCallerAddress c.env →
        (∀ p ∈ c.entryPoint.declaration.args, env'.args p.name = c.env.args p.name) →
        (c.entryPoint = .changeSecurity →
          ∀ name ∈ undeclaredLists, env'.args name = c.env.args name) →
        answer (invoke c.entryPoint env') (d.after calls) = answer c.program (d.after calls) ∧
          exec (d.after calls) ⟨c.entryPoint, env'⟩ = exec (d.after calls) c := by
  obtain ⟨config, l, -, hr⟩ := d.rep
  have hrep := run_rep hr calls
  refine ⟨c.entryPoint.ofName_declaration, fun v hv => hrep.returns hv,
    fun hgiven e he => hrep.own_errors hgiven he, ?_⟩
  obtain ⟨entryPoint, env⟩ := c
  intro env' hcaller hargs hlists
  by_cases hinit : entryPoint = .init
  · subst hinit
    obtain ⟨h, hexec⟩ := hrep.init_stops env
    obtain ⟨h', hexec'⟩ := hrep.init_stops env'
    exact ⟨h'.trans h.symm, hexec'.trans hexec.symm⟩
  · have hsame := invoke_congr_declared (D := D.toItemKeys) hinit hcaller hargs hlists
    refine ⟨by rw [hsame]; rfl, ?_⟩
    unfold exec Call.program
    rw [hsame]

end Cep18
