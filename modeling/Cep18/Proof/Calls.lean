import Cep18.Proof.Deploy
import Cep18.Spec.Step

/-!
# What one call does to the store

`call_cases` joins the two levels. On a store that holds a token, a call either fails
and leaves the store as it was, or does what an operation does (`Token.Takes`), and the
entry point, the caller and the arguments are those of the operation (`Call.Describes`).

`Holds` is the invariant of runs: the store holds a sound token. A deployment starts with
it and every call keeps it.
-/

namespace Cep18

open Program Constants

variable {Key : Type} [CasperKey Key]

/-- The call is one of an operation: its entry point, its caller and its arguments. -/
def Call.Describes (c : Call Key) : Op Key → Prop
  | .query => c.entryPoint ∈
      [EntryPoint.name, .symbol, .decimals, .totalSupply, .balanceOf, .allowance]
  | .init => c.entryPoint = .init
  | .approve owner spender amount => c.entryPoint = .approve ∧
      c.env.callerIdentity = some owner ∧ c.env.arg? Key SPENDER = some spender ∧
      c.env.arg? U256 AMOUNT = some amount
  | .decreaseAllowance owner spender amount => c.entryPoint = .decreaseAllowance ∧
      c.env.callerIdentity = some owner ∧ c.env.arg? Key SPENDER = some spender ∧
      c.env.arg? U256 AMOUNT = some amount
  | .increaseAllowance owner spender amount => c.entryPoint = .increaseAllowance ∧
      c.env.callerIdentity = some owner ∧ c.env.arg? Key SPENDER = some spender ∧
      c.env.arg? U256 AMOUNT = some amount
  | .transfer sender recipient amount => c.entryPoint = .transfer ∧
      c.env.callerIdentity = some sender ∧ c.env.arg? Key RECIPIENT = some recipient ∧
      c.env.arg? U256 AMOUNT = some amount
  | .transferFrom spender owner recipient amount => c.entryPoint = .transferFrom ∧
      c.env.callerIdentity = some spender ∧ c.env.arg? Key RECIPIENT = some recipient ∧
      c.env.arg? Key OWNER = some owner ∧ c.env.arg? U256 AMOUNT = some amount
  | .mint caller owner amount => c.entryPoint = .mint ∧
      c.env.callerIdentity = some caller ∧ c.env.arg? Key OWNER = some owner ∧
      c.env.arg? U256 AMOUNT = some amount
  | .burn caller owner amount => c.entryPoint = .burn ∧
      c.env.arg? Key OWNER = some owner ∧ c.env.callerIdentity = some caller ∧
      c.env.arg? U256 AMOUNT = some amount
  | .changeSecurity caller adminList minterList noneList => c.entryPoint = .changeSecurity ∧
      c.env.callerIdentity = some caller ∧ c.env.optArg? (List Key) ADMIN_LIST = some adminList ∧
      c.env.optArg? (List Key) MINTER_LIST = some minterList ∧
      c.env.optArg? (List Key) NONE_LIST = some noneList

/-- **The operation a call comes down to describes it.** -/
theorem Call.describes_of_op? {c : Call Key} {op : Op Key} (h : c.op? = some op) :
    c.Describes op := by
  obtain ⟨entryPoint, env⟩ := c
  cases entryPoint <;> simp only [Call.op?, Option.bind_eq_bind, Option.bind_eq_some_iff] at h
  case init => cases h; rfl
  case name => cases h; simp [Describes]
  case symbol => cases h; simp [Describes]
  case decimals => cases h; simp [Describes]
  case totalSupply => cases h; simp [Describes]
  case balanceOf =>
    obtain ⟨_, -, ⟨⟩⟩ := h
    simp [Describes]
  case allowance =>
    obtain ⟨_, -, _, -, ⟨⟩⟩ := h
    simp [Describes]
  case transferFrom =>
    obtain ⟨_, h1, _, h2, _, h3, _, h4, ⟨⟩⟩ := h
    exact ⟨rfl, h1, h2, h3, h4⟩
  case changeSecurity =>
    obtain ⟨_, h1, _, h2, _, h3, _, h4, ⟨⟩⟩ := h
    exact ⟨rfl, h1, h2, h3, h4⟩
  all_goals
    obtain ⟨_, h1, _, h2, _, h3, ⟨⟩⟩ := h
    exact ⟨rfl, h1, h2, h3⟩

/-- A call that is one of an operation comes down to it; a query may have other arguments that
are malformed. -/
theorem Call.op?_of_describes {c : Call Key} {op : Op Key} (h : c.Describes op)
    (hq : op ≠ .query) : c.op? = some op := by
  obtain ⟨entryPoint, env⟩ := c
  cases op with
  | query => exact absurd rfl hq
  | init =>
    obtain rfl : entryPoint = .init := h
    rfl
  | transferFrom spender owner recipient amount =>
    obtain ⟨rfl, h1, h2, h3, h4⟩ := h
    simp only at h1 h2 h3 h4
    simp [Call.op?, h1, h2, h3, h4]
  | changeSecurity caller adminList minterList noneList =>
    obtain ⟨rfl, h1, h2, h3, h4⟩ := h
    simp only at h1 h2 h3 h4
    simp [Call.op?, h1, h2, h3, h4]
  | _ =>
    obtain ⟨rfl, h1, h2, h3⟩ := h
    simp only at h1 h2 h3
    simp [Call.op?, h1, h2, h3]

variable {D : DistinctItemKeys Key} {l : Layout} {T : Token Key} {s : Store Key D.toItemKeys}

/-- **One call**: it fails and leaves the store as it was, or it takes an operation's step. -/
theorem call_cases (h : Rep l T s) (c : Call Key) :
    (¬ c.Succeeds s ∧ exec s c = s ∧ T.exec c.op? = T) ∨
      ∃ op, c.Succeeds s ∧ c.op? = some op ∧ c.Describes op ∧ T.Takes op (T.exec c.op?) ∧
        Rep l (T.exec c.op?) (exec s c) := by
  rcases T.exec_cases c.op? with ⟨he, hne⟩ | ⟨op, hop, hstep, ht⟩
  · -- no operation, or one that is refused
    have hs : ¬ c.Succeeds s := by
      rw [succeeds_iff h]
      rintro ⟨op, T', hop, hstep⟩
      obtain ⟨e, herr⟩ := hne op hop
      rw [hstep] at herr; cases herr
    left
    exact ⟨hs, exec_of_not_succeeds hs, he⟩
  · have hs : c.Succeeds s := (succeeds_iff h c).2 ⟨op, _, hop, hstep⟩
    have hd : c.Describes op := Call.describes_of_op? hop
    right
    exact ⟨op, hs, hop, hd, ht, exec_rep h c⟩

/-- The store holds a sound token. -/
def Holds (s : Store Key D.toItemKeys) : Prop := ∃ l T, Rep l T s ∧ T.Sound

theorem Holds.exec (h : Holds s) (c : Call Key) : Holds (exec s c) := by
  obtain ⟨l, T, hr, hT⟩ := h
  exact ⟨l, T.exec c.op?, exec_rep hr c, hT.exec _⟩

theorem Holds.run (h : Holds s) (calls : List (Call Key)) : Holds (run s calls) := by
  have hstep : ∀ (s : Store Key D.toItemKeys) (c : Call Key), Holds s →
      Holds (Cep18.exec s c) := fun s c hs => hs.exec c
  exact Run.foldl_invariant hstep calls h

/-- **A deployment starts with a sound token**, and every state it reaches holds one. -/
theorem Deployment.holds (d : Deployment Key D.toItemKeys) : Holds d.store := by
  obtain ⟨c, l, -, hr⟩ := d.rep
  exact ⟨l, c.token, hr, c.sound⟩

theorem Deployment.holds_after (d : Deployment Key D.toItemKeys) (calls : List (Call Key)) :
    Holds (d.after calls) := d.holds.run calls

end Cep18
