import Cep18.Lib.Simulate
import Cep18.Model.Reference
import Cep18.Proof.Failures

/-!
# What callers are told

The abstract token answers calls as well as changing: `Token.answer`. The contract gives the
same answers, whatever was called before (`answers_refine`): what a query returns is what the
token says, and what a refused operation stops with is the token's error. Where a call comes
down to no operation, all that is said is that it stops.
-/

namespace Cep18

open Program Constants

variable {Key : Type} [CasperKey Key]

/-! ### The token's answers -/

/-- What a call that goes through returns: a query what it asks for, any other call nothing. -/
def Token.reply (T : Token Key) (c : Call Key) : Option CLValue :=
  match c.entryPoint with
  | .name => some (CLTyped.fromT T.name)
  | .symbol => some (CLTyped.fromT T.symbol)
  | .decimals => some (CLTyped.fromT T.decimals)
  | .totalSupply => some (CLTyped.fromT (BitVec.ofNat 256 T.totalSupply : U256))
  | .balanceOf => do
    let address ← c.env.arg? Key ADDRESS
    some (CLTyped.fromT (BitVec.ofNat 256 (T.balances address) : U256))
  | .allowance => do
    let spender ← c.env.arg? Key SPENDER
    let owner ← c.env.arg? Key OWNER
    some (CLTyped.fromT (BitVec.ofNat 256 (T.allowances owner spender) : U256))
  | _ => some (CLTyped.fromT ())

/-- The token's answer to a call that comes down to an operation. -/
def Token.answer (T : Token Key) (c : Call Key) : Option (Except ApiError CLValue) := do
  let op ← c.op?
  match T.step op with
  | .error e => some (.error e.toApi)
  | .ok _ => (T.reply c).map .ok

/-- The answer is the one expected; where none is, the call stops. -/
def Answers (answer : Except ApiError CLValue) : Option (Except ApiError CLValue) → Prop
  | some expected => answer = expected
  | none => ∃ e, answer = .error e

/-- Two answers that are expected to be the same agree on what is returned. -/
theorem Answers.ok_iff {a b : Except ApiError CLValue} {expected : Option (Except ApiError CLValue)}
    (ha : Answers a expected) (hb : Answers b expected) (v : CLValue) : a = .ok v ↔ b = .ok v := by
  cases expected with
  | some e => rw [show a = e from ha, show b = e from hb]
  | none =>
    obtain ⟨e, rfl⟩ := ha
    obtain ⟨e', rfl⟩ := hb
    constructor
    · intro h; cases h
    · intro h; cases h

/-! ### The contract's answers -/

variable {D : DistinctItemKeys Key} {l : Layout} {T : Token Key} {s : Store Key D.toItemKeys}

theorem answer_of_ok {D : ItemKeys Key} {s s' : Store Key D} {α : Type} {x : HostM Key D α} {a : α}
    (h : x.run s = .ok a s') : answer x s = .ok a := by
  unfold answer
  rw [h]

theorem answer_of_error {D : ItemKeys Key} {s s' : Store Key D} {α : Type} {x : HostM Key D α}
    {e : ApiError} (h : x.run s = .error e s') : answer x s = .error e := by
  unfold answer
  rw [h]

/-- A query that reads `v` returns it. -/
theorem answer_map {D : ItemKeys Key} {s : Store Key D} {V : Type} [CLTyped V] {x : HostM Key D V}
    {v : V} (h : x.run s = .ok v s) : answer (CLTyped.fromT <$> x) s = .ok (CLTyped.fromT v) := by
  have hrun : (CLTyped.fromT <$> x).run s = .ok (CLTyped.fromT v) s := by
    rw [map_eq_pure_bind, bind_of_ok h]
    rfl
  exact answer_of_ok hrun

/-- An operation that goes through returns nothing. -/
theorem answer_seq_pure {D : ItemKeys Key} {s : Store Key D} {x : HostM Key D Unit}
    (h : Succeeds (x *> (pure .unit : HostM Key D CLValue)) s) :
    answer (x *> (pure .unit : HostM Key D CLValue)) s = .ok .unit := by
  obtain ⟨v, s', hv⟩ := h
  have hv' := hv
  rw [seqRight_eq_bind] at hv'
  obtain ⟨_, t, -, hp⟩ := bind_eq_ok.1 hv'
  rw [answer_of_ok hv, ← (pure_eq_ok.1 hp).1]

/-- **What the contract returns is what the token replies.** -/
theorem Rep.reply (h : Rep l T s) {c : Call Key} {op : Op Key} (hop : c.op? = some op)
    (hs : c.Succeeds s) : ∃ v, T.reply c = some v ∧ answer c.program s = .ok v := by
  obtain ⟨entryPoint, env⟩ := c
  unfold Call.Succeeds Call.program at hs
  unfold Call.program
  simp only [Call.op?, Option.bind_eq_bind] at hop
  cases entryPoint
  case name => exact ⟨_, rfl, answer_map (readFrom_run h.cells.name)⟩
  case symbol => exact ⟨_, rfl, answer_map (readFrom_run h.cells.symbol)⟩
  case decimals => exact ⟨_, rfl, answer_map (readFrom_run h.cells.decimals)⟩
  case totalSupply =>
    obtain ⟨n, hn, hT⟩ := h.cells.totalSupply
    refine ⟨_, rfl, ?_⟩
    rw [ofNat_of_toNat_eq hT]
    exact answer_map (readFrom_run hn)
  case balanceOf =>
    obtain ⟨k, hk, -⟩ := Option.bind_eq_some_iff.1 hop
    obtain ⟨b, hb, hT⟩ := readBalanceFrom_run h k
    have hrun : (balanceOf env).run s = .ok b s := by
      unfold balanceOf
      rw [bind_of_ok (getNamedArg_run hk), bind_of_ok (getBalancesUref_run h), hb]
    refine ⟨CLTyped.fromT b, ?_, answer_map hrun⟩
    simp only [Token.reply, hk, Option.bind_eq_bind, Option.bind_some, ofNat_of_toNat_eq hT]
  case allowance =>
    obtain ⟨sp, hsp, hop⟩ := Option.bind_eq_some_iff.1 hop
    obtain ⟨o, ho, -⟩ := Option.bind_eq_some_iff.1 hop
    obtain ⟨a, ha, hT⟩ := readAllowanceFrom_run h o sp
    have hrun : (Cep18.allowance env).run s = .ok a s := by
      unfold Cep18.allowance
      rw [bind_of_ok (getNamedArg_run hsp), bind_of_ok (getNamedArg_run ho),
        bind_of_ok (getAllowancesUref_run h), ha]
    refine ⟨CLTyped.fromT a, ?_, answer_map hrun⟩
    simp only [Token.reply, hsp, ho, Option.bind_eq_bind, Option.bind_some, ofNat_of_toNat_eq hT]
  all_goals exact ⟨_, rfl, answer_seq_pure hs⟩

/-- **A call that comes down to an operation** ends as the operation does. -/
theorem Rep.ends (h : Rep l T s) {c : Call Key} {op : Op Key} (hop : c.op? = some op) :
    match T.step op with
    | .error e => answer c.program s = .error e.toApi
    | .ok _ => ∃ v, T.reply c = some v ∧ answer c.program s = .ok v := by
  have hr := invoke_refines h c
  rw [hop] at hr
  simp only [RefinesAt] at hr
  cases hs : T.step op with
  | error e =>
    rw [hs] at hr
    exact answer_of_error hr
  | ok T' =>
    rw [hs] at hr
    obtain ⟨v, s', hv, -⟩ := hr
    exact h.reply hop ⟨v, s', hv⟩

/-- **One call** is answered as the token answers it. -/
theorem Rep.answered (h : Rep l T s) (c : Call Key) :
    Answers (answer c.program s) (T.answer c) := by
  unfold Token.answer
  cases hop : c.op? with
  | none =>
    have hr := invoke_refines h c
    rw [hop] at hr
    obtain ⟨e, he⟩ := hr
    exact ⟨e, answer_of_error he⟩
  | some op =>
    have hends := h.ends hop
    simp only [Option.bind_eq_bind, Option.bind_some]
    cases hs : T.step op with
    | error e => rw [hs] at hends; exact hends
    | ok T' =>
      rw [hs] at hends
      obtain ⟨v, hv, ha⟩ := hends
      simp only [hv, Option.map_some]
      exact ha

/-- The token has an answer to every call that comes down to an operation. -/
theorem Rep.expects (h : Rep l T s) {c : Call Key} {op : Op Key} (hop : c.op? = some op) :
    ∃ expected, T.answer c = some expected := by
  have hends := h.ends hop
  unfold Token.answer
  simp only [hop, Option.bind_eq_bind, Option.bind_some]
  cases hs : T.step op with
  | error e => exact ⟨.error e.toApi, rfl⟩
  | ok T' =>
    rw [hs] at hends
    obtain ⟨v, hv, -⟩ := hends
    exact ⟨.ok v, by simp only [hv, Option.map_some]⟩

/-! ### Runs -/

/-- From a store that holds a token, every call of a run is answered as the token answers it. -/
theorem Rep.answers : ∀ (calls : List (Call Key)) {s : Store Key D.toItemKeys} {T : Token Key},
    Rep l T s → List.Forall₂ Answers
      (Run.outputs exec (fun s c => answer c.program s) s calls)
      (Run.outputs (fun T c => T.exec c.op?) Token.answer T calls) := by
  intro calls
  induction calls with
  | nil => intro s T _; exact .nil
  | cons c calls ih => intro s T h; exact .cons (h.answered c) (ih (exec_rep h c))

/-- **The contract and the abstract token give the same answers**, call by call, in every run of
an installed token. -/
theorem answers_refine (d : Deployment Key D.toItemKeys) :
    ∃ config, d.env.config? d.name = some config ∧ ∀ calls, List.Forall₂ Answers
      (Run.outputs exec (fun s c => answer c.program s) d.store calls)
      (Run.outputs (fun T c => T.exec c.op?) Token.answer config.token calls) := by
  obtain ⟨config, l, hc, hr⟩ := d.rep
  exact ⟨config, hc, fun calls => hr.answers calls⟩

end Cep18
