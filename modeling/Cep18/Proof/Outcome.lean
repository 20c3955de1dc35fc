import Cep18.Proof.Rep

/-!
# Meeting an abstract outcome

The abstract token either changes or refuses an operation with an error. A program
meets that outcome (`MeetsAt`) if it leads to a store that holds the new token, or stops
with that error having written nothing. `RefinesAt` adds the calls that come down to no
operation (no caller, or a malformed argument): they stop having written nothing.

The rules peel a program off from its front: what it reads, who calls it and which
arguments it is given.
-/

namespace Cep18

open Program Constants Checked

variable {Key : Type} [CasperKey Key] {α β : Type}

/-- From `s`, the program stops having written nothing. -/
def Refused {D : ItemKeys Key} (x : HostM Key D α) (s : Store Key D) : Prop :=
  ∃ e, x.run s = .error e s

theorem Refused.bind {D : ItemKeys Key} {x : HostM Key D α} {f : α → HostM Key D β}
    {s : Store Key D} (h : Refused x s) : Refused (x >>= f) s :=
  h.imp fun _ he => bind_of_error he

variable {D : DistinctItemKeys Key}
variable {l : Layout} {T : Token Key} {s : Store Key D.toItemKeys} {env : Env Key}

/-- From `s`, the program does what the abstract outcome says. -/
def MeetsAt (l : Layout) (x : HostM Key D.toItemKeys α) (s : Store Key D.toItemKeys) :
    Except Cep18Error (Token Key) → Prop
  | .ok T' => ∃ a s', x.run s = .ok a s' ∧ Rep l T' s'
  | .error e => x.run s = .error e.toApi s

/-- From `s`, the program does what the abstract operation does, if there is one. -/
def RefinesAt (l : Layout) (T : Token Key) (x : HostM Key D.toItemKeys α)
    (s : Store Key D.toItemKeys) : Option (Op Key) → Prop
  | none => Refused x s
  | some op => MeetsAt l x s (T.step op)

/-! ### Rules -/

section Rules

variable {x : HostM Key D.toItemKeys α} {f : α → HostM Key D.toItemKeys β} {a : α}
variable {r : Except Cep18Error (Token Key)} {o : Option (Op Key)}

theorem Refused.revert (e : Cep18Error) :
    Refused (revert e : HostM Key D.toItemKeys α) s := ⟨e.toApi, rfl⟩

theorem MeetsAt.bind_ok (h : x.run s = .ok a s) (hf : MeetsAt l (f a) s r) :
    MeetsAt l (x >>= f) s r := by
  cases r <;> simp only [MeetsAt, bind_of_ok h] <;> exact hf

theorem MeetsAt.bind_error {e : Cep18Error} (h : x.run s = .error e.toApi s) :
    MeetsAt l (x >>= f) s (.error e) := bind_of_error h

theorem MeetsAt.of_ensures {T' : Token Key} (h : Rep l T s)
    (hx : Ensures (Rep l T) x (Rep l T')) : MeetsAt l x s (.ok T') := hx s h

/-- After a program that meets an outcome, one that always succeeds changes it by `g`. -/
theorem MeetsAt.bind_ensures {g : Token Key → Token Key} (h : MeetsAt l x s r)
    (hf : ∀ T' a, Ensures (Rep l T') (f a) (Rep l (g T'))) :
    MeetsAt l (x >>= f) s (r.map g) := by
  cases r with
  | error e => exact bind_of_error h
  | ok T' =>
    obtain ⟨a, s', hx, hs'⟩ := h
    obtain ⟨b, s'', hb, hs''⟩ := hf T' a s' hs'
    exact ⟨b, s'', (bind_of_ok hx).trans hb, hs''⟩

/-- A subtraction that is refused when it would be negative. -/
theorem MeetsAt.checkedSub {a b : U256} {n : ℕ} {e : Cep18Error} (ha : a.toNat = n)
    {f : U256 → HostM Key D.toItemKeys β}
    (h : b.toNat ≤ n → ∀ v : U256, v.toNat = n - b.toNat → MeetsAt l (f v) s r) :
    MeetsAt l (unwrapOrRevertWith e.toApi (checkedSub a b) >>= f) s
      (if n < b.toNat then .error e else r) := by
  subst ha
  by_cases hlt : a.toNat < b.toNat
  · rw [if_pos hlt, checkedSub_eq_none.2 hlt]
    exact MeetsAt.bind_error rfl
  · obtain ⟨v, hv, hn⟩ := exists_checkedSub (Nat.le_of_not_lt hlt)
    rw [if_neg hlt, hv]
    exact MeetsAt.bind_ok rfl (h (Nat.le_of_not_lt hlt) v hn)

/-- An addition that is refused when it would overflow. -/
theorem MeetsAt.checkedAdd {a b : U256} {n : ℕ} {e : Cep18Error} (ha : a.toNat = n)
    {f : U256 → HostM Key D.toItemKeys β}
    (h : n + b.toNat ≤ U256.MAX → ∀ v : U256, v.toNat = n + b.toNat → MeetsAt l (f v) s r) :
    MeetsAt l (unwrapOrRevertWith e.toApi (checkedAdd a b) >>= f) s
      (if U256.MAX < n + b.toNat then .error e else r) := by
  subst ha
  by_cases hgt : U256.MAX < a.toNat + b.toNat
  · rw [if_pos hgt, checkedAdd_eq_none.2 hgt]
    exact MeetsAt.bind_error rfl
  · obtain ⟨v, hv, hn⟩ := exists_checkedAdd (Nat.le_of_not_lt hgt)
    rw [if_neg hgt, hv]
    exact MeetsAt.bind_ok rfl (h (Nat.le_of_not_lt hgt) v hn)

theorem RefinesAt.bind_ok (h : x.run s = .ok a s) (hf : RefinesAt l T (f a) s o) :
    RefinesAt l T (x >>= f) s o := by
  cases o with
  | none => exact hf.imp fun _ he => (bind_of_ok h).trans he
  | some op => exact MeetsAt.bind_ok h hf

/-- A program that stops with `e` at once refines an operation refused with `e`. -/
theorem RefinesAt.of_error {e : Cep18Error} (h : x.run s = .error e.toApi s)
    (ho : ∀ op, o = some op → T.step op = .error e) : RefinesAt l T x s o := by
  cases o with
  | none => exact ⟨_, h⟩
  | some op =>
    simp only [RefinesAt, ho op rfl]
    exact h

/-- A check that refuses the operation, whatever arguments are still to be read. -/
theorem RefinesAt.ite_revert {p : Prop} [Decidable p] {e : Cep18Error}
    (hp : p → ∀ op, o = some op → T.step op = .error e) (h : ¬ p → RefinesAt l T x s o) :
    RefinesAt l T (if p then revert e else x) s o := by
  by_cases hc : p
  · rw [if_pos hc]; exact RefinesAt.of_error rfl (hp hc)
  · rw [if_neg hc]; exact h hc

/-- What a program returns does not matter to what it refines. -/
theorem RefinesAt.map {v : α → β} (h : RefinesAt l T x s o) : RefinesAt l T (v <$> x) s o := by
  rw [← bind_pure_comp]
  cases o with
  | none => exact Refused.bind h
  | some op =>
    simp only [RefinesAt] at h ⊢
    cases hr : T.step op with
    | error e => rw [hr] at h; exact MeetsAt.bind_error h
    | ok T' =>
      rw [hr] at h
      obtain ⟨a, s', hx, hs'⟩ := h
      exact ⟨v a, s', (bind_of_ok hx).trans rfl, hs'⟩

theorem RefinesAt.seq_pure {b : β} (h : RefinesAt l T x s o) :
    RefinesAt l T (x *> pure b) s o := by
  have hx : (x *> pure b : HostM Key D.toItemKeys β) = (fun _ => b) <$> x := by
    rw [seqRight_eq_bind, bind_pure_comp]
  rw [hx]; exact h.map

end Rules

/-! ### Callers and arguments -/

theorem getNamedArg_run {D : ItemKeys Key} {s : Store Key D} {V : Type} [FromArg Key V]
    {name : String} {v : V} (h : env.arg? V name = some v) :
    (getNamedArg env name : HostM Key D V).run s = .ok v s := by
  unfold Env.arg? at h
  unfold getNamedArg
  cases ha : env.args name with
  | none => rw [ha] at h; cases h
  | some arg =>
    rw [ha] at h
    simp only [Option.bind_some] at h
    simp only [h, pure_run]

theorem getNamedArg_refused {D : ItemKeys Key} {s : Store Key D} {V : Type} [FromArg Key V]
    {name : String} (h : env.arg? V name = none) :
    Refused (getNamedArg env name : HostM Key D V) s := by
  unfold Env.arg? at h
  unfold getNamedArg Refused
  cases ha : env.args name with
  | none => exact ⟨.missingArgument, rfl⟩
  | some arg =>
    rw [ha] at h
    simp only [Option.bind_some] at h
    simp only [h]
    exact ⟨.invalidArgument, rfl⟩

theorem getOptionalNamedArg_run {V : Type} [FromArg Key V] {name : String} {invalid : Cep18Error}
    {v : Option V} (h : env.optArg? V name = some v) :
    (getOptionalNamedArgWithUserErrors env name invalid : HostM Key D.toItemKeys (Option V)).run s =
      .ok v s := by
  unfold Env.optArg? at h
  unfold getOptionalNamedArgWithUserErrors getNamedArgWithUserErrors
  cases ha : env.args name with
  | none => rw [ha] at h; cases h; rfl
  | some arg =>
    rw [ha] at h
    simp only at h
    cases hv : (FromArg.fromArg arg : Option V) with
    | none => rw [hv] at h; cases h
    | some w => rw [hv] at h; cases h; simp only [pure_run, hv]

theorem getOptionalNamedArg_refused {V : Type} [FromArg Key V] {name : String}
    {invalid : Cep18Error} (hi : invalid ≠ .Phantom) (h : env.optArg? V name = none) :
    (getOptionalNamedArgWithUserErrors env name invalid : HostM Key D.toItemKeys (Option V)).run s =
      .error invalid.toApi s := by
  unfold Env.optArg? at h
  unfold getOptionalNamedArgWithUserErrors getNamedArgWithUserErrors
  cases ha : env.args name with
  | none => rw [ha] at h; cases h
  | some arg =>
    rw [ha] at h
    simp only at h
    cases hv : (FromArg.fromArg arg : Option V) with
    | some w => rw [hv] at h; cases h
    | none => simp only [hv]; cases invalid <;> first | exact absurd rfl hi | rfl

theorem callerIdentity_eq_some {k : Key} :
    env.callerIdentity = some k ↔ getImmediateCallerAddress env = .ok k := by
  unfold Env.callerIdentity
  cases getImmediateCallerAddress env <;> simp [Except.toOption]

theorem callerIdentity_eq_none :
    env.callerIdentity = none ↔ getImmediateCallerAddress env = .error .InvalidContext := by
  unfold Env.callerIdentity getImmediateCallerAddress
  cases env.callStack.reverse[1]? <;> simp [Except.toOption]

section ArgRules

variable {l : Layout} {T : Token Key} {s : Store Key D.toItemKeys} {env : Env Key}

theorem RefinesAt.caller {f : Key → HostM Key D.toItemKeys β} {g : Key → Option (Op Key)}
    (h : ∀ k, env.callerIdentity = some k → RefinesAt l T (f k) s (g k)) :
    RefinesAt l T (unwrapOrRevert (getImmediateCallerAddress env) >>= f) s
      (env.callerIdentity >>= g) := by
  cases hc : env.callerIdentity with
  | none =>
    rw [callerIdentity_eq_none.1 hc]
    exact Refused.bind (Refused.revert _)
  | some k =>
    rw [callerIdentity_eq_some.1 hc]
    simpa using h k hc

theorem RefinesAt.arg {V : Type} [FromArg Key V] {name : String}
    {f : V → HostM Key D.toItemKeys β} {g : V → Option (Op Key)}
    (h : ∀ v, env.arg? V name = some v → RefinesAt l T (f v) s (g v)) :
    RefinesAt l T (getNamedArg env name >>= f) s (env.arg? V name >>= g) := by
  cases hv : env.arg? V name with
  | none => exact Refused.bind (getNamedArg_refused hv)
  | some v => exact RefinesAt.bind_ok (getNamedArg_run hv) (h v hv)

theorem RefinesAt.optArg {V : Type} [FromArg Key V] {name : String} {invalid : Cep18Error}
    (hi : invalid ≠ .Phantom) {f : Option V → HostM Key D.toItemKeys β}
    {g : Option V → Option (Op Key)}
    (h : ∀ v, RefinesAt l T (f v) s (g v)) :
    RefinesAt l T (getOptionalNamedArgWithUserErrors env name invalid >>= f) s
      (env.optArg? V name >>= g) := by
  cases hv : env.optArg? V name with
  | none => exact Refused.bind ⟨_, getOptionalNamedArg_refused hi hv⟩
  | some v => exact RefinesAt.bind_ok (getOptionalNamedArg_run hv) (h v)

end ArgRules

end Cep18
