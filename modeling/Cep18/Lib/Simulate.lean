import Cep18.Lib.Program

/-!
# Two programs side by side

`Simulates R x y`: from states related by `R`, the programs `x` and `y` stop alike, with
the same value or the same error, and in states related by `R` again. The two may work on
states of different types. There is a rule for each way of putting programs together, so
two programs built alike from primitives that agree agree themselves.

`answer` is what the caller of a program gets to see of it.
-/

namespace Program

variable {ε σ τ α β : Type}

/-- What a program returns, or the error it stops with. -/
def answer (x : EStateM ε σ α) (s : σ) : Except ε α :=
  match x.run s with
  | .ok a _ => .ok a
  | .error e _ => .error e

theorem succeeds_iff_answer {x : EStateM ε σ α} {s : σ} :
    Succeeds x s ↔ ∃ a, answer x s = .ok a := by
  unfold Succeeds answer
  cases x.run s with
  | ok a s' => simp
  | error e s' => simp

/-- Two outcomes with the same answer, in related states. -/
inductive Agree (R : σ → τ → Prop) : EStateM.Result ε σ α → EStateM.Result ε τ α → Prop
  | ok {a : α} {s : σ} {t : τ} (related : R s t) : Agree R (.ok a s) (.ok a t)
  | error {e : ε} {s : σ} {t : τ} (related : R s t) : Agree R (.error e s) (.error e t)

/-- Outcomes that agree do so in whatever the states, seen through `φ` and `ψ`, are related by. -/
theorem Agree.onState {R : σ → τ → Prop} {σ' τ' : Type} {S : σ' → τ' → Prop} {φ : σ → σ'}
    {ψ : τ → τ'} {r : EStateM.Result ε σ α} {r' : EStateM.Result ε τ α} (h : Agree R r r')
    (hS : ∀ s t, R s t → S (φ s) (ψ t)) : Agree S (onState φ r) (onState ψ r') := by
  cases h with
  | ok hR => exact .ok (hS _ _ hR)
  | error hR => exact .error (hS _ _ hR)

/-- From related states, the two programs have outcomes that agree. -/
def Simulates (R : σ → τ → Prop) (x : EStateM ε σ α) (y : EStateM ε τ α) : Prop :=
  ∀ s t, R s t → Agree R (x.run s) (y.run t)

namespace Simulates

variable {R : σ → τ → Prop} {x : EStateM ε σ α} {y : EStateM ε τ α}
variable {f : α → EStateM ε σ β} {g : α → EStateM ε τ β}

theorem pure (a : α) : Simulates R (pure a : EStateM ε σ α) (pure a) := fun _ _ h => .ok h

theorem throw (e : ε) : Simulates R (throw e : EStateM ε σ α) (throw e) := fun _ _ h => .error h

/-- **Sequencing.** What follows need only agree on the values that can arise. -/
theorem bind_of {P : α → Prop} (h : Simulates R x y) (hP : ∀ s a s', x.run s = .ok a s' → P a)
    (hf : ∀ a, P a → Simulates R (f a) (g a)) : Simulates R (x >>= f) (y >>= g) := by
  intro s t hR
  have hxy := h s t hR
  cases hx : x.run s with
  | ok a s' =>
    rw [hx] at hxy
    cases hy : y.run t with
    | ok b t' =>
      rw [hy] at hxy
      cases hxy with
      | ok h' =>
        rw [bind_of_ok hx, bind_of_ok hy]
        exact hf a (hP s a s' hx) s' t' h'
    | error e t' => rw [hy] at hxy; cases hxy
  | error e s' =>
    rw [hx] at hxy
    cases hy : y.run t with
    | ok b t' => rw [hy] at hxy; cases hxy
    | error e' t' =>
      rw [hy] at hxy
      cases hxy with
      | error h' =>
        rw [bind_of_error hx, bind_of_error hy]
        exact .error h'

theorem bind (h : Simulates R x y) (hf : ∀ a, Simulates R (f a) (g a)) :
    Simulates R (x >>= f) (y >>= g) :=
  bind_of (P := fun _ => True) h (fun _ _ _ _ => trivial) fun a _ => hf a

theorem seqRight {x' : EStateM ε σ β} {y' : EStateM ε τ β} (h : Simulates R x y)
    (h' : Simulates R x' y') : Simulates R (x *> x') (y *> y') := by
  rw [seqRight_eq_bind, seqRight_eq_bind]
  exact h.bind fun _ => h'

theorem map (h : Simulates R x y) (φ : α → β) : Simulates R (φ <$> x) (φ <$> y) := by
  rw [map_eq_pure_bind, map_eq_pure_bind]
  exact h.bind fun a => pure (φ a)

theorem ite {p : Prop} [Decidable p] {x' : EStateM ε σ α} {y' : EStateM ε τ α}
    (h : p → Simulates R x y) (h' : ¬ p → Simulates R x' y') :
    Simulates R (if p then x else x') (if p then y else y') := by
  by_cases hp : p
  · rw [if_pos hp, if_pos hp]; exact h hp
  · rw [if_neg hp, if_neg hp]; exact h' hp

theorem forM {body : β → EStateM ε σ PUnit} {body' : β → EStateM ε τ PUnit}
    (h : ∀ b, Simulates R (body b) (body' b)) :
    ∀ l : List β, Simulates R (l.forM body) (l.forM body') := by
  intro l
  induction l with
  | nil => exact pure _
  | cons b l ih => exact (h b).bind fun _ => ih

/-- Programs that agree give their callers the same answer. -/
theorem answer_eq (h : Simulates R x y) {s : σ} {t : τ} (hR : R s t) :
    answer x s = answer y t := by
  have hxy := h s t hR
  unfold answer
  cases hxy' : x.run s <;> cases hy : y.run t <;> rw [hxy', hy] at hxy <;> cases hxy <;> rfl

/-- Rolled back where they stop with an error, programs that agree lead into related states. -/
theorem commit (h : Simulates R x y) {s : σ} {t : τ} (hR : R s t) :
    R (commit x s) (commit y t) := by
  have hxy := h s t hR
  cases hx : x.run s with
  | ok a s' =>
    rw [hx] at hxy
    cases hy : y.run t with
    | ok b t' =>
      rw [hy] at hxy
      rw [commit_of_ok hx, commit_of_ok hy]
      cases hxy with
      | ok h' => exact h'
    | error e t' => rw [hy] at hxy; cases hxy
  | error e s' =>
    rw [hx] at hxy
    cases hy : y.run t with
    | ok b t' => rw [hy] at hxy; cases hxy
    | error e' t' =>
      rw [commit_of_error hx, commit_of_error hy]
      exact hR

theorem ok {s s' : σ} {t : τ} {a : α} (h : Simulates R x y) (hR : R s t)
    (hx : x.run s = .ok a s') : ∃ t', y.run t = .ok a t' ∧ R s' t' := by
  have hxy := h s t hR
  rw [hx] at hxy
  cases hy : y.run t with
  | ok b t' =>
    rw [hy] at hxy
    cases hxy with
    | ok h' => exact ⟨t', rfl, h'⟩
  | error e t' => rw [hy] at hxy; cases hxy

end Simulates

end Program
