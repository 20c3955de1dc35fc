import Mathlib.Algebra.BigOperators.Finprod

/-!
# Tables of amounts and their totals

A table `f : A → ℕ` over any index type, nonzero at finitely many indices. `SumsTo f n`
says that its total is `n`; the lemmas follow the total through the point updates
a ledger makes, one index at a time (`SumsTo.update`) or from one index to another
(`SumsTo.move`).
-/

namespace Total

variable {A : Type*}

/-- The table `f` is nonzero at finitely many indices, and its total is `n`. -/
structure SumsTo (f : A → ℕ) (n : ℕ) : Prop where
  finite : (Function.support f).Finite
  total : ∑ᶠ a, f a = n

theorem sumsTo_zero : SumsTo (fun _ : A => 0) 0 :=
  ⟨by simp [Function.support], finsum_zero⟩

variable {f : A → ℕ} {n : ℕ}

/-- An entry is at most the total. -/
theorem SumsTo.le (h : SumsTo f n) (a : A) : f a ≤ n := by
  rw [← h.total]
  exact single_le_finsum a h.finite (fun _ => Nat.zero_le _)

variable [DecidableEq A]

/-- **Changing one entry** changes the total by as much. -/
theorem SumsTo.update (h : SumsTo f n) {a : A} {v m : ℕ} (hm : m + f a = n + v) :
    SumsTo (Function.update f a v) m := by
  have hsub : Function.support (Function.update f a v) ⊆ insert a (Function.support f) := by
    intro x hx
    by_cases hxa : x = a
    · exact Or.inl hxa
    · rw [Function.mem_support, Function.update_of_ne hxa] at hx
      exact Or.inr hx
  -- both totals are sums over this finite set, and differ in one term
  have hfin : (insert a (Function.support f)).Finite := h.finite.insert a
  refine ⟨hfin.subset hsub, ?_⟩
  have ha : a ∈ hfin.toFinset := by simp
  have hf : ∑ᶠ x, f x = ∑ x ∈ hfin.toFinset, f x :=
    finsum_eq_sum_of_support_subset _ (by simp)
  have hg : ∑ᶠ x, Function.update f a v x = ∑ x ∈ hfin.toFinset, Function.update f a v x :=
    finsum_eq_sum_of_support_subset _ (by simpa using hsub)
  rw [hg, Finset.sum_update_of_mem ha, ← Finset.erase_eq]
  have hsum := Finset.add_sum_erase hfin.toFinset f ha
  have := h.total
  omega

/-- Two different entries are together at most the total. -/
theorem SumsTo.add_le (h : SumsTo f n) {a b : A} (hab : a ≠ b) : f a + f b ≤ n := by
  have ha := h.le a
  have h0 : SumsTo (Function.update f a 0) (n - f a) := h.update (by omega)
  have hb := h0.le b
  rw [Function.update_of_ne (Ne.symm hab)] at hb
  omega

/-- **Moving an amount** from one entry to another keeps the total. -/
theorem SumsTo.move (h : SumsTo f n) {a b : A} (hab : a ≠ b) {v : ℕ} (hv : v ≤ f a) :
    SumsTo (Function.update (Function.update f a (f a - v)) b (f b + v)) n := by
  have ha := h.le a
  have h1 : SumsTo (Function.update f a (f a - v)) (n - v) := h.update (by omega)
  refine h1.update ?_
  rw [Function.update_of_ne (Ne.symm hab)]
  omega

end Total
