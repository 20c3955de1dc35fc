import Mathlib.Data.BitVec

/-!
# Checked and saturating arithmetic on fixed-width words

A word of width `w` is a `BitVec w`. The operations here either report that the
exact result does not fit (`checkedAdd`, `checkedSub`) or clamp it to the range
(`saturatingAdd`, `saturatingSub`). Each is characterised over `ℕ`:

* `checkedAdd_eq_some`, `checkedAdd_eq_none`: the sum is exact, or it exceeds the
  range.
* `checkedSub_eq_some`, `checkedSub_eq_none`: the difference is exact, or it is
  negative.
* `toNat_saturatingAdd`, `toNat_saturatingSub`: the exact result, clamped.
-/

namespace Checked

variable {w : ℕ}

/-- The largest word of width `w`. -/
def maxWord (w : ℕ) : ℕ := 2 ^ w - 1

theorem toNat_le_maxWord (a : BitVec w) : a.toNat ≤ maxWord w := by
  have := a.isLt
  unfold maxWord; omega

theorem lt_two_pow_iff {n : ℕ} : n < 2 ^ w ↔ n ≤ maxWord w := by
  have := Nat.two_pow_pos w
  unfold maxWord; omega

/-- The sum, when it fits. -/
def checkedAdd (a b : BitVec w) : Option (BitVec w) :=
  if a.toNat + b.toNat < 2 ^ w then some (a + b) else none

/-- The difference, when it is not negative. -/
def checkedSub (a b : BitVec w) : Option (BitVec w) :=
  if b.toNat ≤ a.toNat then some (a - b) else none

/-- The sum, or the largest word when it does not fit. -/
def saturatingAdd (a b : BitVec w) : BitVec w := (checkedAdd a b).getD (BitVec.allOnes w)

/-- The difference, or zero when it is negative. -/
def saturatingSub (a b : BitVec w) : BitVec w := (checkedSub a b).getD 0

theorem toNat_sub_of_toNat_le {a b : BitVec w} (h : b.toNat ≤ a.toNat) :
    (a - b).toNat = a.toNat - b.toNat := BitVec.toNat_sub_of_le (BitVec.le_def.2 h)

theorem checkedAdd_eq_some {a b c : BitVec w} :
    checkedAdd a b = some c ↔ a.toNat + b.toNat = c.toNat := by
  unfold checkedAdd
  constructor
  · intro h
    split at h
    · rename_i hlt
      rw [← Option.some.inj h, BitVec.toNat_add, Nat.mod_eq_of_lt hlt]
    · cases h
  · intro h
    have hlt : a.toNat + b.toNat < 2 ^ w := by rw [h]; exact c.isLt
    rw [if_pos hlt]
    congr 1
    apply BitVec.eq_of_toNat_eq
    rw [BitVec.toNat_add, Nat.mod_eq_of_lt hlt, h]

theorem checkedAdd_eq_none {a b : BitVec w} :
    checkedAdd a b = none ↔ maxWord w < a.toNat + b.toNat := by
  have hlt := lt_two_pow_iff (w := w) (n := a.toNat + b.toNat)
  unfold checkedAdd
  split
  · rename_i h
    have := hlt.1 h
    simp; omega
  · rename_i h
    have := mt hlt.2 h
    simp; omega

theorem checkedSub_eq_some {a b c : BitVec w} :
    checkedSub a b = some c ↔ c.toNat + b.toNat = a.toNat := by
  unfold checkedSub
  constructor
  · intro h
    split at h
    · rename_i hle
      rw [← Option.some.inj h, toNat_sub_of_toNat_le hle]; omega
    · cases h
  · intro h
    have hle : b.toNat ≤ a.toNat := by omega
    rw [if_pos hle]
    congr 1
    apply BitVec.eq_of_toNat_eq
    rw [toNat_sub_of_toNat_le hle]; omega

theorem checkedSub_eq_none {a b : BitVec w} :
    checkedSub a b = none ↔ a.toNat < b.toNat := by
  unfold checkedSub
  split <;> simp_all

/-- A sum that fits is returned. -/
theorem exists_checkedAdd {a b : BitVec w} (h : a.toNat + b.toNat ≤ maxWord w) :
    ∃ c, checkedAdd a b = some c ∧ c.toNat = a.toNat + b.toNat := by
  cases hc : checkedAdd a b with
  | none => exact absurd (checkedAdd_eq_none.1 hc) (by omega)
  | some c => exact ⟨c, rfl, (checkedAdd_eq_some.1 hc).symm⟩

/-- A difference that is not negative is returned. -/
theorem exists_checkedSub {a b : BitVec w} (h : b.toNat ≤ a.toNat) :
    ∃ c, checkedSub a b = some c ∧ c.toNat = a.toNat - b.toNat := by
  cases hc : checkedSub a b with
  | none => exact absurd (checkedSub_eq_none.1 hc) (by omega)
  | some c =>
    have := checkedSub_eq_some.1 hc
    exact ⟨c, rfl, by omega⟩

/-- **A saturating sum is the exact sum, clamped to the largest word.** -/
theorem toNat_saturatingAdd (a b : BitVec w) :
    (saturatingAdd a b).toNat = min (a.toNat + b.toNat) (maxWord w) := by
  unfold saturatingAdd
  cases h : checkedAdd a b with
  | some c =>
    have hc := checkedAdd_eq_some.1 h
    have := toNat_le_maxWord c
    simp only [Option.getD_some]; omega
  | none =>
    have hc := checkedAdd_eq_none.1 h
    simp only [Option.getD_none, BitVec.toNat_allOnes]
    unfold maxWord at hc ⊢; omega

/-- **A saturating difference is the exact difference, clamped to zero.** -/
theorem toNat_saturatingSub (a b : BitVec w) :
    (saturatingSub a b).toNat = a.toNat - b.toNat := by
  unfold saturatingSub
  cases h : checkedSub a b with
  | some c =>
    have hc := checkedSub_eq_some.1 h
    simp only [Option.getD_some]; omega
  | none =>
    have hc := checkedSub_eq_none.1 h
    simp; omega

end Checked
