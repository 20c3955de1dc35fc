import Mathlib.Algebra.BigOperators.Group.List.Basic
import Mathlib.Algebra.Ring.Nat
import Mathlib.Data.List.ReduceOption

/-!
# Runs of a step function

A machine is a step function `step : σ → α → σ`; a run from `s` on a list of inputs
is `as.foldl step s`. What each step preserves, a run preserves (`foldl_invariant`),
and what relates the steps of two machines relates their runs (`foldl_simulates`).

`outputs step f s as` lists what an observer `f` sees, step by step. A quantity that
each step changes by what is observed changes over the run by the sum
(`foldl_balance`, and `foldl_bound` for a bound), a log that each step extends by what is
observed is extended over the run by all of it (`foldl_log`), and a register that each step
sets to what is observed, if anything is, holds the last of it (`foldl_register`).

`taken step P s as` lists the inputs at which `P` holds. A view that changes at these alone is
determined by them (`foldl_taken`), and so is the account of a quantity (`foldl_taken_balance`).

`Everywhere step P s as` says that `P` holds at every step of the run. Along such a run,
a view of the state that the inputs alone determine can be computed without the machine
(`Everywhere.foldl_view`), and an observer that sees no more than another sees as much
exactly if it does so everywhere (`outputs_length_eq_iff`).
-/

namespace Run

variable {σ τ α γ β : Type}

/-- **Invariants.** What every step preserves, a run preserves. -/
theorem foldl_invariant {step : σ → α → σ} {I : σ → Prop} (h : ∀ s a, I s → I (step s a)) :
    ∀ (as : List α) {s : σ}, I s → I (as.foldl step s) := by
  intro as
  induction as with
  | nil => intro s hs; exact hs
  | cons a as ih => intro s hs; exact ih (h s a hs)

/-- What every step whose input is in `as` preserves, the run on `as` preserves. -/
theorem foldl_invariant_mem {step : σ → α → σ} {I : σ → Prop} :
    ∀ (as : List α), (∀ s, ∀ a ∈ as, I s → I (step s a)) → ∀ {s : σ}, I s →
      I (as.foldl step s) := by
  intro as
  induction as with
  | nil => intro _ s hs; exact hs
  | cons a as ih =>
    intro h s hs
    exact ih (fun s b hb => h s b (List.mem_cons_of_mem a hb)) (h s a List.mem_cons_self hs)

/-- **Simulations.** If each step keeps `R` between a machine and one that reads its
inputs through `g`, so does a run. -/
theorem foldl_simulates {step : σ → α → σ} {step' : τ → γ → τ} {g : α → γ} {R : σ → τ → Prop}
    (h : ∀ s t a, R s t → R (step s a) (step' t (g a))) :
    ∀ (as : List α) {s : σ} {t : τ}, R s t → R (as.foldl step s) ((as.map g).foldl step' t) := by
  intro as
  induction as with
  | nil => intro s t hR; exact hR
  | cons a as ih => intro s t hR; exact ih (h s t a hR)

/-- What the observer `f` sees at each step of the run from `s` on `as`. -/
def outputs (step : σ → α → σ) (f : σ → α → β) : σ → List α → List β
  | _, [] => []
  | s, a :: as => f s a :: outputs step f (step s a) as

/-- **Accounts.** If each step changes `φ` by what `f` sees coming in and `g` sees
going out, a run changes it by their sums. -/
theorem foldl_balance {step : σ → α → σ} {I : σ → Prop} {φ : σ → ℕ} {f g : σ → α → ℕ}
    (hI : ∀ s a, I s → I (step s a)) (h : ∀ s a, I s → φ (step s a) + g s a = φ s + f s a) :
    ∀ (as : List α) {s : σ}, I s →
      φ (as.foldl step s) + (outputs step g s as).sum = φ s + (outputs step f s as).sum := by
  intro as
  induction as with
  | nil => intro s _; rfl
  | cons a as ih =>
    intro s hs
    have h1 := h s a hs
    have h2 := ih (hI s a hs)
    simp only [List.foldl_cons, outputs, List.sum_cons]
    omega

/-- **Bounds.** If each step raises `φ` and what `g` sees going out by at most what `f` sees
coming in, so does a run. -/
theorem foldl_bound {step : σ → α → σ} {I : σ → Prop} {φ : σ → ℕ} {f g : σ → α → ℕ}
    (hI : ∀ s a, I s → I (step s a)) (h : ∀ s a, I s → φ (step s a) + g s a ≤ φ s + f s a) :
    ∀ (as : List α) {s : σ}, I s →
      φ (as.foldl step s) + (outputs step g s as).sum ≤ φ s + (outputs step f s as).sum := by
  intro as
  induction as with
  | nil => intro s _; exact le_rfl
  | cons a as ih =>
    intro s hs
    have h1 := h s a hs
    have h2 := ih (hI s a hs)
    simp only [List.foldl_cons, outputs, List.sum_cons]
    omega

/-- An observer that sees nothing of any of the inputs sees nothing in all. -/
theorem outputs_sum_eq_zero {step : σ → α → σ} {f : σ → α → ℕ} :
    ∀ (as : List α), (∀ s, ∀ a ∈ as, f s a = 0) → ∀ s, (outputs step f s as).sum = 0 := by
  intro as
  induction as with
  | nil => intro _ s; rfl
  | cons a as ih =>
    intro h s
    have h1 := h s a List.mem_cons_self
    have h2 := ih (fun s b hb => h s b (List.mem_cons_of_mem a hb)) (step s a)
    simp only [outputs, List.sum_cons]
    omega

/-- **Logs.** If each step appends to the log what `f` sees, a run appends all of it. -/
theorem foldl_log {step : σ → α → σ} {I : σ → Prop} {φ : σ → List β} {f : σ → α → List β}
    (hI : ∀ s a, I s → I (step s a)) (h : ∀ s a, I s → φ (step s a) = φ s ++ f s a) :
    ∀ (as : List α) {s : σ}, I s →
      φ (as.foldl step s) = φ s ++ (outputs step f s as).flatten := by
  intro as
  induction as with
  | nil => intro s _; simp [outputs]
  | cons a as ih =>
    intro s hs
    simp only [List.foldl_cons, outputs, List.flatten_cons]
    rw [ih (hI s a hs), h s a hs, List.append_assoc]

/-- **Registers.** If each step sets the register to what `f` sees, where it sees anything, a run
leaves the last of it there. -/
theorem foldl_register {step : σ → α → σ} {I : σ → Prop} {φ : σ → Option β} {f : σ → α → Option β}
    (hI : ∀ s a, I s → I (step s a)) (h : ∀ s a, I s → φ (step s a) = (f s a).or (φ s)) :
    ∀ (as : List α) {s : σ}, I s →
      φ (as.foldl step s) = ((outputs step f s as).reduceOption.getLast?).or (φ s) := by
  intro as
  induction as with
  | nil => intro s _; rfl
  | cons a as ih =>
    intro s hs
    simp only [List.foldl_cons, outputs]
    rw [ih (hI s a hs), h s a hs]
    cases f s a with
    | none => rw [List.reduceOption_cons_of_none, Option.none_or]
    | some b =>
      -- a later one takes the place of `b`
      rw [List.reduceOption_cons_of_some, List.getLast?_cons, Option.some_or, Option.some_or]
      cases (outputs step f (step s a) as).reduceOption.getLast? <;> rfl

/-! ### The inputs that are taken -/

section Taken

variable (step : σ → α → σ) (P : σ → α → Prop) [∀ s a, Decidable (P s a)]

/-- The inputs of the run from `s` on `as` at which `P` holds. -/
def taken : σ → List α → List α
  | _, [] => []
  | s, a :: as => if P s a then a :: taken (step s a) as else taken (step s a) as

variable {step P} {I : σ → Prop}

/-- **Views of the inputs taken.** If a step changes the view `φ` as `f` does where its input is
taken, and not at all elsewhere, a run changes it as `f` does on the inputs taken. -/
theorem foldl_taken {φ : σ → τ} {f : τ → α → τ} (hI : ∀ s a, I s → I (step s a))
    (hyes : ∀ s a, I s → P s a → φ (step s a) = f (φ s) a)
    (hno : ∀ s a, I s → ¬ P s a → φ (step s a) = φ s) :
    ∀ (as : List α) {s : σ}, I s → φ (as.foldl step s) = (taken step P s as).foldl f (φ s) := by
  intro as
  induction as with
  | nil => intro s _; rfl
  | cons a as ih =>
    intro s hs
    rw [List.foldl_cons, ih (hI s a hs), taken]
    split_ifs with hP
    · rw [List.foldl_cons, hyes s a hs hP]
    · rw [hno s a hs hP]

/-- **Accounts of the inputs taken.** What comes in and what goes out depends on the inputs taken
alone. -/
theorem foldl_taken_balance {φ : σ → ℕ} {f g : α → ℕ} (hI : ∀ s a, I s → I (step s a))
    (hyes : ∀ s a, I s → P s a → φ (step s a) + g a = φ s + f a)
    (hno : ∀ s a, I s → ¬ P s a → φ (step s a) = φ s) :
    ∀ (as : List α) {s : σ}, I s → φ (as.foldl step s) + ((taken step P s as).map g).sum =
      φ s + ((taken step P s as).map f).sum := by
  intro as
  induction as with
  | nil => intro s _; rfl
  | cons a as ih =>
    intro s hs
    have h := ih (hI s a hs)
    rw [List.foldl_cons, taken]
    split_ifs with hP
    · have h1 := hyes s a hs hP
      simp only [List.map_cons, List.sum_cons]
      omega
    · rw [hno s a hs hP] at h
      exact h

end Taken

/-- A register that each input sets, if it has something to set it to, holds the last of it. -/
theorem foldl_or (f : α → Option β) (as : List α) : ∀ b : Option β,
    as.foldl (fun b a => (f a).or b) b = (as.filterMap f).getLast?.or b := by
  induction as with
  | nil => intro b; rfl
  | cons a as ih =>
    intro b
    rw [List.foldl_cons, ih, List.filterMap_cons]
    cases f a with
    | none => rw [Option.none_or]
    | some v =>
      rw [List.getLast?_cons, Option.some_or, Option.some_or]
      cases (as.filterMap f).getLast? <;> rfl

/-! ### At every step of a run -/

/-- `P` holds at every step of the run from `s` on `as`. -/
def Everywhere (step : σ → α → σ) (P : σ → α → Prop) : σ → List α → Prop
  | _, [] => True
  | s, a :: as => P s a ∧ Everywhere step P (step s a) as

/-- At every step: after each part of the inputs, for the next one. -/
theorem everywhere_iff {step : σ → α → σ} {P : σ → α → Prop} :
    ∀ (as : List α) {s : σ},
      Everywhere step P s as ↔ ∀ pre a post, as = pre ++ a :: post → P (pre.foldl step s) a := by
  intro as
  induction as with
  | nil =>
    intro s
    refine ⟨fun _ pre a post h => ?_, fun _ => trivial⟩
    simp at h
  | cons b as ih =>
    intro s
    constructor
    · rintro ⟨hb, has⟩ pre a post h
      -- the step in question is the first one or a later one
      cases pre with
      | nil => cases h; exact hb
      | cons c pre =>
        cases h
        exact ih.1 has pre a post rfl
    · intro h
      refine ⟨h [] b as rfl, ih.2 fun pre a post he => ?_⟩
      exact h (b :: pre) a post (by rw [he]; rfl)

theorem Everywhere.imp {step : σ → α → σ} {I : σ → Prop} {P Q : σ → α → Prop}
    (hI : ∀ s a, I s → I (step s a)) (h : ∀ s a, I s → P s a → Q s a) :
    ∀ (as : List α) {s : σ}, I s → Everywhere step P s as → Everywhere step Q s as := by
  intro as
  induction as with
  | nil => intro s _ _; trivial
  | cons a as ih =>
    rintro s hs ⟨ha, has⟩
    exact ⟨h s a hs ha, ih (hI s a hs) has⟩

theorem Everywhere.and {step : σ → α → σ} {P Q : σ → α → Prop} :
    ∀ (as : List α) {s : σ}, Everywhere step P s as → Everywhere step Q s as →
      Everywhere step (fun s a => P s a ∧ Q s a) s as := by
  intro as
  induction as with
  | nil => intro s _ _; trivial
  | cons a as ih =>
    rintro s ⟨hp, hps⟩ ⟨hq, hqs⟩
    exact ⟨⟨hp, hq⟩, ih hps hqs⟩

/-- Observers that agree at every step of a run see the same. -/
theorem Everywhere.outputs_eq {step : σ → α → σ} {f g : σ → α → β} :
    ∀ (as : List α) {s : σ}, Everywhere step (fun s a => f s a = g s a) s as →
      outputs step f s as = outputs step g s as := by
  intro as
  induction as with
  | nil => intro s _; rfl
  | cons a as ih =>
    rintro s ⟨ha, has⟩
    simp only [outputs]
    rw [ha, ih has]

/-- **Views determined by the inputs.** If, wherever `P` holds, a step acts on the view `φ` as
`f` does, a run along which `P` holds everywhere acts on it as a fold of `f`. -/
theorem Everywhere.foldl_view {step : σ → α → σ} {I : σ → Prop} {P : σ → α → Prop} {φ : σ → τ}
    {f : τ → α → τ} (hI : ∀ s a, I s → I (step s a)) :
    ∀ (as : List α), (∀ s, ∀ a ∈ as, I s → P s a → φ (step s a) = f (φ s) a) →
      ∀ {s : σ}, I s → Everywhere step P s as → φ (as.foldl step s) = as.foldl f (φ s) := by
  intro as
  induction as with
  | nil => intro _ s _ _; rfl
  | cons a as ih =>
    rintro h s hs ⟨ha, has⟩
    rw [List.foldl_cons, List.foldl_cons, ← h s a List.mem_cons_self hs ha]
    exact ih (fun s b hb => h s b (List.mem_cons_of_mem a hb)) (hI s a hs) has

theorem outputs_length_le {step : σ → α → σ} {I : σ → Prop} {f g : σ → α → List β}
    (hI : ∀ s a, I s → I (step s a)) (h : ∀ s a, I s → (f s a).length ≤ (g s a).length) :
    ∀ (as : List α) {s : σ}, I s →
      (outputs step f s as).flatten.length ≤ (outputs step g s as).flatten.length := by
  intro as
  induction as with
  | nil => intro s _; simp [outputs]
  | cons a as ih =>
    intro s hs
    have h1 := h s a hs
    have h2 := ih (hI s a hs)
    simp only [outputs, List.flatten_cons, List.length_append]
    omega

/-- **Missing nothing.** An observer that never sees more than another sees as much over a run
exactly if it does so at every step. -/
theorem outputs_length_eq_iff {step : σ → α → σ} {I : σ → Prop} {f g : σ → α → List β}
    (hI : ∀ s a, I s → I (step s a)) (h : ∀ s a, I s → (f s a).length ≤ (g s a).length) :
    ∀ (as : List α) {s : σ}, I s →
      ((outputs step f s as).flatten.length = (outputs step g s as).flatten.length ↔
        Everywhere step (fun s a => (f s a).length = (g s a).length) s as) := by
  intro as
  induction as with
  | nil => intro s _; simp [outputs, Everywhere]
  | cons a as ih =>
    intro s hs
    have h1 := h s a hs
    have h2 := outputs_length_le hI h as (hI s a hs)
    -- two sums of which neither part can make up for the other
    simp only [outputs, List.flatten_cons, List.length_append, Everywhere, ← ih (hI s a hs)]
    omega

end Run
