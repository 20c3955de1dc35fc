import Mathlib.Data.List.Basic

/-!
# Interleavings

`Interleaving xs ys zs`: the list `zs` consists of `xs` and `ys`, each in its own order.

* `Interleaving.perm`: it has the elements of both, so where steps commute, folding over
  any two interleavings is the same (`Interleaving.foldl_comm`).
* `Interleaving.foldl_right`: where the elements of `xs` do nothing, folding over `zs` is
  folding over `ys`.
* `Interleaving.foldl_simulates`: where each element of `xs` keeps a relation between two folds,
  and each element of `ys` keeps it on the left by itself, folding over `zs` on the left and over
  `xs` alone on the right keeps it.
-/

variable {α β γ : Type}

/-- `zs` merges `xs` and `ys`, keeping the order of each. -/
inductive Interleaving : List α → List α → List α → Prop
  | nil : Interleaving [] [] []
  | left {x : α} {xs ys zs : List α} (h : Interleaving xs ys zs) :
    Interleaving (x :: xs) ys (x :: zs)
  | right {y : α} {xs ys zs : List α} (h : Interleaving xs ys zs) :
    Interleaving xs (y :: ys) (y :: zs)

namespace Interleaving

variable {xs ys zs : List α}

theorem perm (h : Interleaving xs ys zs) : zs.Perm (xs ++ ys) := by
  induction h with
  | nil => exact List.Perm.refl _
  | left _ ih => exact ih.cons _
  | right _ ih =>
    -- the head of `zs` comes from the middle of `xs ++ ys`
    exact (ih.cons _).trans List.perm_middle.symm

theorem mem_iff (h : Interleaving xs ys zs) {a : α} : a ∈ zs ↔ a ∈ xs ∨ a ∈ ys := by
  rw [h.perm.mem_iff, List.mem_append]

/-- Where steps commute, all interleavings lead to the same. -/
theorem foldl_comm {zs' : List α} (h : Interleaving xs ys zs) (h' : Interleaving xs ys zs')
    {f : β → α → β} (hf : ∀ b x y, f (f b x) y = f (f b y) x) (b : β) :
    zs.foldl f b = zs'.foldl f b :=
  (h.perm.trans h'.perm.symm).foldl_eq' (fun x _ y _ b => (hf b y x).symm) b

theorem foldl_right (h : Interleaving xs ys zs) {f : β → α → β} (hf : ∀ x ∈ xs, ∀ b, f b x = b)
    (b : β) : zs.foldl f b = ys.foldl f b := by
  induction h generalizing b with
  | nil => rfl
  | left _ ih =>
    rw [List.foldl_cons, hf _ List.mem_cons_self]
    exact ih (fun x hx => hf x (List.mem_cons_of_mem _ hx)) b
  | right _ ih => exact ih hf _

theorem foldl_simulates (h : Interleaving xs ys zs) {f : β → α → β} {g : γ → α → γ}
    {R : β → γ → Prop} (hx : ∀ x ∈ xs, ∀ b c, R b c → R (f b x) (g c x))
    (hy : ∀ y ∈ ys, ∀ b c, R b c → R (f b y) c) {b : β} {c : γ} (hR : R b c) :
    R (zs.foldl f b) (xs.foldl g c) := by
  induction h generalizing b c with
  | nil => exact hR
  | left _ ih =>
    exact ih (fun x hm => hx x (List.mem_cons_of_mem _ hm)) hy (hx _ List.mem_cons_self b c hR)
  | right _ ih =>
    exact ih hx (fun y hm => hy y (List.mem_cons_of_mem _ hm)) (hy _ List.mem_cons_self b c hR)

end Interleaving
