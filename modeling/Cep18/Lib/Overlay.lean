import Mathlib.Logic.Function.Basic
import Mathlib.Order.Std
import Std.Data.ExtTreeMap

/-!
# Updating a table entry by entry

A loop that writes entries one after another into a table, or into an ordered map,
leaves:

* `foldl_update_const`, `foldl_insert_const`: the one value it writes, at every key it
  names, and the rest as it was.
* `foldl_put_toList`: when it writes the entries of an ordered map, the map laid over
  the table.
-/

namespace Overlay

variable {A B : Type}

section Tables

variable [DecidableEq A]

theorem foldl_update_const (b : B) (a : A) :
    ∀ (l : List A) (f : A → B),
      l.foldl (fun f k => Function.update f k b) f a = if a ∈ l then b else f a := by
  intro l
  induction l with
  | nil => intro f; simp
  | cons k l ih =>
    intro f
    rw [List.foldl_cons, ih]
    by_cases hl : a ∈ l
    · simp [hl]
    · by_cases hk : a = k
      · subst hk; simp [hl]
      · simp [hl, hk]

/-- Write one entry. -/
def put (f : A → Option B) (p : A × B) : A → Option B := Function.update f p.1 (some p.2)

theorem foldl_put_of_notMem {a : A} :
    ∀ (l : List (A × B)) (f : A → Option B), (∀ b, (a, b) ∉ l) →
      l.foldl put f a = f a := by
  intro l
  induction l with
  | nil => intro f _; rfl
  | cons p l ih =>
    intro f h
    have hp : a ≠ p.1 := fun he => h p.2 (by rw [he]; exact List.mem_cons_self)
    rw [List.foldl_cons, ih _ fun b hb => h b (List.mem_cons_of_mem _ hb), put,
      Function.update_of_ne hp]

theorem foldl_put_of_mem {a : A} {b : B} :
    ∀ (l : List (A × B)) (f : A → Option B), l.Pairwise (fun p q => p.1 ≠ q.1) → (a, b) ∈ l →
      l.foldl put f a = some b := by
  intro l
  induction l with
  | nil => intro f _ h; cases h
  | cons p l ih =>
    intro f hl h
    obtain ⟨hp, hl⟩ := List.pairwise_cons.1 hl
    rw [List.foldl_cons]
    rcases List.mem_cons.1 h with rfl | h
    · -- written first, and not again
      rw [foldl_put_of_notMem l _ fun b' hb' => hp _ hb' rfl, put, Function.update_self]
    · exact ih _ hl h

end Tables

section Maps

variable [LinearOrder A]

theorem foldl_insert_const (b : B) (a : A) :
    ∀ (l : List A) (m : Std.ExtTreeMap A B compare),
      (l.foldl (fun m k => m.insert k b) m)[a]? = if a ∈ l then some b else m[a]? := by
  intro l
  induction l with
  | nil => intro m; simp
  | cons k l ih =>
    intro m
    rw [List.foldl_cons, ih, Std.ExtTreeMap.getElem?_insert]
    by_cases hl : a ∈ l
    · simp [hl]
    · by_cases hk : k = a
      · subst hk; simp [hl]
      · simp [hl, hk, Ne.symm hk]

/-- **Writing the entries of a map** lays the map over the table. -/
theorem foldl_put_toList (m : Std.ExtTreeMap A B compare) (f : A → Option B) (a : A) :
    m.toList.foldl put f a = m[a]?.or (f a) := by
  cases h : m[a]? with
  | none =>
    refine foldl_put_of_notMem _ _ fun b hb => ?_
    rw [Std.ExtTreeMap.mem_toList_iff_getElem?_eq_some, h] at hb
    cases hb
  | some b =>
    refine foldl_put_of_mem _ _ ?_ (Std.ExtTreeMap.mem_toList_iff_getElem?_eq_some.2 h)
    exact Std.ExtTreeMap.distinct_keys_toList.imp fun hpq => by simpa using hpq

end Maps

end Overlay
