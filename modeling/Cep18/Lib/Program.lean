import Mathlib.Tactic.Common

/-!
# Programs that may revert

A program is an `EStateM ε σ α`: it reads and writes a state `σ`, and either returns
or stops with an error, *leaving behind what it had written*. Rolling back is the
business of whoever runs it (`commit`).

* `bind_eq_ok`: what a successful sequence consists of.
* `Keeps`: a program that, where it succeeds, leaves some view of the state as it was.
* `Maintains`: a program that, where it succeeds, leads from an invariant to itself.
* `Ensures`: on every state of a set the program returns, and leads into another set.
  The rules for sequencing and looping follow.
-/

namespace Program

variable {ε σ α β : Type}

/-! ### Running a sequence -/

@[simp] theorem pure_run (a : α) (s : σ) : (pure a : EStateM ε σ α).run s = .ok a s := rfl

@[simp] theorem throw_run (e : ε) (s : σ) : (throw e : EStateM ε σ α).run s = .error e s := rfl

theorem bind_of_ok {x : EStateM ε σ α} {f : α → EStateM ε σ β} {s s' : σ} {a : α}
    (h : x.run s = .ok a s') : (x >>= f).run s = (f a).run s' := by
  show EStateM.bind x f s = _
  have hx : x s = .ok a s' := h
  simp only [EStateM.bind, hx]; rfl

theorem bind_of_error {x : EStateM ε σ α} {f : α → EStateM ε σ β} {s s' : σ} {e : ε}
    (h : x.run s = .error e s') : (x >>= f).run s = .error e s' := by
  show EStateM.bind x f s = _
  have hx : x s = .error e s' := h
  simp only [EStateM.bind, hx]

/-- **A sequence succeeds** when its first program does and then the rest does. -/
theorem bind_eq_ok {x : EStateM ε σ α} {f : α → EStateM ε σ β} {s s'' : σ} {b : β} :
    (x >>= f).run s = .ok b s'' ↔ ∃ a s', x.run s = .ok a s' ∧ (f a).run s' = .ok b s'' := by
  cases h : x.run s with
  | ok a s' =>
    rw [bind_of_ok h]
    constructor
    · intro hf; exact ⟨a, s', rfl, hf⟩
    · rintro ⟨a', s₁, h1, h2⟩
      cases h1; exact h2
  | error e s' =>
    -- the rest never runs
    rw [bind_of_error h]
    constructor
    · intro hf; cases hf
    · rintro ⟨a', s₁, h1, -⟩; cases h1

theorem pure_eq_ok {s s' : σ} {a b : α} :
    (pure a : EStateM ε σ α).run s = .ok b s' ↔ a = b ∧ s = s' := by
  show EStateM.Result.ok a s = _ ↔ _
  constructor
  · intro h; cases h; exact ⟨rfl, rfl⟩
  · rintro ⟨rfl, rfl⟩; rfl

/-- The state after running `x` from `s`, rolled back if `x` stopped with an error. -/
def commit (x : EStateM ε σ α) (s : σ) : σ :=
  match x.run s with
  | .ok _ s' => s'
  | .error _ _ => s

/-- The state the program leaves, with nothing rolled back. -/
def leaves (x : EStateM ε σ α) (s : σ) : σ :=
  match x.run s with
  | .ok _ s' => s'
  | .error _ s' => s'

/-- The same outcome, in a state seen through `φ`. -/
def onState {τ : Type} (φ : σ → τ) : EStateM.Result ε σ α → EStateM.Result ε τ α
  | .ok a s => .ok a (φ s)
  | .error e s => .error e (φ s)

/-- The program succeeds from `s`. -/
def Succeeds (x : EStateM ε σ α) (s : σ) : Prop := ∃ a s', x.run s = .ok a s'

instance (x : EStateM ε σ α) (s : σ) : Decidable (Succeeds x s) :=
  match h : x.run s with
  | .ok a s' => isTrue ⟨a, s', h⟩
  | .error e s' => isFalse fun ⟨a, t, ha⟩ => by rw [h] at ha; cases ha

theorem Succeeds.of_ok {x : EStateM ε σ α} {f : α → EStateM ε σ β} {s s' : σ} {a : α}
    (hx : x.run s = .ok a s') (hf : Succeeds (f a) s') : Succeeds (x >>= f) s := by
  obtain ⟨b, t, hb⟩ := hf
  exact ⟨b, t, (bind_of_ok hx).trans hb⟩

theorem commit_of_ok {x : EStateM ε σ α} {s s' : σ} {a : α} (h : x.run s = .ok a s') :
    commit x s = s' := by simp only [commit, h]

theorem commit_of_error {x : EStateM ε σ α} {s s' : σ} {e : ε} (h : x.run s = .error e s') :
    commit x s = s := by simp only [commit, h]

theorem commit_of_not_succeeds {x : EStateM ε σ α} {s : σ} (h : ¬ Succeeds x s) :
    commit x s = s := by
  cases hx : x.run s with
  | ok a s' => exact absurd ⟨a, s', hx⟩ h
  | error e s' => exact commit_of_error hx

/-! ### Frames -/

section Keeps

variable {γ : Type} {f : σ → γ} {x : EStateM ε σ α} {g : α → EStateM ε σ β}

/-- Where the program succeeds, it leaves the view `f` of the state as it was. -/
def Keeps (f : σ → γ) (x : EStateM ε σ α) : Prop :=
  ∀ s a s', x.run s = .ok a s' → f s' = f s

theorem Keeps.pure (f : σ → γ) (a : α) : Keeps (ε := ε) f (pure a) := by
  intro s b s' h
  rw [(pure_eq_ok.1 h).2]

theorem Keeps.throw (f : σ → γ) (e : ε) : Keeps f (throw e : EStateM ε σ α) := by
  intro s a s' h; cases h

theorem Keeps.bind (hx : Keeps f x) (hg : ∀ a, Keeps f (g a)) : Keeps f (x >>= g) := by
  intro s b s'' h
  obtain ⟨a, s', h1, h2⟩ := bind_eq_ok.1 h
  rw [hg a s' b s'' h2, hx s a s' h1]

theorem Keeps.ite {p : Prop} [Decidable p] {y : EStateM ε σ α} (hx : Keeps f x) (hy : Keeps f y) :
    Keeps f (if p then x else y) := by
  split
  · exact hx
  · exact hy

theorem Keeps.forM {body : β → EStateM ε σ PUnit} (h : ∀ b, Keeps f (body b)) :
    ∀ l : List β, Keeps f (l.forM body) := by
  intro l
  induction l with
  | nil => exact Keeps.pure f _
  | cons b l ih => exact (h b).bind fun _ => ih

end Keeps

/-! ### Invariants -/

section Maintains

variable {γ : Type} {I : σ → Prop} {x : EStateM ε σ α} {g : α → EStateM ε σ β}

/-- Where the program succeeds on a state of the invariant `I`, it leads to another. -/
def Maintains (I : σ → Prop) (x : EStateM ε σ α) : Prop :=
  ∀ s a s', I s → x.run s = .ok a s' → I s'

/-- What keeps a view maintains an invariant that is about that view. -/
theorem Keeps.maintains {f : σ → γ} (h : Keeps f x) (hI : ∀ s s', f s' = f s → I s → I s') :
    Maintains I x := fun s a s' hs hx => hI s s' (h s a s' hx) hs

/-- What only reads maintains everything. -/
theorem Maintains.of_reads (h : Keeps id x) : Maintains I x :=
  h.maintains fun s s' he hs => by rw [show s' = s from he]; exact hs

theorem Maintains.pure (a : α) : Maintains I (pure a : EStateM ε σ α) := by
  intro s b s' hs h
  rw [← (pure_eq_ok.1 h).2]; exact hs

theorem Maintains.throw (e : ε) : Maintains I (throw e : EStateM ε σ α) := by
  intro s a s' _ h; cases h

/-- What follows may rely on what a program returns on states of the invariant. -/
theorem Maintains.bind_of {P : α → Prop} (hx : Maintains I x)
    (hP : ∀ s a s', I s → x.run s = .ok a s' → P a) (hg : ∀ a, P a → Maintains I (g a)) :
    Maintains I (x >>= g) := by
  intro s b s'' hs h
  obtain ⟨a, s', h1, h2⟩ := bind_eq_ok.1 h
  exact hg a (hP s a s' hs h1) s' b s'' (hx s a s' hs h1) h2

theorem Maintains.bind (hx : Maintains I x) (hg : ∀ a, Maintains I (g a)) :
    Maintains I (x >>= g) :=
  hx.bind_of (P := fun _ => True) (fun _ _ _ _ _ => trivial) fun a _ => hg a

theorem Maintains.seqRight {y : EStateM ε σ β} (hx : Maintains I x) (hy : Maintains I y) :
    Maintains I (x *> y) := by
  rw [seqRight_eq_bind]
  exact hx.bind fun _ => hy

theorem Maintains.map (hx : Maintains I x) (φ : α → β) : Maintains I (φ <$> x) := by
  rw [map_eq_pure_bind]
  exact hx.bind fun _ => Maintains.pure _

theorem Maintains.ite {p : Prop} [Decidable p] {y : EStateM ε σ α} (hx : Maintains I x)
    (hy : Maintains I y) : Maintains I (if p then x else y) := by
  split
  · exact hx
  · exact hy

theorem Maintains.forM {body : β → EStateM ε σ PUnit} (h : ∀ b, Maintains I (body b)) :
    ∀ l : List β, Maintains I (l.forM body) := by
  intro l
  induction l with
  | nil => exact Maintains.pure _
  | cons b l ih => exact (h b).bind fun _ => ih

/-- Rolled back where it stops with an error, the program leads from the invariant to itself. -/
theorem Maintains.commit (h : Maintains I x) {s : σ} (hs : I s) : I (commit x s) := by
  cases hx : x.run s with
  | ok a s' => rw [commit_of_ok hx]; exact h s a s' hs hx
  | error e s' => rw [commit_of_error hx]; exact hs

end Maintains

/-! ### Pre- and postconditions -/

/-- On every state of `P` the program returns and leads into `Q`. -/
def Ensures (P : σ → Prop) (x : EStateM ε σ α) (Q : σ → Prop) : Prop :=
  ∀ s, P s → ∃ a s', x.run s = .ok a s' ∧ Q s'

variable {P Q R : σ → Prop} {x : EStateM ε σ α} {f : α → EStateM ε σ β}

theorem Ensures.bind (h : Ensures P x Q) (hf : ∀ a, Ensures Q (f a) R) :
    Ensures P (x >>= f) R := by
  intro s hs
  obtain ⟨a, s', hx, hq⟩ := h s hs
  rw [bind_of_ok hx]; exact hf a s' hq

theorem Ensures.pure (P : σ → Prop) (a : α) : Ensures (ε := ε) P (pure a) P :=
  fun s hs => ⟨a, s, rfl, hs⟩

/-- **Looping over a list.** If the body leads from `I t` to `I (g t b)` for each
entry `b`, the loop leads from `I t` to `I` of the folded `t`. -/
theorem Ensures.forM {τ : Type} {I : τ → σ → Prop} {g : τ → β → τ}
    {body : β → EStateM ε σ PUnit} (h : ∀ t b, Ensures (I t) (body b) (I (g t b))) :
    ∀ (l : List β) (t : τ), Ensures (I t) (l.forM body) (I (l.foldl g t)) := by
  intro l
  induction l with
  | nil => intro t; exact Ensures.pure _ _
  | cons b l ih =>
    intro t
    simp only [List.foldl_cons]
    exact (h t b).bind fun _ => ih _

end Program
