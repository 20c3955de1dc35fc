import Cep18.Model.Install
import Cep18.Proof.Outcome

/-!
# What a successful step did

For each primitive of the host that an installation uses: if it returned, what it
returned and what it left behind. Allocations only ever touch addresses not in use, so
whatever the store held before it still holds (`Store.Extends`), and two addresses
handed out one after the other differ.
-/

namespace Cep18

open Program Constants

variable {Key : Type} [CasperKey Key] {D : ItemKeys Key} {α : Type}
variable {s s' s'' : Store Key D} {env : Env Key}

/-! ### Programs that only read -/

theorem getKey_ok {name : String} {k : Option Key}
    (h : (getKey name : HostM Key D (Option Key)).run s = .ok k s') : s.named name = k ∧ s = s' := by
  cases h; exact ⟨rfl, rfl⟩

theorem putKey_ok {name : String} {k : Key} {u : Unit}
    (h : (putKey name k : HostM Key D Unit).run s = .ok u s') :
    s' = { s with named := Function.update s.named name (some k), writes := s.writes + 1 } := by
  cases h; rfl

theorem unwrapOrRevertWith_ok {e : ApiError} {o : Option α} {a : α}
    (h : (unwrapOrRevertWith e o : HostM Key D α).run s = .ok a s') : o = some a ∧ s = s' := by
  cases o with
  | none => cases h
  | some b => cases h; exact ⟨rfl, rfl⟩

theorem unwrapOrRevert_eq_ok {r : Except Cep18Error α} {a : α}
    (h : (unwrapOrRevert r : HostM Key D α).run s = .ok a s') : r = .ok a ∧ s = s' := by
  cases r with
  | error e => cases h
  | ok b => cases h; exact ⟨rfl, rfl⟩

theorem getNamedArg_ok {V : Type} [FromArg Key V] {name : String} {v : V}
    (h : (getNamedArg env name : HostM Key D V).run s = .ok v s') :
    env.arg? V name = some v ∧ s = s' := by
  unfold getNamedArg at h
  unfold Env.arg?
  cases ha : env.args name with
  | none => rw [ha] at h; cases h
  | some arg =>
    rw [ha] at h
    simp only at h
    cases hv : (FromArg.fromArg arg : Option V) with
    | none => rw [hv] at h; cases h
    | some w =>
      rw [hv] at h
      cases h
      exact ⟨hv, rfl⟩

theorem getOptionalNamedArg_ok {V : Type} [FromArg Key V] {name : String} {invalid : Cep18Error}
    {v : Option V} (hi : invalid ≠ .Phantom)
    (h : (getOptionalNamedArgWithUserErrors env name invalid : HostM Key D (Option V)).run s =
      .ok v s') : env.optArg? V name = some v ∧ s = s' := by
  unfold getOptionalNamedArgWithUserErrors getNamedArgWithUserErrors at h
  unfold Env.optArg?
  cases ha : env.args name with
  | none =>
    rw [ha] at h
    cases h; exact ⟨rfl, rfl⟩
  | some arg =>
    rw [ha] at h
    simp only at h ⊢
    cases hv : (FromArg.fromArg arg : Option V) with
    | none =>
      rw [hv] at h
      cases invalid <;> first | exact absurd rfl hi | cases h
    | some w =>
      rw [hv] at h
      cases h; exact ⟨rfl, rfl⟩

/-! ### Allocations -/

/-- Everything in use in `s` is the same in `s'`. -/
def Store.Extends (s s' : Store Key D) : Prop :=
  ∀ u, s.inUse u = true → s'.values u = s.values u ∧ s'.dicts u = s.dicts u ∧ s'.logs u = s.logs u

theorem Store.Extends.refl (s : Store Key D) : s.Extends s := fun _ _ => ⟨rfl, rfl, rfl⟩

theorem Store.Extends.inUse (h : s.Extends s') {u : URef} (hu : s.inUse u = true) :
    s'.inUse u = true := by
  obtain ⟨h1, h2, h3⟩ := h u hu
  unfold Store.inUse at hu ⊢
  rw [h1, h2, h3]; exact hu

theorem Store.Extends.trans (h : s.Extends s') (h' : s'.Extends s'') : s.Extends s'' := by
  intro u hu
  obtain ⟨h1, h2, h3⟩ := h u hu
  obtain ⟨h4, h5, h6⟩ := h' u (h.inUse hu)
  exact ⟨h4.trans h1, h5.trans h2, h6.trans h3⟩

/-- A store with the same URefs extends another. -/
theorem Store.Extends.of_eq (hv : s'.values = s.values) (hd : s'.dicts = s.dicts)
    (hl : s'.logs = s.logs) : s.Extends s' := fun _ _ => ⟨by rw [hv], by rw [hd], by rw [hl]⟩

/-- An address not in use differs from one in use. -/
theorem ne_of_inUse {u v : URef} (hu : s.inUse u = true) (hv : s.inUse v = false) : u ≠ v := by
  rintro rfl
  rw [hu] at hv; cases hv

theorem inUse_of_value {u : URef} {v : CLValue} (h : s.values u = some v) : s.inUse u = true := by
  simp [Store.inUse, h]

theorem inUse_of_items {u : URef} {d : D.Item → Option CLValue} (h : s.dicts u = some d) :
    s.inUse u = true := by simp [Store.inUse, h]

theorem Store.Cell.extends {V : Type} [CLTyped V] {name : String} {u : URef} {v : V}
    (h : s.Cell name u v) (hs : s.Extends s') (hn : s'.named name = s.named name) :
    s'.Cell name u v :=
  ⟨hn.trans h.named, (hs u (inUse_of_value h.value)).1.trans h.value⟩

theorem Store.Dict.extends {name : String} {u : URef} {d : D.Item → Option CLValue}
    (h : s.Dict name u d) (hs : s.Extends s') (hn : s'.named name = s.named name) :
    s'.Dict name u d :=
  ⟨hn.trans h.named, (hs u (inUse_of_items h.items)).2.1.trans h.items⟩

theorem newURef_ok {V : Type} [CLTyped V] {v : V} {u : URef}
    (h : (newURef v : HostM Key D URef).run s = .ok u s') :
    s.inUse u = false ∧ s' = { s with
      values := Function.update s.values u (some (CLTyped.fromT v))
      next := s.next + 1
      writes := s.writes + 1 } := by
  unfold newURef EStateM.run at h
  simp only at h
  split at h
  · cases h
  · rename_i hu
    cases h
    exact ⟨by simpa using hu, rfl⟩

theorem newURef_extends {V : Type} [CLTyped V] {v : V} {u : URef}
    (h : (newURef v : HostM Key D URef).run s = .ok u s') : s.Extends s' := by
  obtain ⟨hu, rfl⟩ := newURef_ok h
  intro x hx
  exact ⟨Function.update_of_ne (ne_of_inUse hx hu) _ _, rfl, rfl⟩

theorem newDictionary_ok {name : String} {u : URef}
    (h : (newDictionary name : HostM Key D URef).run s = .ok u s') :
    s.named name = none ∧ s.inUse u = false ∧ s' = { s with
      named := Function.update s.named name (some (ofURef u))
      dicts := Function.update s.dicts u (some fun _ => none)
      next := s.next + 1
      writes := s.writes + 1 } := by
  unfold newDictionary EStateM.run at h
  simp only at h
  split at h
  · cases h
  · rename_i hn
    split at h
    · cases h
    · rename_i hu
      cases h
      refine ⟨?_, by simpa using hu, rfl⟩
      have hsome := (not_or.1 hn).2
      simpa using hsome

theorem newDictionary_extends {name : String} {u : URef}
    (h : (newDictionary name : HostM Key D URef).run s = .ok u s') : s.Extends s' := by
  obtain ⟨-, hu, rfl⟩ := newDictionary_ok h
  intro x hx
  exact ⟨rfl, Function.update_of_ne (ne_of_inUse hx hu) _ _, rfl⟩

theorem newDictionary_dict {name : String} {u : URef}
    (h : (newDictionary name : HostM Key D URef).run s = .ok u s') :
    s'.Dict name u fun _ => none := by
  obtain ⟨-, -, rfl⟩ := newDictionary_ok h
  exact ⟨Function.update_self .., Function.update_self ..⟩

theorem createContractPackage_ok {r : HashAddr × URef}
    (h : (createContractPackage : HostM Key D (HashAddr × URef)).run s = .ok r s') :
    s.packages r.1 = none ∧ s.inUse r.2 = false ∧ s' = { s with
      packages := Function.update s.packages r.1 (some ⟨r.2, []⟩)
      values := Function.update s.values r.2 (some .unit)
      next := s.next + 2
      writes := s.writes + 1 } := by
  unfold createContractPackage EStateM.run at h
  simp only at h
  split at h
  · cases h
  · rename_i hu
    cases h
    simp only [Bool.or_eq_true, not_or, Option.isSome_iff_ne_none, ne_eq, not_not] at hu
    exact ⟨hu.1, by simpa using hu.2, rfl⟩

theorem addContractVersion_ok {package : HashAddr} {entryPoints : List EntryPoint}
    {namedKeys : NamedKeys Key} {r : HashAddr × ℕ}
    (h : (addContractVersion package entryPoints namedKeys : HostM Key D (HashAddr × ℕ)).run s =
      .ok r s') :
    ∃ p, s.packages package = some p ∧ s.contracts r.1 = none ∧ r.2 = p.nextVersion ∧
      s' = { s with
        contracts := Function.update s.contracts r.1 (some ⟨package, fun name =>
          ((p.current.bind fun v => s.contracts v.contract).bind fun c => c.namedKeys name).or
            (namedKeys name), entryPoints⟩)
        packages := Function.update s.packages package
          (some { p with versions := p.versions ++ [⟨p.nextVersion, r.1, true⟩] })
        next := s.next + 1
        writes := s.writes + 1 } := by
  unfold addContractVersion EStateM.run at h
  cases hp : s.packages package with
  | none => simp only [hp] at h; cases h
  | some p =>
    simp only [hp] at h
    split at h
    · cases h
    · rename_i hc
      cases h
      exact ⟨p, rfl, by simpa using hc, rfl, rfl⟩

theorem disableContractVersion_ok {package contract : HashAddr} {u : Unit}
    (h : (disableContractVersion package contract : HostM Key D Unit).run s = .ok u s') :
    ∃ p, s.packages package = some p ∧ s' = { s with
      packages := Function.update s.packages package (some { p with
        versions := p.versions.map fun v =>
          if v.contract = contract then { v with enabled := false } else v })
      writes := s.writes + 1 } := by
  unfold disableContractVersion EStateM.run at h
  cases hp : s.packages package with
  | none => simp only [hp] at h; cases h
  | some p =>
    simp only [hp] at h
    split at h
    · cases h; exact ⟨p, rfl, rfl⟩
    · cases h

theorem cesInit_ok {u : Unit} (h : (cesInit : HostM Key D Unit).run s = .ok u s') :
    ∃ r, s.named EVENTS_DICT = none ∧ s.inUse r = false ∧ s' = { s with
      named := Function.update s.named EVENTS_DICT (some (ofURef r))
      logs := Function.update s.logs r (some [])
      next := s.next + 1
      writes := s.writes + 1 } := by
  unfold cesInit EStateM.run at h
  simp only at h
  split at h
  · cases h
  · rename_i hu
    cases h
    simp only [Bool.or_eq_true, not_or, Option.isSome_iff_ne_none, ne_eq, not_not] at hu
    exact ⟨_, hu.1, by simpa using hu.2, rfl⟩

theorem dictionaryPut_ok {V : Type} [CLTyped V] {u : URef} {item : D.Item} {v : V} {r : Unit}
    (h : (dictionaryPut u item v : HostM Key D Unit).run s = .ok r s') :
    ∃ d, s.dicts u = some d ∧ s' = { s with
      dicts := Function.update s.dicts u (some (Function.update d item (some (CLTyped.fromT v))))
      writes := s.writes + 1 } := by
  unfold dictionaryPut EStateM.run at h
  cases hd : s.dicts u with
  | none => simp only [hd] at h; cases h
  | some d =>
    simp only [hd] at h
    cases h; exact ⟨d, rfl, rfl⟩

theorem createContractPackage_extends {r : HashAddr × URef}
    (h : (createContractPackage : HostM Key D (HashAddr × URef)).run s = .ok r s') :
    s.Extends s' := by
  obtain ⟨-, hu, rfl⟩ := createContractPackage_ok h
  intro x hx
  exact ⟨Function.update_of_ne (ne_of_inUse hx hu) _ _, rfl, rfl⟩

/-! ### Calling a contract -/

/-- The store after a call, in the context it came from; what the callee put stays with its
contract. -/
def Store.leave (s : Store Key D) (contractHash : HashAddr) (c : Contract Key) (s' : Store Key D) :
    Store Key D :=
  { s' with
    named := s.named
    contracts := Function.update s'.contracts contractHash (some { c with namedKeys := s'.named }) }

/-- **A contract that answers** runs the entry point in its own context. -/
theorem callContract_run {contractHash : HashAddr} {entryPoint : EntryPoint}
    {args : RuntimeArgs Key} {c : Contract Key} (hc : s.contracts contractHash = some c)
    (ha : entryPoint ∈ c.entryPoints ∧ s.isEnabled c.package contractHash) :
    (callContract env contractHash entryPoint args : HostM Key D CLValue).run s =
      onState (s.leave contractHash c) ((invoke entryPoint { env with
        callStack := env.callStack ++ [.StoredContract c.package contractHash]
        args := args } : HostM Key D CLValue).run { s with named := c.namedKeys }) := by
  show callContract env contractHash entryPoint args s = _
  unfold callContract
  simp only [hc, if_pos ha]
  generalize EStateM.run _ _ = r
  cases r <;> rfl

/-- A contract that does not answer is an error of the host. -/
theorem callContract_fails {contractHash : HashAddr} {entryPoint : EntryPoint}
    {args : RuntimeArgs Key} (h : ∀ c, s.contracts contractHash = some c →
      ¬ (entryPoint ∈ c.entryPoints ∧ s.isEnabled c.package contractHash)) :
    (callContract env contractHash entryPoint args : HostM Key D CLValue).run s =
      .error .host s := by
  show callContract env contractHash entryPoint args s = _
  unfold callContract
  cases hc : s.contracts contractHash with
  | none => rfl
  | some c => simp only [if_neg (h c hc)]

theorem callContract_ok {contractHash : HashAddr} {entryPoint : EntryPoint}
    {args : RuntimeArgs Key} {v : CLValue}
    (h : (callContract env contractHash entryPoint args : HostM Key D CLValue).run s = .ok v s') :
    ∃ c t, s.contracts contractHash = some c ∧
      (invoke entryPoint { env with
        callStack := env.callStack ++ [.StoredContract c.package contractHash]
        args := args } : HostM Key D CLValue).run { s with named := c.namedKeys } = .ok v t ∧
      s' = { t with
        named := s.named
        contracts := Function.update t.contracts contractHash
          (some { c with namedKeys := t.named }) } := by
  unfold callContract EStateM.run at h
  cases hc : s.contracts contractHash with
  | none => simp only [hc] at h; cases h
  | some c =>
    simp only [hc] at h
    split at h
    · split at h
      · rename_i value t ht
        cases h
        exact ⟨c, t, rfl, ht, rfl⟩
      · cases h
    · cases h

end Cep18
