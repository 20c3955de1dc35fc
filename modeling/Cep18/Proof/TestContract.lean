import Cep18.Proof.World

/-!
# What the test contract does

Run by anyone, with any arguments, an entry point of the test contract comes to a call of the
token that it is told to call (`invoke_run`). One that passes a call on does nothing else
(`commit_passOn`); one that asks for a number stores it (`storeResult_ok`) and leaves the
tokens alone.
-/

namespace Cep18

open Program Constants

variable {Key : Type} [CasperKey Key]

namespace TestContract

section Run

variable {D : ItemKeys Key} {s s' : Store Key D} {env : Env Key} {contract : HashAddr}
variable {entryPoint : EntryPoint} {tokenEntryPoint : Cep18.EntryPoint} {args : RuntimeArgs Key}

/-- The part of an entry point after it has read its arguments. -/
def passOn (entryPoint : EntryPoint) (env : Env Key) (contract : HashAddr)
    (tokenEntryPoint : Cep18.EntryPoint) (args : RuntimeArgs Key) : HostM Key D Unit :=
  if entryPoint.checks then do
    storeResult (← callContractAs U256 env contract tokenEntryPoint args)
  else callContractAs Unit env contract tokenEntryPoint args

theorem tokenContract_run (h : target env = some contract) :
    (tokenContract env : HostM Key D HashAddr).run s = .ok contract s := by
  obtain ⟨key, hkey, hhash⟩ := Option.bind_eq_some_iff.1 h
  unfold tokenContract
  rw [bind_of_ok (getNamedArg_run hkey), hhash]
  rfl

theorem tokenContract_refused (h : target env = none) :
    Refused (tokenContract env : HostM Key D HashAddr) s := by
  unfold target at h
  unfold tokenContract
  cases hkey : env.arg? Key TOKEN_CONTRACT with
  | none => exact Refused.bind (getNamedArg_refused hkey)
  | some key =>
    rw [hkey, Option.bind_some] at h
    refine ⟨.none, ?_⟩
    rw [bind_of_ok (getNamedArg_run hkey), h]
    rfl

/-- **With its arguments in order, an entry point goes on to call the token.** -/
theorem invoke_run (ht : target env = some contract)
    (hf : forwarded entryPoint env = some (tokenEntryPoint, args)) :
    (invoke entryPoint env : HostM Key D Unit).run s =
      (passOn entryPoint env contract tokenEntryPoint args).run s := by
  unfold invoke passOn
  cases entryPoint with
  | checkTotalSupply =>
    cases hf
    unfold checkTotalSupply
    rw [bind_of_ok (tokenContract_run ht)]
    rfl
  | checkBalanceOf =>
    obtain ⟨address, h1, hf⟩ := Option.bind_eq_some_iff.1 hf
    cases hf
    unfold checkBalanceOf
    rw [bind_of_ok (tokenContract_run ht), bind_of_ok (getNamedArg_run h1)]
    rfl
  | checkAllowanceOf =>
    obtain ⟨owner, h1, hf⟩ := Option.bind_eq_some_iff.1 hf
    obtain ⟨spender, h2, hf⟩ := Option.bind_eq_some_iff.1 hf
    cases hf
    unfold checkAllowanceOf
    rw [bind_of_ok (tokenContract_run ht), bind_of_ok (getNamedArg_run h1),
      bind_of_ok (getNamedArg_run h2)]
    rfl
  | transferAsStoredContract =>
    obtain ⟨recipient, h1, hf⟩ := Option.bind_eq_some_iff.1 hf
    obtain ⟨amount, h2, hf⟩ := Option.bind_eq_some_iff.1 hf
    cases hf
    unfold transferAsStoredContract
    rw [bind_of_ok (tokenContract_run ht), bind_of_ok (getNamedArg_run h1),
      bind_of_ok (getNamedArg_run h2)]
    rfl
  | transferFromAsStoredContract =>
    obtain ⟨owner, h1, hf⟩ := Option.bind_eq_some_iff.1 hf
    obtain ⟨recipient, h2, hf⟩ := Option.bind_eq_some_iff.1 hf
    obtain ⟨amount, h3, hf⟩ := Option.bind_eq_some_iff.1 hf
    cases hf
    unfold transferFromAsStoredContract
    rw [bind_of_ok (tokenContract_run ht), bind_of_ok (getNamedArg_run h1),
      bind_of_ok (getNamedArg_run h2), bind_of_ok (getNamedArg_run h3)]
    rfl
  | approveAsStoredContract =>
    obtain ⟨spender, h1, hf⟩ := Option.bind_eq_some_iff.1 hf
    obtain ⟨amount, h2, hf⟩ := Option.bind_eq_some_iff.1 hf
    cases hf
    unfold approveAsStoredContract
    rw [bind_of_ok (tokenContract_run ht), bind_of_ok (getNamedArg_run h1),
      bind_of_ok (getNamedArg_run h2)]
    rfl

/-- An argument that is read may be what stops a program. -/
theorem refused_arg {V α : Type} [FromArg Key V] {name : String} {f : V → HostM Key D α}
    (h : ∀ v, env.arg? V name = some v → Refused (f v) s) :
    Refused (getNamedArg env name >>= f) s := by
  cases hv : env.arg? V name with
  | none => exact Refused.bind (getNamedArg_refused hv)
  | some v =>
    obtain ⟨e, he⟩ := h v hv
    exact ⟨e, (bind_of_ok (getNamedArg_run hv)).trans he⟩

/-- **With an argument missing or malformed, no token is called.** -/
theorem invoke_refused (h : target env = none ∨ forwarded entryPoint env = none) :
    Refused (invoke entryPoint env : HostM Key D Unit) s := by
  have hfirst : ∀ f : HashAddr → HostM Key D Unit,
      (target env ≠ none → ∀ a, Refused (f a) s) → Refused (tokenContract env >>= f) s := by
    intro f hf
    cases ht : target env with
    | none => exact Refused.bind (tokenContract_refused ht)
    | some a =>
      obtain ⟨e, he⟩ := hf (by rw [ht]; simp) a
      exact ⟨e, (bind_of_ok (tokenContract_run ht)).trans he⟩
  unfold invoke
  cases entryPoint with
  | checkTotalSupply =>
    unfold checkTotalSupply
    refine hfirst _ fun ht a => ?_
    simp [forwarded, ht] at h
  | checkBalanceOf =>
    unfold checkBalanceOf
    refine hfirst _ fun ht a => refused_arg fun address h1 => ?_
    simp [forwarded, ht, h1] at h
  | checkAllowanceOf =>
    unfold checkAllowanceOf
    refine hfirst _ fun ht a => refused_arg fun owner h1 => refused_arg fun spender h2 => ?_
    simp [forwarded, ht, h1, h2] at h
  | transferAsStoredContract =>
    unfold transferAsStoredContract
    refine hfirst _ fun ht a => refused_arg fun recipient h1 => refused_arg fun amount h2 => ?_
    simp [forwarded, ht, h1, h2] at h
  | transferFromAsStoredContract =>
    unfold transferFromAsStoredContract
    refine hfirst _ fun ht a => refused_arg fun owner h1 => refused_arg fun recipient h2 =>
      refused_arg fun amount h3 => ?_
    simp [forwarded, ht, h1, h2, h3] at h
  | approveAsStoredContract =>
    unfold approveAsStoredContract
    refine hfirst _ fun ht a => refused_arg fun spender h1 => refused_arg fun amount h2 => ?_
    simp [forwarded, ht, h1, h2] at h

/-- What is passed on returns nothing. -/
theorem forwarded_returns {env' : Env Key} {v : CLValue} (hck : entryPoint.checks = false)
    (hf : forwarded entryPoint env = some (tokenEntryPoint, args))
    (h : (Cep18.invoke tokenEntryPoint env' : HostM Key D CLValue).run s = .ok v s') :
    v = .unit := by
  have hunit : ∀ {x : HostM Key D Unit},
      (x *> (pure .unit : HostM Key D CLValue)).run s = .ok v s' → v = .unit := by
    intro x hx
    rw [seqRight_eq_bind] at hx
    obtain ⟨_, t, -, hp⟩ := bind_eq_ok.1 hx
    exact (pure_eq_ok.1 hp).1.symm
  cases entryPoint with
  | checkTotalSupply => cases hck
  | checkBalanceOf => cases hck
  | checkAllowanceOf => cases hck
  | transferAsStoredContract =>
    obtain ⟨_, -, hf⟩ := Option.bind_eq_some_iff.1 hf
    obtain ⟨_, -, hf⟩ := Option.bind_eq_some_iff.1 hf
    cases hf
    exact hunit h
  | transferFromAsStoredContract =>
    obtain ⟨_, -, hf⟩ := Option.bind_eq_some_iff.1 hf
    obtain ⟨_, -, hf⟩ := Option.bind_eq_some_iff.1 hf
    obtain ⟨_, -, hf⟩ := Option.bind_eq_some_iff.1 hf
    cases hf
    exact hunit h
  | approveAsStoredContract =>
    obtain ⟨_, -, hf⟩ := Option.bind_eq_some_iff.1 hf
    obtain ⟨_, -, hf⟩ := Option.bind_eq_some_iff.1 hf
    cases hf
    exact hunit h

/-- **Passing a call on is making it.** -/
theorem commit_passOn (hck : entryPoint.checks = false)
    (hf : forwarded entryPoint env = some (tokenEntryPoint, args)) (env' : Env Key) :
    commit (passOn entryPoint env' contract tokenEntryPoint args) s =
      commit (callContract env' contract tokenEntryPoint args) s := by
  have hpass : (passOn entryPoint env' contract tokenEntryPoint args : HostM Key D Unit) =
      callContractAs Unit env' contract tokenEntryPoint args := by simp [passOn, hck]
  rw [hpass]
  unfold callContractAs
  cases hx : (callContract env' contract tokenEntryPoint args : HostM Key D CLValue).run s with
  | error e t => rw [commit_of_error hx, commit_of_error (bind_of_error hx)]
  | ok v t =>
    obtain ⟨c, t', -, hrun, -⟩ := callContract_ok hx
    obtain rfl := forwarded_returns hck hf hrun
    rw [commit_of_ok hx]
    exact commit_of_ok ((bind_of_ok hx).trans rfl)

end Run

/-! ### Asking -/

section Checks

variable {D : DistinctItemKeys Key} {s s' : Store Key D.toItemKeys} {env : Env Key}
variable {contract : HashAddr} {c : Contract Key} {l : Layout} {log : List (Event Key)}
variable {T : Token Key} {entryPoint : EntryPoint} {tokenEntryPoint : Cep18.EntryPoint}
variable {args : RuntimeArgs Key}

/-- What asks for a number is a query. -/
theorem forwarded_query (hck : entryPoint.checks)
    (hf : forwarded entryPoint env = some (tokenEntryPoint, args)) (env' : Env Key)
    (package contract : HashAddr) :
    (Request.call ⟨env', tokenEntryPoint, args⟩ package contract).op? = some .query := by
  cases entryPoint with
  | checkTotalSupply => cases hf; rfl
  | checkBalanceOf =>
    obtain ⟨address, -, hf⟩ := Option.bind_eq_some_iff.1 hf
    cases hf; rfl
  | checkAllowanceOf =>
    obtain ⟨owner, -, hf⟩ := Option.bind_eq_some_iff.1 hf
    obtain ⟨spender, -, hf⟩ := Option.bind_eq_some_iff.1 hf
    cases hf; rfl
  | transferAsStoredContract => cases hck
  | transferFromAsStoredContract => cases hck
  | approveAsStoredContract => cases hck

/-- **What a token is asked for, it answers.** -/
theorem asked_run (h : Hosts s contract c l log T) (hck : entryPoint.checks)
    (hf : forwarded entryPoint env = some (tokenEntryPoint, args)) (env' : Env Key) :
    ∃ n : U256, asked entryPoint env (s.within c) = some n ∧
      (callContract env' contract tokenEntryPoint args).run s = .ok (CLTyped.fromT n) s := by
  obtain ⟨v, hv, hrun⟩ := h.queried (forwarded_query hck hf env' c.package contract)
  cases entryPoint with
  | checkTotalSupply =>
    cases hf
    refine ⟨(s.within c).totalSupply, rfl, hrun.trans ?_⟩
    rw [← ofNat_of_toNat_eq h.rep.totalSupply]
    cases hv; rfl
  | checkBalanceOf =>
    obtain ⟨address, h1, hf⟩ := Option.bind_eq_some_iff.1 hf
    cases hf
    refine ⟨(s.within c).balance address, ?_, hrun.trans ?_⟩
    · simp only [asked, h1, Option.bind_eq_bind, Option.bind_some]
    · rw [← ofNat_of_toNat_eq (h.rep.balance address)]
      cases hv; rfl
  | checkAllowanceOf =>
    obtain ⟨owner, h1, hf⟩ := Option.bind_eq_some_iff.1 hf
    obtain ⟨spender, h2, hf⟩ := Option.bind_eq_some_iff.1 hf
    cases hf
    refine ⟨(s.within c).allowance owner spender, ?_, hrun.trans ?_⟩
    · simp only [asked, h1, h2, Option.bind_eq_bind, Option.bind_some]
    · rw [← ofNat_of_toNat_eq (h.rep.allowance owner spender)]
      cases hv; rfl
  | transferAsStoredContract => cases hck
  | transferFromAsStoredContract => cases hck
  | approveAsStoredContract => cases hck

/-- From `s` to `s'`, the test contract has stored its result, and nothing else has changed. -/
structure Stores (s s' : Store Key D.toItemKeys) (n : U256) : Prop where
  contracts : s'.contracts = s.contracts
  packages : s'.packages = s.packages
  result : ∃ u, s'.Cell RESULT_KEY u n ∧ (∀ w, w ≠ u → s.SameAt w s') ∧
    (s.named RESULT_KEY = some (ofURef u) ∨ s.inUse u = false)

/-- **Storing a result** changes it and nothing else. -/
theorem storeResult_ok (h : KeepsResult s) {n : U256} {r : Unit}
    (hrun : (storeResult n : HostM Key D.toItemKeys Unit).run s = .ok r s') : Stores s s' n := by
  unfold storeResult at hrun
  obtain ⟨key, t, ht, hrun⟩ := bind_eq_ok.1 hrun
  obtain ⟨rfl, rfl⟩ := getKey_ok ht
  rcases h.stored with hnone | ⟨u, m, hcell, -⟩
  · -- a new URef, under the named key
    rw [hnone] at hrun
    obtain ⟨u, t, ht, hrun⟩ := bind_eq_ok.1 hrun
    obtain ⟨hu, rfl⟩ := newURef_ok ht
    obtain rfl := putKey_ok hrun
    refine ⟨rfl, rfl, u, ⟨?_, ?_⟩, fun w hw => ?_, Or.inr hu⟩
    · exact Function.update_self RESULT_KEY _ s.named
    · exact Function.update_self u _ s.values
    · exact ⟨Function.update_of_ne hw _ _, rfl, rfl⟩
  · -- the URef that is there
    rw [hcell.named] at hrun
    simp only [CasperKey.intoURef_ofURef] at hrun
    cases hrun
    refine ⟨rfl, rfl, u, ⟨hcell.named, ?_⟩, fun w hw => ?_, Or.inl hcell.named⟩
    · exact Function.update_self u _ s.values
    · exact ⟨Function.update_of_ne hw _ _, rfl, rfl⟩

/-- A new URef is handed out if the next address is free. -/
theorem newURef_succeeds_iff {V : Type} [CLTyped V] {v : V} :
    Succeeds (newURef v : HostM Key D.toItemKeys URef) s ↔ s.inUse (s.address s.next) = false := by
  constructor
  · rintro ⟨u, t, hrun⟩
    cases hu : s.inUse (s.address s.next) with
    | false => rfl
    | true =>
      have herr : newURef v s = .error .host s := by
        unfold newURef
        simp only [hu, if_true]
      have hbad : EStateM.Result.error ApiError.host s = .ok u t := herr.symm.trans hrun
      cases hbad
  · intro hu
    have hok : newURef v s = .ok (s.address s.next) { s with
        values := Function.update s.values (s.address s.next) (some (CLTyped.fromT v))
        next := s.next + 1
        writes := s.writes + 1 } := by
      unfold newURef
      simp only [hu, Bool.false_eq_true, if_false]
    exact ⟨_, _, hok⟩

/-- **A result is stored** where there is room for it. -/
theorem storeResult_succeeds_iff (h : KeepsResult s) (n : U256) :
    Succeeds (storeResult n : HostM Key D.toItemKeys Unit) s ↔ HasRoom s := by
  have hkey : (getKey RESULT_KEY : HostM Key D.toItemKeys (Option Key)).run s =
      .ok (s.named RESULT_KEY) s := rfl
  unfold storeResult Succeeds HasRoom
  rw [bind_of_ok hkey]
  rcases h.stored with hnone | ⟨u, m, hcell, -⟩
  · rw [hnone]
    simp only [Option.isSome_none, Bool.false_eq_true, false_or]
    rw [← newURef_succeeds_iff (v := n)]
    constructor
    · rintro ⟨r, t, hrun⟩
      obtain ⟨u, t', hnew, -⟩ := bind_eq_ok.1 hrun
      exact ⟨u, t', hnew⟩
    · rintro ⟨u, t, hnew⟩
      exact ⟨(), _, (bind_of_ok hnew).trans rfl⟩
  · rw [hcell.named]
    simp only [CasperKey.intoURef_ofURef, Option.isSome_some, true_or, iff_true]
    exact ⟨_, _, rfl⟩

end Checks

end TestContract

end Cep18
