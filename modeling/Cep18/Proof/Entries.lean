import Cep18.Proof.Calls
import Cep18.Spec.Entries

/-!
# The same token under other item keys

Whatever it runs, the contract does the same on two stores that differ only in how their
dictionary items are addressed, as long as both keep different entries apart.
-/

namespace Cep18

open Program Constants

variable {Key : Type} [CasperKey Key] {D E : ItemKeys Key} {K : Set Key}

/-! ### The host -/

section Host

variable {s : Store Key D} {dicts : URef → Option (E.Item → Option CLValue)}

/-- The program does the same on stores that agree. -/
abbrev Same (K : Set Key) {α : Type} (x : HostM Key D α) (y : HostM Key E α) : Prop :=
  Simulates (Alike K) x y

theorem inUse_withDicts (h : ∀ u, Option.Rel (AlikeItems K) (s.dicts u) (dicts u)) (u : URef) :
    (s.withDicts dicts).inUse u = s.inUse u := by
  have hu := h u
  have hsome : (dicts u).isSome = (s.dicts u).isSome := by
    generalize s.dicts u = d, dicts u = e at hu
    cases hu <;> rfl
  simp only [Store.inUse, Store.withDicts_values, Store.withDicts_dicts, Store.withDicts_logs, hsome]

theorem getKey_same (name : String) :
    Same K (getKey name : HostM Key D (Option Key)) (getKey name : HostM Key E (Option Key)) := by
  rintro s _ ⟨dicts, rfl, h⟩
  exact .ok ⟨dicts, rfl, h⟩

theorem putKey_same (name : String) (key : Key) :
    Same K (putKey name key : HostM Key D Unit) (putKey name key : HostM Key E Unit) := by
  rintro s _ ⟨dicts, rfl, h⟩
  exact .ok ⟨dicts, rfl, h⟩

theorem unwrapOrRevertWith_same {α : Type} (e : ApiError) (o : Option α) :
    Same K (unwrapOrRevertWith e o : HostM Key D α) (unwrapOrRevertWith e o : HostM Key E α) := by
  cases o with
  | none => exact Simulates.throw e
  | some a => exact Simulates.pure a

theorem unwrapOrRevert_same {α : Type} (r : Except Cep18Error α) :
    Same K (unwrapOrRevert r : HostM Key D α) (unwrapOrRevert r : HostM Key E α) := by
  cases r with
  | error e => exact Simulates.throw e.toApi
  | ok a => exact Simulates.pure a

theorem newURef_same {T : Type} [CLTyped T] (init : T) :
    Same K (newURef init : HostM Key D URef) (newURef init : HostM Key E URef) := by
  rintro s _ ⟨dicts, rfl, h⟩
  have hu := inUse_withDicts h
  unfold newURef EStateM.run
  simp only [Store.withDicts_address, Store.withDicts_next, hu]
  split
  · exact .error ⟨dicts, rfl, h⟩
  · exact .ok ⟨dicts, rfl, h⟩

theorem read_same {T : Type} [CLTyped T] (u : URef) :
    Same K (read u : HostM Key D (Option T)) (read u : HostM Key E (Option T)) := by
  rintro s _ ⟨dicts, rfl, h⟩
  unfold read EStateM.run
  simp only [Store.withDicts_values]
  cases s.values u with
  | none => exact .ok ⟨dicts, rfl, h⟩
  | some v =>
    simp only
    cases (CLTyped.intoT v : Option T) with
    | none => exact .error ⟨dicts, rfl, h⟩
    | some t => exact .ok ⟨dicts, rfl, h⟩

theorem write_same {T : Type} [CLTyped T] (u : URef) (value : T) :
    Same K (write u value : HostM Key D Unit) (write u value : HostM Key E Unit) := by
  rintro s _ ⟨dicts, rfl, h⟩
  exact .ok ⟨dicts, rfl, h⟩

/-- Two dictionaries changed alike at the same URef. -/
theorem rel_update (h : ∀ u, Option.Rel (AlikeItems K) (s.dicts u) (dicts u)) (u : URef)
    {d : D.Item → Option CLValue} {e : E.Item → Option CLValue} (hde : AlikeItems K d e) (v : URef) :
    Option.Rel (AlikeItems K) (Function.update s.dicts u (some d) v)
      (Function.update dicts u (some e) v) := by
  by_cases hv : v = u
  · subst hv
    rw [Function.update_self, Function.update_self]
    exact .some hde
  · rw [Function.update_of_ne hv, Function.update_of_ne hv]
    exact h v

theorem newDictionary_same (name : String) :
    Same K (newDictionary name : HostM Key D URef) (newDictionary name : HostM Key E URef) := by
  rintro s _ ⟨dicts, rfl, h⟩
  have hu := inUse_withDicts h
  unfold newDictionary EStateM.run
  simp only [Store.withDicts_address, Store.withDicts_next, Store.withDicts_named, hu]
  split
  · exact .error ⟨dicts, rfl, h⟩
  · split
    · exact .error ⟨dicts, rfl, h⟩
    · exact .ok ⟨_, rfl, rel_update h _ fun _ _ => rfl⟩

/-- An entry reads the same in both stores. -/
theorem dictionaryGet_same {T : Type} [CLTyped T] (u : URef) {i : Entry Key} (hi : i.Within K) :
    Same K (dictionaryGet u (D.itemOf i) : HostM Key D (Option T))
      (dictionaryGet u (E.itemOf i) : HostM Key E (Option T)) := by
  rintro s _ ⟨dicts, rfl, h⟩
  have hu := h u
  unfold dictionaryGet EStateM.run
  simp only [Store.withDicts_dicts]
  cases hd : s.dicts u with
  | none =>
    rw [hd] at hu
    cases he : dicts u with
    | none => exact .error ⟨dicts, rfl, h⟩
    | some e => rw [he] at hu; cases hu
  | some d =>
    rw [hd] at hu
    cases he : dicts u with
    | none => rw [he] at hu; cases hu
    | some e =>
      rw [he] at hu
      cases hu with
      | some hde =>
        simp only [hde i hi]
        cases e (E.itemOf i) with
        | none => exact .ok ⟨dicts, rfl, h⟩
        | some v =>
          simp only
          cases (CLTyped.intoT v : Option T) with
          | none => exact .error ⟨dicts, rfl, h⟩
          | some t => exact .ok ⟨dicts, rfl, h⟩

/-- Writing one entry changes the same entry in both dictionaries, and no other. -/
theorem AlikeItems.update (hD : D.Separates K) (hE : E.Separates K) {d : D.Item → Option CLValue}
    {e : E.Item → Option CLValue} (h : AlikeItems K d e) {i : Entry Key} (hi : i.Within K)
    (v : Option CLValue) :
    AlikeItems K (Function.update d (D.itemOf i) v) (Function.update e (E.itemOf i) v) := by
  intro j hj
  by_cases hij : j = i
  · subst hij
    rw [Function.update_self, Function.update_self]
  · rw [Function.update_of_ne fun he => hij (hD j i hj hi he),
      Function.update_of_ne fun he => hij (hE j i hj hi he)]
    exact h j hj

theorem dictionaryPut_same (hD : D.Separates K) (hE : E.Separates K) {T : Type} [CLTyped T]
    (u : URef) {i : Entry Key} (hi : i.Within K) (value : T) :
    Same K (dictionaryPut u (D.itemOf i) value : HostM Key D Unit)
      (dictionaryPut u (E.itemOf i) value : HostM Key E Unit) := by
  rintro s _ ⟨dicts, rfl, h⟩
  have hu := h u
  unfold dictionaryPut EStateM.run
  simp only [Store.withDicts_dicts]
  cases hd : s.dicts u with
  | none =>
    rw [hd] at hu
    cases he : dicts u with
    | none => exact .error ⟨dicts, rfl, h⟩
    | some e => rw [he] at hu; cases hu
  | some d =>
    rw [hd] at hu
    cases he : dicts u with
    | none => rw [he] at hu; cases hu
    | some e =>
      rw [he] at hu
      cases hu with
      | some hde => exact .ok ⟨_, rfl, rel_update h u (hde.update hD hE hi _)⟩

theorem createContractPackage_same :
    Same K (createContractPackage : HostM Key D (HashAddr × URef))
      (createContractPackage : HostM Key E (HashAddr × URef)) := by
  rintro s _ ⟨dicts, rfl, h⟩
  have hu := inUse_withDicts h
  unfold createContractPackage EStateM.run
  simp only [Store.withDicts_address, Store.withDicts_next, Store.withDicts_packages, hu]
  split
  · exact .error ⟨dicts, rfl, h⟩
  · exact .ok ⟨dicts, rfl, h⟩

theorem addContractVersion_same (package : HashAddr) (entryPoints : List EntryPoint)
    (namedKeys : NamedKeys Key) :
    Same K (addContractVersion package entryPoints namedKeys : HostM Key D (HashAddr × ℕ))
      (addContractVersion package entryPoints namedKeys : HostM Key E (HashAddr × ℕ)) := by
  rintro s _ ⟨dicts, rfl, h⟩
  unfold addContractVersion EStateM.run
  simp only [Store.withDicts_packages]
  cases s.packages package with
  | none => exact .error ⟨dicts, rfl, h⟩
  | some p =>
    simp only
    by_cases hc : (s.contracts (s.address s.next)).isSome = true
    · have hc' : ((s.withDicts dicts).contracts
          ((s.withDicts dicts).address (s.withDicts dicts).next)).isSome = true := hc
      rw [if_pos hc, if_pos hc']
      exact .error ⟨dicts, rfl, h⟩
    · have hc' : ¬ ((s.withDicts dicts).contracts
          ((s.withDicts dicts).address (s.withDicts dicts).next)).isSome = true := hc
      rw [if_neg hc, if_neg hc']
      exact .ok ⟨dicts, rfl, h⟩

theorem cesInit_same : Same K (cesInit : HostM Key D Unit) (cesInit : HostM Key E Unit) := by
  rintro s _ ⟨dicts, rfl, h⟩
  have hu := inUse_withDicts h
  unfold cesInit EStateM.run
  simp only [Store.withDicts_address, Store.withDicts_next, Store.withDicts_named, hu]
  split
  · exact .error ⟨dicts, rfl, h⟩
  · exact .ok ⟨dicts, rfl, h⟩

theorem emit_same (event : Event Key) :
    Same K (emit event : HostM Key D Unit) (emit event : HostM Key E Unit) := by
  rintro s _ ⟨dicts, rfl, h⟩
  unfold emit EStateM.run
  simp only [Store.withDicts_named]
  cases (s.named EVENTS_DICT).bind intoURef with
  | none => exact .error ⟨dicts, rfl, h⟩
  | some u =>
    simp only [Store.withDicts_logs]
    cases s.logs u with
    | none => exact .error ⟨dicts, rfl, h⟩
    | some log => exact .ok ⟨dicts, rfl, h⟩

end Host

/-! ### Helpers -/

theorem getUref_same (name : String) :
    Same K (getUref name : HostM Key D URef) (getUref name : HostM Key E URef) := by
  unfold getUref
  exact (getKey_same name).bind fun _ => (unwrapOrRevertWith_same _ _).bind fun _ =>
    unwrapOrRevertWith_same _ _

theorem readFrom_same {T : Type} [CLTyped T] (name : String) :
    Same K (readFrom name : HostM Key D T) (readFrom name : HostM Key E T) := by
  unfold readFrom
  exact (getUref_same name).bind fun _ => (read_same _).bind fun _ => unwrapOrRevertWith_same _ _

/-- An argument is the same to both, and what follows may rely on what was given. -/
theorem getNamedArg_bind {T α : Type} [FromArg Key T] {env : Env Key} {name : String}
    {f : T → HostM Key D α} {g : T → HostM Key E α}
    (h : ∀ v, env.arg? T name = some v → Same K (f v) (g v)) :
    Same K (getNamedArg env name >>= f) (getNamedArg env name >>= g) := by
  have harg : Same K (getNamedArg env name : HostM Key D T)
      (getNamedArg env name : HostM Key E T) := by
    unfold getNamedArg
    cases env.args name with
    | none => exact Simulates.throw _
    | some arg =>
      simp only
      cases (FromArg.fromArg arg : Option T) with
      | none => exact Simulates.throw _
      | some value => exact Simulates.pure value
  exact harg.bind_of (fun s v s' hv => (getNamedArg_ok hv).1) h

theorem getOptionalNamedArg_same {T : Type} [FromArg Key T] (env : Env Key) (name : String)
    (invalid : Cep18Error) :
    Same K (getOptionalNamedArgWithUserErrors env name invalid : HostM Key D (Option T))
      (getOptionalNamedArgWithUserErrors env name invalid : HostM Key E (Option T)) := by
  unfold getOptionalNamedArgWithUserErrors
  rcases getNamedArgWithUserErrors T env name .Phantom invalid with e | v
  · cases e
    case Phantom => exact Simulates.pure none
    all_goals exact Simulates.throw _
  · exact Simulates.pure (some v)

/-- The caller is the same to both, and what follows may rely on who it is. -/
theorem caller_bind {α : Type} {env : Env Key} {f : Key → HostM Key D α} {g : Key → HostM Key E α}
    (h : ∀ k, env.callerIdentity = some k → Same K (f k) (g k)) :
    Same K (unwrapOrRevert (getImmediateCallerAddress env) >>= f)
      (unwrapOrRevert (getImmediateCallerAddress env) >>= g) := by
  refine (unwrapOrRevert_same _).bind_of (P := fun k => env.callerIdentity = some k) ?_ h
  intro s k s' hk
  unfold Env.callerIdentity
  rw [(unwrapOrRevert_eq_ok hk).1]
  rfl

theorem readBalanceFrom_same (u : URef) (k : Key) :
    Same K (readBalanceFrom u k : HostM Key D U256) (readBalanceFrom u k : HostM Key E U256) := by
  have hget := dictionaryGet_same (D := D) (E := E) (K := K) (T := U256) u (i := .ofKey k) trivial
  unfold readBalanceFrom
  exact hget.bind fun _ => Simulates.pure _

theorem readAllowanceFrom_same (u : URef) {o sp : Key} (ho : o ∈ K) (hsp : sp ∈ K) :
    Same K (readAllowanceFrom u o sp : HostM Key D U256)
      (readAllowanceFrom u o sp : HostM Key E U256) := by
  have hget := dictionaryGet_same (D := D) (E := E) (K := K) (T := U256) u (i := .ofPair o sp)
    ⟨ho, hsp⟩
  unfold readAllowanceFrom
  exact hget.bind fun _ => Simulates.pure _

theorem secCheck_same (env : Env Key) (allowed : List SecurityBadge) :
    Same K (secCheck env allowed : HostM Key D Unit) (secCheck env allowed : HostM Key E Unit) := by
  unfold secCheck
  refine (unwrapOrRevert_same _).bind fun caller => (getUref_same _).bind fun u => ?_
  have hget := dictionaryGet_same (D := D) (E := E) (K := K) (T := SecurityBadge) u
    (i := .ofKey caller) trivial
  refine hget.bind fun _ => (unwrapOrRevertWith_same _ _).bind fun _ => ?_
  exact Simulates.ite (fun _ => Simulates.pure _) fun _ => Simulates.throw _

theorem recordEventDictionary_same (event : Event Key) :
    Same K (recordEventDictionary event : HostM Key D Unit)
      (recordEventDictionary event : HostM Key E Unit) := by
  unfold recordEventDictionary
  refine (readFrom_same _).bind fun _ => (unwrapOrRevert_same _).bind fun mode => ?_
  cases mode with
  | NoEvents => exact Simulates.pure _
  | CES => exact emit_same event

theorem initEvents_same : Same K (initEvents : HostM Key D Unit) (initEvents : HostM Key E Unit) := by
  unfold initEvents
  refine (readFrom_same _).bind fun _ => (unwrapOrRevert_same _).bind fun _ => ?_
  exact Simulates.ite (fun _ => cesInit_same) fun _ => Simulates.pure _

theorem balanceOf_same (env : Env Key) :
    Same K (balanceOf env : HostM Key D U256) (balanceOf env : HostM Key E U256) := by
  unfold balanceOf
  exact getNamedArg_bind fun _ _ => (getUref_same _).bind fun _ => readBalanceFrom_same _ _

theorem allowance_same {c : Call Key} (hc : c.Within K) :
    Same K (allowance c.env : HostM Key D U256) (allowance c.env : HostM Key E U256) := by
  unfold allowance
  refine getNamedArg_bind fun sp hsp => getNamedArg_bind fun o ho => ?_
  exact (getUref_same _).bind fun _ =>
    readAllowanceFrom_same _ (hc.owner o ho) (hc.spender sp hsp)

section Separate

variable (hD : D.Separates K) (hE : E.Separates K)
include hD hE

theorem putOfKey_same {T : Type} [CLTyped T] (u : URef) (k : Key) (value : T) :
    Same K (dictionaryPut u (D.ofKey k) value : HostM Key D Unit)
      (dictionaryPut u (E.ofKey k) value : HostM Key E Unit) :=
  dictionaryPut_same hD hE u (i := .ofKey k) trivial value

theorem writeAllowanceTo_same (u : URef) {o sp : Key} (ho : o ∈ K) (hsp : sp ∈ K) (v : U256) :
    Same K (writeAllowanceTo u o sp v : HostM Key D Unit)
      (writeAllowanceTo u o sp v : HostM Key E Unit) :=
  dictionaryPut_same hD hE u (i := .ofPair o sp) ⟨ho, hsp⟩ v

theorem changeSecBadge_same (badgeMap : BTreeMap Key SecurityBadge) :
    Same K (changeSecBadge badgeMap : HostM Key D Unit)
      (changeSecBadge badgeMap : HostM Key E Unit) := by
  unfold changeSecBadge
  refine (getUref_same _).bind fun u => ?_
  exact Simulates.forM (fun (p : Key × SecurityBadge) => putOfKey_same hD hE u p.1 p.2) _

theorem putBadges_same (u : URef) (list : Option (List Key)) (badge : SecurityBadge) :
    Same K (putBadges u list badge : HostM Key D Unit)
      (putBadges u list badge : HostM Key E Unit) :=
  Simulates.forM (fun k => putOfKey_same hD hE u k badge) _

theorem transferBalance_same (sender recipient : Key) (amount : U256) :
    Same K (transferBalance sender recipient amount : HostM Key D Unit)
      (transferBalance sender recipient amount : HostM Key E Unit) := by
  unfold transferBalance
  refine Simulates.ite (fun _ => Simulates.pure _) fun _ => ?_
  refine (getUref_same _).bind fun _ => (readBalanceFrom_same _ _).bind fun _ => ?_
  refine (unwrapOrRevertWith_same _ _).bind fun _ => (readBalanceFrom_same _ _).bind fun _ => ?_
  refine (unwrapOrRevertWith_same _ _).bind fun _ => ?_
  exact (putOfKey_same hD hE _ _ _).bind fun _ => putOfKey_same hD hE _ _ _

/-! ### Entry points -/

theorem approve_same {c : Call Key} (hc : c.Within K) :
    Same K (approve c.env : HostM Key D Unit) (approve c.env : HostM Key E Unit) := by
  unfold approve
  refine caller_bind fun o ho => getNamedArg_bind fun sp hsp => ?_
  refine Simulates.ite (fun _ => Simulates.throw _) fun _ => getNamedArg_bind fun _ _ => ?_
  refine (getUref_same _).bind fun u => ?_
  exact (writeAllowanceTo_same hD hE u (hc.caller o ho) (hc.spender sp hsp) _).bind fun _ =>
    recordEventDictionary_same _

theorem adjustAllowance_same {c : Call Key} (hc : c.Within K) (adjust : U256 → U256 → U256)
    (event : Key → Key → U256 → U256 → Event Key) :
    Same K (adjustAllowance c.env adjust event : HostM Key D Unit)
      (adjustAllowance c.env adjust event : HostM Key E Unit) := by
  unfold adjustAllowance
  refine caller_bind fun o ho => getNamedArg_bind fun sp hsp => ?_
  refine Simulates.ite (fun _ => Simulates.throw _) fun _ => getNamedArg_bind fun _ _ => ?_
  have ho := hc.caller o ho
  have hsp := hc.spender sp hsp
  refine (getUref_same _).bind fun u => (readAllowanceFrom_same u ho hsp).bind fun _ => ?_
  exact (writeAllowanceTo_same hD hE u ho hsp _).bind fun _ => recordEventDictionary_same _

theorem transfer_same (env : Env Key) :
    Same K (transfer env : HostM Key D Unit) (transfer env : HostM Key E Unit) := by
  unfold transfer
  refine caller_bind fun _ _ => getNamedArg_bind fun _ _ => ?_
  refine Simulates.ite (fun _ => Simulates.throw _) fun _ => getNamedArg_bind fun _ _ => ?_
  exact (transferBalance_same hD hE _ _ _).bind fun _ => recordEventDictionary_same _

theorem transferFrom_same {c : Call Key} (hc : c.Within K) :
    Same K (transferFrom c.env : HostM Key D Unit) (transferFrom c.env : HostM Key E Unit) := by
  unfold transferFrom
  refine caller_bind fun sp hsp => getNamedArg_bind fun _ _ => getNamedArg_bind fun o ho => ?_
  refine Simulates.ite (fun _ => Simulates.throw _) fun _ => getNamedArg_bind fun _ _ => ?_
  refine Simulates.ite (fun _ => Simulates.pure _) fun _ => ?_
  -- the spender is the caller here
  have ho := hc.owner o ho
  have hsp := hc.caller sp hsp
  refine (getUref_same _).bind fun u => (readAllowanceFrom_same u ho hsp).bind fun _ => ?_
  refine (unwrapOrRevertWith_same _ _).bind fun _ => ?_
  refine (transferBalance_same hD hE _ _ _).bind fun _ => ?_
  exact (writeAllowanceTo_same hD hE u ho hsp _).bind fun _ => recordEventDictionary_same _

theorem mint_same (env : Env Key) :
    Same K (mint env : HostM Key D Unit) (mint env : HostM Key E Unit) := by
  unfold mint
  refine (readFrom_same _).bind fun _ => Simulates.ite (fun _ => Simulates.throw _) fun _ => ?_
  refine (secCheck_same _ _).bind fun _ => getNamedArg_bind fun _ _ => ?_
  refine getNamedArg_bind fun _ _ => (getUref_same _).bind fun _ => (getUref_same _).bind fun _ => ?_
  refine (readBalanceFrom_same _ _).bind fun _ => (unwrapOrRevertWith_same _ _).bind fun _ => ?_
  refine ((read_same _).bind fun _ => unwrapOrRevertWith_same _ _).bind fun _ => ?_
  refine (unwrapOrRevertWith_same _ _).bind fun _ => ?_
  exact (putOfKey_same hD hE _ _ _).bind fun _ => (write_same _ _).bind fun _ =>
    recordEventDictionary_same _

theorem burn_same (env : Env Key) :
    Same K (burn env : HostM Key D Unit) (burn env : HostM Key E Unit) := by
  unfold burn
  refine (readFrom_same _).bind fun _ => Simulates.ite (fun _ => Simulates.throw _) fun _ => ?_
  refine getNamedArg_bind fun _ _ => (unwrapOrRevert_same _).bind fun _ => ?_
  refine Simulates.ite (fun _ => Simulates.throw _) fun _ => getNamedArg_bind fun _ _ => ?_
  refine (getUref_same _).bind fun _ => (getUref_same _).bind fun _ => ?_
  refine (readBalanceFrom_same _ _).bind fun _ => (unwrapOrRevertWith_same _ _).bind fun _ => ?_
  refine ((read_same _).bind fun _ => unwrapOrRevertWith_same _ _).bind fun _ => ?_
  refine (unwrapOrRevertWith_same _ _).bind fun _ => ?_
  exact (putOfKey_same hD hE _ _ _).bind fun _ => (write_same _ _).bind fun _ =>
    recordEventDictionary_same _

theorem init_same (env : Env Key) :
    Same K (init env : HostM Key D Unit) (init env : HostM Key E Unit) := by
  unfold init
  refine (getKey_same _).bind fun _ => Simulates.ite (fun _ => Simulates.throw _) fun _ => ?_
  refine getNamedArg_bind fun _ _ => (putKey_same _ _).bind fun _ => ?_
  refine (newDictionary_same _).bind fun _ => (newDictionary_same _).bind fun _ => ?_
  refine getNamedArg_bind fun _ _ => (putOfKey_same hD hE _ _ _).bind fun _ => ?_
  refine (newDictionary_same _).bind fun _ => (putOfKey_same hD hE _ _ _).bind fun _ => ?_
  refine (getOptionalNamedArg_same _ _ _).bind fun _ => ?_
  refine (getOptionalNamedArg_same _ _ _).bind fun _ => initEvents_same.bind fun _ => ?_
  refine (putBadges_same hD hE _ _ _).bind fun _ => (putBadges_same hD hE _ _ _).bind fun _ => ?_
  exact recordEventDictionary_same _

theorem changeSecurity_same (env : Env Key) :
    Same K (changeSecurity env : HostM Key D Unit) (changeSecurity env : HostM Key E Unit) := by
  unfold changeSecurity
  refine (readFrom_same _).bind fun _ => Simulates.ite (fun _ => Simulates.throw _) fun _ => ?_
  refine (secCheck_same _ _).bind fun _ => (getOptionalNamedArg_same _ _ _).bind fun _ => ?_
  refine (getOptionalNamedArg_same _ _ _).bind fun _ => ?_
  refine (getOptionalNamedArg_same _ _ _).bind fun _ => (unwrapOrRevert_same _).bind fun _ => ?_
  refine (changeSecBadge_same hD hE _).bind fun _ => (unwrapOrRevert_same _).bind fun _ => ?_
  exact recordEventDictionary_same _

/-- **Every call does the same**, if the allowances it can involve are between keys in `K`. -/
theorem program_same {c : Call Key} (hc : c.Within K) :
    Same K (c.program : HostM Key D CLValue) (c.program : HostM Key E CLValue) := by
  obtain ⟨entryPoint, env⟩ := c
  unfold Call.program invoke
  cases entryPoint
  case init => exact (init_same hD hE env).seqRight (Simulates.pure _)
  case name => exact (readFrom_same (T := String) NAME).map _
  case symbol => exact (readFrom_same (T := String) SYMBOL).map _
  case decimals => exact (readFrom_same (T := UInt8) DECIMALS).map _
  case totalSupply => exact (readFrom_same (T := U256) TOTAL_SUPPLY).map _
  case balanceOf => exact (balanceOf_same env).map _
  case transfer => exact (transfer_same hD hE env).seqRight (Simulates.pure _)
  case approve => exact (approve_same hD hE hc).seqRight (Simulates.pure _)
  case allowance => exact (allowance_same hc).map _
  case decreaseAllowance => exact (adjustAllowance_same hD hE hc _ _).seqRight (Simulates.pure _)
  case increaseAllowance => exact (adjustAllowance_same hD hE hc _ _).seqRight (Simulates.pure _)
  case transferFrom => exact (transferFrom_same hD hE hc).seqRight (Simulates.pure _)
  case changeSecurity => exact (changeSecurity_same hD hE env).seqRight (Simulates.pure _)
  case burn => exact (burn_same hD hE env).seqRight (Simulates.pure _)
  case mint => exact (mint_same hD hE env).seqRight (Simulates.pure _)

/-! ### Installing -/

omit hD hE in
/-- A contract answers the same calls, and does the same if the entry point does. -/
theorem callContract_same {entryPoint : EntryPoint}
    (h : ∀ env : Env Key, Same K (invoke entryPoint env : HostM Key D CLValue)
      (invoke entryPoint env : HostM Key E CLValue))
    (env : Env Key) (contract : HashAddr) (args : RuntimeArgs Key) :
    Same K (callContract env contract entryPoint args : HostM Key D CLValue)
      (callContract env contract entryPoint args : HostM Key E CLValue) := by
  rintro s _ ⟨dicts, rfl, hdicts⟩
  by_cases ha : ∃ c, s.contracts contract = some c ∧
      entryPoint ∈ c.entryPoints ∧ s.isEnabled c.package contract
  · obtain ⟨c, hc, ha⟩ := ha
    rw [callContract_run hc ha,
      callContract_run (s := s.withDicts dicts) (c := c) (by simpa using hc) ha]
    -- in the context of the contract, the stores agree as well
    have henter : Alike K { s with named := c.namedKeys }
        { s.withDicts dicts with named := c.namedKeys } := ⟨dicts, rfl, hdicts⟩
    refine (h _ _ _ henter).onState ?_
    rintro s' _ ⟨dicts', rfl, hdicts'⟩
    exact ⟨dicts', rfl, hdicts'⟩
  · have hno : ∀ c, s.contracts contract = some c →
        ¬ (entryPoint ∈ c.entryPoints ∧ s.isEnabled c.package contract) :=
      fun c hc hca => ha ⟨c, hc, hca⟩
    rw [callContract_fails hno, callContract_fails (s := s.withDicts dicts) hno]
    exact .error ⟨dicts, rfl, hdicts⟩

theorem installContract_same (env : Env Key) (name : String) :
    Same K (installContract env name : HostM Key D Unit)
      (installContract env name : HostM Key E Unit) := by
  unfold installContract newContract
  refine getNamedArg_bind fun _ _ => getNamedArg_bind fun _ _ => getNamedArg_bind fun _ _ => ?_
  refine (getOptionalNamedArg_same _ _ _).bind fun _ => ?_
  refine (getOptionalNamedArg_same _ _ _).bind fun _ => ?_
  refine (getOptionalNamedArg_same _ _ _).bind fun _ => ?_
  refine (getOptionalNamedArg_same _ _ _).bind fun _ => ?_
  refine (newURef_same _).bind fun _ => (newURef_same _).bind fun _ => ?_
  refine (newURef_same _).bind fun _ => (newURef_same _).bind fun _ => ?_
  refine (newURef_same _).bind fun _ => (newURef_same _).bind fun _ => ?_
  refine Simulates.bind (createContractPackage_same.bind fun r => (putKey_same _ _).bind fun _ =>
    (putKey_same _ _).bind fun _ => addContractVersion_same _ _ _) fun _ => ?_
  refine (getKey_same _).bind fun _ => (unwrapOrRevertWith_same _ _).bind fun _ => ?_
  refine (putKey_same _ _).bind fun _ => (newURef_same _).bind fun _ => ?_
  refine (putKey_same _ _).bind fun _ => ?_
  refine (callContract_same ?_ _ _ _).bind fun _ => Simulates.pure _
  exact fun env => (init_same hD hE env).seqRight (Simulates.pure _)

/-- What one store lets install, the other does, and the two tokens agree. -/
theorem deploy_alike {env : Env Key} {name : String} {before store : Store Key D}
    {before' : Store Key E} (h : Alike K before before')
    (hd : deploy env name before = some store) :
    ∃ store', deploy env name before' = some store' ∧ Alike K store store' := by
  unfold deploy at hd ⊢
  cases hs : (installContract env name : HostM Key D Unit).run before with
  | error e s => rw [hs] at hd; cases hd
  | ok r s =>
    rw [hs] at hd
    obtain ⟨s', hs', dicts, rfl, hdicts⟩ := (installContract_same hD hE env name).ok h hs
    rw [hs']
    unfold Store.enter at hd
    simp only [Option.bind_eq_bind, Option.bind_eq_some_iff] at hd
    obtain ⟨key, hkey, hash, hhash, contract, hcontract, ⟨⟩⟩ := hd
    refine ⟨{ s.withDicts dicts with named := contract.namedKeys }, ?_, dicts, rfl, hdicts⟩
    simp [Store.enter, hkey, hhash, hcontract]

/-- **Runs agree.** -/
theorem run_alike {s : Store Key D} {t : Store Key E} (h : Alike K s t) (calls : List (Call Key))
    (hcalls : ∀ c ∈ calls, c.Within K) : Alike K (run s calls) (run t calls) := by
  induction calls generalizing s t with
  | nil => exact h
  | cons c calls ih =>
    have hc : Alike K (exec s c) (exec t c) :=
      (program_same hD hE (hcalls c List.mem_cons_self)).commit h
    exact ih hc fun c' hc' => hcalls c' (List.mem_cons_of_mem c hc')

end Separate

/-! ### What the stores say -/

theorem asMaps_alike (s : Store Key D) : Alike K s s.asMaps := by
  refine ⟨_, rfl, fun u => ?_⟩
  cases s.dicts u with
  | none => exact .none
  | some d =>
    refine .some fun i _ => ?_
    rw [mapItems_itemOf]

section Alike

variable {s : Store Key D} {t : Store Key E}

theorem Alike.item {T : Type} [CLTyped T] (h : Alike K s t) (name : String) {i : Entry Key}
    (hi : i.Within K) : s.item T name (D.itemOf i) = t.item T name (E.itemOf i) := by
  obtain ⟨dicts, rfl, hdicts⟩ := h
  unfold Store.item Store.uref
  simp only [Store.withDicts_named, Store.withDicts_dicts]
  cases (s.named name).bind intoURef with
  | none => rfl
  | some u =>
    have hu := hdicts u
    simp only [Option.bind_some]
    generalize s.dicts u = d, dicts u = e at hu
    cases hu with
    | none => rfl
    | some hde => simp only [Option.bind_some, hde i hi]

theorem Alike.balance (h : Alike K s t) (k : Key) : s.balance k = t.balance k := by
  have hitem := h.item (T := U256) BALANCES (i := .ofKey k) trivial
  unfold Store.balance
  exact congrArg (Option.getD · 0) hitem

theorem Alike.allowance (h : Alike K s t) {o sp : Key} (ho : o ∈ K) (hsp : sp ∈ K) :
    s.allowance o sp = t.allowance o sp := by
  have hitem := h.item (T := U256) ALLOWANCES (i := .ofPair o sp) ⟨ho, hsp⟩
  unfold Store.allowance
  exact congrArg (Option.getD · 0) hitem

theorem Alike.badge (h : Alike K s t) (k : Key) : s.badge k = t.badge k :=
  h.item (T := SecurityBadge) SECURITY_BADGES (i := .ofKey k) trivial

end Alike

/-! ### Installed tokens -/

/-- **Every installed token has one that cannot be told from it**, on a store that addresses
its items otherwise. -/
theorem Deployment.exists_agrees (hD : D.Separates K) (hE : E.Separates K) (d : Deployment Key D)
    {before : Store Key E} (h : Alike K d.before before) :
    ∃ d' : Deployment Key E, d'.before = before ∧ d.Agrees K d' := by
  obtain ⟨store, hstore, halike⟩ := deploy_alike hD hE h d.deployed
  have hafter : ∀ calls, (∀ c ∈ calls, c.Within K) →
      Alike K (d.after calls) (run store calls) := fun calls hcalls =>
    run_alike hD hE halike calls hcalls
  refine ⟨⟨d.env, d.name, before, store, hstore⟩, rfl, ?_⟩
  exact {
    env := rfl
    name := rfl
    before := h
    answers := fun calls hcalls c hc => (program_same hD hE hc).answer_eq (hafter calls hcalls)
    balance := fun calls hcalls k => (hafter calls hcalls).balance k
    allowance := fun calls hcalls o ho sp hsp => (hafter calls hcalls).allowance ho hsp
    badge := fun calls hcalls k => (hafter calls hcalls).badge k }

/-- A call that succeeds on maps changes entries of the parties to its operation only. -/
theorem touches_of_holds {M : DistinctItemKeys Key} {s : Store Key M.toItemKeys} (h : Holds s)
    {c : Call Key} (hc : c.Succeeds s) : ∃ op, c.op? = some op ∧ op.Touches K s (exec s c) := by
  obtain ⟨l, T, hr, -⟩ := h
  rcases call_cases hr c with ⟨hno, -⟩ | ⟨op, -, hop, -, ht, hr'⟩
  · exact absurd hc hno
  · refine ⟨op, hop, fun k hk => ?_, fun o _ sp _ hos => ?_, fun k hk => ?_⟩
    · exact BitVec.eq_of_toNat_eq (by rw [hr'.balance, hr.balance, ht.balance_eq hk])
    · exact BitVec.eq_of_toNat_eq (by rw [hr'.allowance, hr.allowance, ht.allowance_eq hos])
    · rw [hr'.badge, hr.badge, ht.badge_eq hk]

theorem Deployment.after_snoc (d : Deployment Key D) (calls : List (Call Key)) (c : Call Key) :
    d.after (calls ++ [c]) = exec (d.after calls) c := by
  simp only [Deployment.after, run, List.foldl_append, List.foldl_cons, List.foldl_nil]

/-- What cannot be told from a token on maps changes entries of the parties only as well. -/
theorem Deployment.Agrees.touches {M : DistinctItemKeys Key} {d : Deployment Key D}
    {d' : Deployment Key M.toItemKeys} (h : d.Agrees K d') {calls : List (Call Key)} {c : Call Key}
    (hcalls : ∀ c ∈ calls, c.Within K) (hc : c.Within K) (hs : c.Succeeds (d.after calls)) :
    ∃ op, c.op? = some op ∧ op.Touches K (d.after calls) (exec (d.after calls) c) := by
  -- the step as the last one of a longer run
  have hcalls' : ∀ c' ∈ calls ++ [c], c'.Within K := by
    intro c' hc'
    rcases List.mem_append.1 hc' with hc' | hc'
    · exact hcalls c' hc'
    · rw [List.mem_singleton.1 hc']; exact hc
  have hlast := d.after_snoc calls c
  have hlast' := d'.after_snoc calls c
  have hs' : c.Succeeds (d'.after calls) := by
    obtain ⟨a, ha⟩ := succeeds_iff_answer.1 hs
    exact succeeds_iff_answer.2 ⟨a, (h.answers calls hcalls c hc).symm.trans ha⟩
  obtain ⟨op, hop, ht⟩ := touches_of_holds (K := K) (d'.holds_after calls) hs'
  refine ⟨op, hop, fun k hk => ?_, fun o ho sp hsp hos => ?_, fun k hk => ?_⟩
  · rw [← hlast, h.balance _ hcalls', hlast', h.balance _ hcalls]
    exact ht.balance k hk
  · rw [← hlast, h.allowance _ hcalls' o ho sp hsp, hlast', h.allowance _ hcalls o ho sp hsp]
    exact ht.allowance o ho sp hsp hos
  · rw [← hlast, h.badge _ hcalls', hlast', h.badge _ hcalls]
    exact ht.badge k hk

end Cep18
