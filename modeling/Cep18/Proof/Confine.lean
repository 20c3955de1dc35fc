import Cep18.Proof.Calls
import Cep18.Proof.Maintain
import Cep18.Spec.World

/-!
# Where a token writes

A call writes nothing but what is kept at the URefs that the named keys of its own contract
lead to (`exec_confined`), and everything it reads of the token is there as well
(`Rep.frame`). So what happens at other URefs neither disturbs a token nor is disturbed by it.
-/

namespace Cep18

open Program Constants

variable {Key : Type} [CasperKey Key]

/-! ### Relations between stores -/

section Relations

variable {D : ItemKeys Key} {U : URef → Prop} {start s s' : Store Key D}

theorem Store.SameAt.refl (u : URef) (s : Store Key D) : s.SameAt u s := ⟨rfl, rfl, rfl⟩

theorem Store.SameAt.trans {u : URef} {s'' : Store Key D} (h : s.SameAt u s')
    (h' : s'.SameAt u s'') : s.SameAt u s'' :=
  ⟨h'.values.trans h.values, h'.dicts.trans h.dicts, h'.logs.trans h.logs⟩

theorem Store.SameAt.inUse {u : URef} (h : s.SameAt u s') : s'.inUse u = s.inUse u := by
  unfold Store.inUse
  rw [h.values, h.dicts, h.logs]

theorem Store.Confined.refl (U : URef → Prop) (s : Store Key D) : s.Confined U s :=
  ⟨rfl, rfl, rfl, fun u _ => .refl u s, fun _ h => h⟩

theorem Store.Extends.sameAt (h : s.Extends s') {u : URef} (hu : s.inUse u = true) :
    s.SameAt u s' :=
  ⟨(h u hu).1, (h u hu).2.1, (h u hu).2.2⟩

/-- The URef of a named key of the token is one it uses. -/
theorem uses_of_getUref {t t' : Store Key D} {name : String} {u : URef} (hn : name ∈ tokenNames)
    (ht : t.named = start.named) (h : (getUref name : HostM Key D URef).run t = .ok u t') :
    start.named.Uses u := by
  unfold getUref at h
  obtain ⟨o, s₀, h₀, h⟩ := bind_eq_ok.1 h
  obtain ⟨hk, rfl⟩ := getKey_ok h₀
  obtain ⟨k, s₀, h₀, h⟩ := bind_eq_ok.1 h
  obtain ⟨rfl, rfl⟩ := unwrapOrRevertWith_ok h₀
  obtain ⟨hu, rfl⟩ := unwrapOrRevertWith_ok h
  refine ⟨name, hn, ?_⟩
  rw [← ht, hk, Option.bind_some, hu]

/-- What is looked up under a named key of the token leads to what it uses. -/
theorem getUref_bind {α : Type} {name : String} (hn : name ∈ tokenNames)
    {f : URef → HostM Key D α}
    (hf : ∀ u, start.named.Uses u → Maintains (start.Confined start.named.Uses) (f u)) :
    Maintains (start.Confined start.named.Uses) (getUref name >>= f) :=
  (Maintains.of_reads (getUref_keeps name)).bind_of
    (fun _ _ _ hs hu => uses_of_getUref hn hs.named hu) hf

/-! ### Writes -/

theorem dictionaryPut_confined {V : Type} [CLTyped V] {u : URef} (hu : U u) (i : D.Item) (v : V) :
    Maintains (start.Confined U) (dictionaryPut u i v : HostM Key D Unit) := by
  intro s r s' hs h
  obtain ⟨d, hd, rfl⟩ := dictionaryPut_ok h
  refine ⟨hs.named, hs.contracts, hs.packages, fun w hw => (hs.same w hw).trans ?_, fun w hw => ?_⟩
  · exact ⟨rfl, Function.update_of_ne (fun he : w = u => hw (he ▸ hu)) _ _, rfl⟩
  · have hin := hs.inUse w hw
    unfold Store.inUse at hin ⊢
    -- the dictionary changed is there before and after
    by_cases hwu : w = u
    · subst hwu; simp
    · simp only [Function.update_of_ne hwu]; exact hin

theorem write_confined {V : Type} [CLTyped V] {u : URef} (hu : U u) (v : V) :
    Maintains (start.Confined U) (write u v : HostM Key D Unit) := by
  intro s r s' hs h
  cases h
  refine ⟨hs.named, hs.contracts, hs.packages, fun w hw => (hs.same w hw).trans ?_, fun w hw => ?_⟩
  · exact ⟨Function.update_of_ne (fun he : w = u => hw (he ▸ hu)) _ _, rfl, rfl⟩
  · have hin := hs.inUse w hw
    unfold Store.inUse at hin ⊢
    by_cases hwu : w = u
    · subst hwu; simp
    · simp only [Function.update_of_ne hwu]; exact hin

/-- The event log is one of the things a token uses. -/
theorem emit_confined (event : Event Key) :
    Maintains (start.Confined start.named.Uses) (emit event : HostM Key D Unit) := by
  intro s r s' hs h
  unfold emit EStateM.run at h
  beta_reduce at h
  split at h
  · cases h
  · rename_i u hu
    split at h
    · cases h
    · cases h
      have huses : start.named.Uses u := ⟨EVENTS_DICT, by decide, by rw [← hs.named]; exact hu⟩
      refine ⟨hs.named, hs.contracts, hs.packages, fun w hw => (hs.same w hw).trans ?_,
        fun w hw => ?_⟩
      · exact ⟨rfl, rfl, Function.update_of_ne (fun he : w = u => hw (he ▸ huses)) _ _⟩
      · have hin := hs.inUse w hw
        unfold Store.inUse at hin ⊢
        by_cases hwu : w = u
        · subst hwu; simp
        · simp only [Function.update_of_ne hwu]; exact hin

end Relations

/-! ### Calls -/

section Calls

variable {D : ItemKeys Key} {start : Store Key D}

/-- The reads of a call. -/
theorem confined_of_reads {α : Type} {x : HostM Key D α} (h : Keeps id x) :
    Maintains (start.Confined start.named.Uses) x := .of_reads h

theorem record_confined (event : Event Key) :
    Maintains (start.Confined start.named.Uses) (recordEventDictionary event : HostM Key D Unit) := by
  unfold recordEventDictionary
  refine (confined_of_reads (readFrom_keeps _)).bind fun _ => ?_
  refine (confined_of_reads (unwrapOrRevert_keeps _)).bind fun mode => ?_
  cases mode with
  | NoEvents => exact Maintains.pure _
  | CES => exact emit_confined event

theorem transferBalance_confined (sender recipient : Key) (amount : U256) :
    Maintains (start.Confined start.named.Uses)
      (transferBalance sender recipient amount : HostM Key D Unit) := by
  unfold transferBalance
  refine (Maintains.pure _).ite (getUref_bind (by decide) fun u hu => ?_)
  refine (confined_of_reads (readBalanceFrom_keeps _ _)).bind fun _ => ?_
  refine (confined_of_reads (unwrapOrRevertWith_keeps _ _)).bind fun _ => ?_
  refine (confined_of_reads (readBalanceFrom_keeps _ _)).bind fun _ => ?_
  refine (confined_of_reads (unwrapOrRevertWith_keeps _ _)).bind fun _ => ?_
  exact (dictionaryPut_confined hu _ _).bind fun _ => dictionaryPut_confined hu _ _

theorem changeSecBadge_confined (badgeMap : BTreeMap Key SecurityBadge) :
    Maintains (start.Confined start.named.Uses) (changeSecBadge badgeMap : HostM Key D Unit) := by
  unfold changeSecBadge
  exact getUref_bind (by decide) fun u hu =>
    Maintains.forM (fun _ => dictionaryPut_confined hu _ _) _

theorem adjustAllowance_confined (env : Env Key) (adjust : U256 → U256 → U256)
    (event : Key → Key → U256 → U256 → Event Key) :
    Maintains (start.Confined start.named.Uses)
      (adjustAllowance env adjust event : HostM Key D Unit) := by
  unfold adjustAllowance
  refine (confined_of_reads (unwrapOrRevert_keeps _)).bind fun _ => ?_
  refine (confined_of_reads (getNamedArg_keeps _ _)).bind fun _ => (Maintains.throw _).ite ?_
  refine (confined_of_reads (getNamedArg_keeps _ _)).bind fun _ => ?_
  refine getUref_bind (by decide) fun u hu => ?_
  refine (confined_of_reads (readAllowanceFrom_keeps _ _ _)).bind fun _ => ?_
  exact (dictionaryPut_confined hu _ _).bind fun _ => record_confined _

theorem approve_confined (env : Env Key) :
    Maintains (start.Confined start.named.Uses) (approve env : HostM Key D Unit) := by
  unfold approve
  refine (confined_of_reads (unwrapOrRevert_keeps _)).bind fun _ => ?_
  refine (confined_of_reads (getNamedArg_keeps _ _)).bind fun _ => (Maintains.throw _).ite ?_
  refine (confined_of_reads (getNamedArg_keeps _ _)).bind fun _ => ?_
  refine getUref_bind (by decide) fun u hu => ?_
  exact (dictionaryPut_confined hu _ _).bind fun _ => record_confined _

theorem transfer_confined (env : Env Key) :
    Maintains (start.Confined start.named.Uses) (transfer env : HostM Key D Unit) := by
  unfold transfer
  refine (confined_of_reads (unwrapOrRevert_keeps _)).bind fun _ => ?_
  refine (confined_of_reads (getNamedArg_keeps _ _)).bind fun _ => (Maintains.throw _).ite ?_
  refine (confined_of_reads (getNamedArg_keeps _ _)).bind fun _ => ?_
  exact (transferBalance_confined _ _ _).bind fun _ => record_confined _

theorem transferFrom_confined (env : Env Key) :
    Maintains (start.Confined start.named.Uses) (transferFrom env : HostM Key D Unit) := by
  unfold transferFrom
  refine (confined_of_reads (unwrapOrRevert_keeps _)).bind fun _ => ?_
  refine (confined_of_reads (getNamedArg_keeps _ _)).bind fun _ => ?_
  refine (confined_of_reads (getNamedArg_keeps _ _)).bind fun _ => (Maintains.throw _).ite ?_
  refine (confined_of_reads (getNamedArg_keeps _ _)).bind fun _ => (Maintains.pure _).ite ?_
  refine getUref_bind (by decide) fun u hu => ?_
  refine (confined_of_reads (readAllowanceFrom_keeps _ _ _)).bind fun _ => ?_
  refine (confined_of_reads (unwrapOrRevertWith_keeps _ _)).bind fun _ => ?_
  refine (transferBalance_confined _ _ _).bind fun _ => ?_
  exact (dictionaryPut_confined hu _ _).bind fun _ => record_confined _

/-- The half that `mint` and `burn` share. -/
theorem adjustSupply_confined (owner : Key) (e e' : ApiError) (f f' : U256 → Option U256)
    (event : Event Key) :
    Maintains (start.Confined start.named.Uses) (do
      let balancesUref ← getBalancesUref
      let totalSupplyUref ← getTotalSupplyUref
      let balance ← readBalanceFrom balancesUref owner
      let newBalance ← unwrapOrRevertWith e (f balance)
      let supply ← readTotalSupplyFrom totalSupplyUref
      let newTotalSupply ← unwrapOrRevertWith e' (f' supply)
      writeBalanceTo balancesUref owner newBalance
      writeTotalSupplyTo totalSupplyUref newTotalSupply
      recordEventDictionary event : HostM Key D Unit) := by
  refine getUref_bind (by decide) fun u hu => getUref_bind (by decide) fun w hw => ?_
  refine (confined_of_reads (readBalanceFrom_keeps _ _)).bind fun _ => ?_
  refine (confined_of_reads (unwrapOrRevertWith_keeps _ _)).bind fun _ => ?_
  refine (confined_of_reads ((read_keeps _).bind fun _ => unwrapOrRevertWith_keeps _ _)).bind
    fun _ => ?_
  refine (confined_of_reads (unwrapOrRevertWith_keeps _ _)).bind fun _ => ?_
  refine (dictionaryPut_confined hu _ _).bind fun _ => ?_
  exact (write_confined hw _).bind fun _ => record_confined _

theorem mint_confined (env : Env Key) :
    Maintains (start.Confined start.named.Uses) (mint env : HostM Key D Unit) := by
  unfold mint
  refine (confined_of_reads (readFrom_keeps _)).bind fun _ => (Maintains.throw _).ite ?_
  refine (confined_of_reads (secCheck_keeps _ _)).bind fun _ => ?_
  refine (confined_of_reads (getNamedArg_keeps _ _)).bind fun _ => ?_
  refine (confined_of_reads (getNamedArg_keeps _ _)).bind fun _ => ?_
  exact adjustSupply_confined _ _ _ _ _ _

theorem burn_confined (env : Env Key) :
    Maintains (start.Confined start.named.Uses) (burn env : HostM Key D Unit) := by
  unfold burn
  refine (confined_of_reads (readFrom_keeps _)).bind fun _ => (Maintains.throw _).ite ?_
  refine (confined_of_reads (getNamedArg_keeps _ _)).bind fun _ => ?_
  refine (confined_of_reads (unwrapOrRevert_keeps _)).bind fun _ => (Maintains.throw _).ite ?_
  refine (confined_of_reads (getNamedArg_keeps _ _)).bind fun _ => ?_
  exact adjustSupply_confined _ _ _ _ _ _

theorem changeSecurity_confined (env : Env Key) :
    Maintains (start.Confined start.named.Uses) (changeSecurity env : HostM Key D Unit) := by
  unfold changeSecurity
  refine (confined_of_reads (readFrom_keeps _)).bind fun _ => (Maintains.throw _).ite ?_
  refine (confined_of_reads (secCheck_keeps _ _)).bind fun _ => ?_
  refine (confined_of_reads (getOptionalNamedArg_keeps _ _ (by decide))).bind fun _ => ?_
  refine (confined_of_reads (getOptionalNamedArg_keeps _ _ (by decide))).bind fun _ => ?_
  refine (confined_of_reads (getOptionalNamedArg_keeps _ _ (by decide))).bind fun _ => ?_
  refine (confined_of_reads (unwrapOrRevert_keeps _)).bind fun _ => ?_
  refine (changeSecBadge_confined _).bind fun _ => ?_
  exact (confined_of_reads (unwrapOrRevert_keeps _)).bind fun _ => record_confined _

/-- `init` does not get past its first check. -/
theorem init_confined (h : (start.named ALLOWANCES).isSome) (env : Env Key) :
    Maintains (start.Confined start.named.Uses) (init env : HostM Key D Unit) := by
  intro s r s' hs hrun
  unfold init at hrun
  obtain ⟨k, s₀, h₀, hrun⟩ := bind_eq_ok.1 hrun
  obtain ⟨hk, rfl⟩ := getKey_ok h₀
  rw [← hk, hs.named, if_pos h] at hrun
  cases hrun

/-- **A query writes nothing.** -/
theorem query_keeps {c : Call Key} (h : c.Describes .query) :
    Keeps id (c.program : HostM Key D CLValue) := by
  have hmap : ∀ {V : Type} {x : HostM Key D V} {f : V → CLValue},
      Keeps id x → Keeps id (f <$> x) := by
    intro V x f hx
    rw [map_eq_pure_bind]
    exact hx.bind fun _ => Keeps.pure _ _
  obtain ⟨entryPoint, env⟩ := c
  unfold Call.program invoke
  cases entryPoint
  case name => exact hmap (readFrom_keeps NAME)
  case symbol => exact hmap (readFrom_keeps SYMBOL)
  case decimals => exact hmap (readFrom_keeps DECIMALS)
  case totalSupply => exact hmap (readFrom_keeps TOTAL_SUPPLY)
  case balanceOf =>
    exact hmap ((getNamedArg_keeps _ _).bind fun _ => (getUref_keeps _).bind fun _ =>
      readBalanceFrom_keeps _ _)
  case allowance =>
    exact hmap ((getNamedArg_keeps _ _).bind fun _ => (getNamedArg_keeps _ _).bind fun _ =>
      (getUref_keeps _).bind fun _ => readAllowanceFrom_keeps _ _ _)
  all_goals simp [Call.Describes] at h

/-- **A call of an initialised token writes only what the token uses.** -/
theorem program_confined (h : (start.named ALLOWANCES).isSome) (c : Call Key) :
    Maintains (start.Confined start.named.Uses) (c.program : HostM Key D CLValue) := by
  by_cases hq : c.Describes .query
  · exact confined_of_reads (query_keeps hq)
  obtain ⟨entryPoint, env⟩ := c
  unfold Call.program invoke
  cases entryPoint
  case init => exact (init_confined h env).seqRight (Maintains.pure _)
  case transfer => exact (transfer_confined env).seqRight (Maintains.pure _)
  case approve => exact (approve_confined env).seqRight (Maintains.pure _)
  case decreaseAllowance => exact (adjustAllowance_confined env _ _).seqRight (Maintains.pure _)
  case increaseAllowance => exact (adjustAllowance_confined env _ _).seqRight (Maintains.pure _)
  case transferFrom => exact (transferFrom_confined env).seqRight (Maintains.pure _)
  case changeSecurity => exact (changeSecurity_confined env).seqRight (Maintains.pure _)
  case burn => exact (burn_confined env).seqRight (Maintains.pure _)
  case mint => exact (mint_confined env).seqRight (Maintains.pure _)
  all_goals exact absurd (by simp [Call.Describes]) hq

theorem exec_confined (h : (start.named ALLOWANCES).isSome) (c : Call Key) :
    start.Confined start.named.Uses (exec start c) :=
  (program_confined h c).commit (.refl _ start)

end Calls

/-! ### What a token is made of -/

section Frame

variable {D : DistinctItemKeys Key} {s s' : Store Key D.toItemKeys} {l : Layout} {T : Token Key}

/-- The value under a named key of a token is among what it uses. -/
theorem Store.Cell.frame {V : Type} [CLTyped V] {name : String} {u : URef} {v : V}
    (h : s.Cell name u v) (hn : name ∈ tokenNames) (hnamed : s'.named = s.named)
    (hs : ∀ u, s.named.Uses u → s.SameAt u s') : s'.Cell name u v := by
  have huses : s.named.Uses u := ⟨name, hn, by rw [h.named]; simp⟩
  exact ⟨by rw [hnamed]; exact h.named, (hs u huses).values.trans h.value⟩

theorem Store.Dict.frame {name : String} {u : URef} {d : D.Item → Option CLValue}
    (h : s.Dict name u d) (hn : name ∈ tokenNames) (hnamed : s'.named = s.named)
    (hs : ∀ u, s.named.Uses u → s.SameAt u s') : s'.Dict name u d := by
  have huses : s.named.Uses u := ⟨name, hn, by rw [h.named]; simp⟩
  exact ⟨by rw [hnamed]; exact h.named, (hs u huses).dicts.trans h.items⟩

/-- **A token is in a store by what the store has at the URefs the token uses.** -/
theorem Rep.frame (h : Rep l T s) (hnamed : s'.named = s.named)
    (hs : ∀ u, s.named.Uses u → s.SameAt u s') : Rep l T s' := by
  obtain ⟨m, hm, hmode⟩ := h.cells.eventsMode
  obtain ⟨n, hsupply, hn⟩ := h.cells.totalSupply
  obtain ⟨b, hb, hb'⟩ := h.tables.balances
  obtain ⟨a, ha, ha'⟩ := h.tables.allowances
  obtain ⟨g, hg, hg'⟩ := h.tables.badges
  refine ⟨⟨h.cells.name.frame (by decide) hnamed hs, h.cells.symbol.frame (by decide) hnamed hs,
      h.cells.decimals.frame (by decide) hnamed hs,
      h.cells.enableMintBurn.frame (by decide) hnamed hs,
      ⟨m, hm.frame (by decide) hnamed hs, hmode⟩, ⟨n, hsupply.frame (by decide) hnamed hs, hn⟩,
      h.cells.apart⟩,
    ⟨⟨b, hb.frame (by decide) hnamed hs, hb'⟩, ⟨a, ha.frame (by decide) hnamed hs, ha'⟩,
      ⟨g, hg.frame (by decide) hnamed hs, hg'⟩, h.tables.apart⟩, ⟨fun hc => ?_, h.logs.none⟩⟩
  obtain ⟨hk, hl⟩ := h.logs.kept hc
  have huses : s.named.Uses l.events := ⟨EVENTS_DICT, by decide, by rw [hk]; simp⟩
  exact ⟨by rw [hnamed]; exact hk, (hs _ huses).logs.trans hl⟩

/-- A store that holds a token is initialised. -/
theorem Rep.initialised (h : Rep l T s) : (s.named ALLOWANCES).isSome := by
  obtain ⟨a, ha, -⟩ := h.tables.allowances
  rw [ha.named]; rfl

end Frame

end Cep18
