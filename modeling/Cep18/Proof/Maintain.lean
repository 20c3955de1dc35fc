import Cep18.Proof.Install

/-!
# What every call maintains

A call writes amounts and badges into dictionaries, the total supply where it is kept, and
events to the log. An invariant that each of these writes maintains is maintained by every
call (`program_maintains`), whatever it is about.
-/

namespace Cep18

open Program Constants

variable {Key : Type} [CasperKey Key] {D : ItemKeys Key}

/-! ### What only reads -/

theorem getUref_keeps {γ : Type} {f : Store Key D → γ} (name : String) :
    Keeps f (getUref name : HostM Key D URef) := by
  unfold getUref
  exact (getKey_keeps _).bind fun _ => (unwrapOrRevertWith_keeps _ _).bind fun _ =>
    unwrapOrRevertWith_keeps _ _

theorem dictionaryGet_keeps {γ : Type} {f : Store Key D → γ} {V : Type} [CLTyped V] (u : URef)
    (i : D.Item) : Keeps f (dictionaryGet u i : HostM Key D (Option V)) := by
  intro s v s' h
  unfold dictionaryGet EStateM.run at h
  beta_reduce at h
  split at h
  · cases h
  · split at h
    · cases h; rfl
    · split at h
      · cases h; rfl
      · cases h

theorem secCheck_keeps {γ : Type} {f : Store Key D → γ} (env : Env Key)
    (allowed : List SecurityBadge) : Keeps f (secCheck env allowed : HostM Key D Unit) := by
  unfold secCheck
  refine (unwrapOrRevert_keeps _).bind fun _ => (getUref_keeps _).bind fun _ => ?_
  refine (dictionaryGet_keeps _ _).bind fun _ => (unwrapOrRevertWith_keeps _ _).bind fun _ => ?_
  exact (Keeps.pure _ _).ite (Keeps.throw _ _)

theorem readBalanceFrom_keeps {γ : Type} {f : Store Key D → γ} (u : URef) (k : Key) :
    Keeps f (readBalanceFrom u k : HostM Key D U256) := by
  unfold readBalanceFrom
  exact (dictionaryGet_keeps _ _).bind fun _ => Keeps.pure _ _

theorem readAllowanceFrom_keeps {γ : Type} {f : Store Key D → γ} (u : URef) (o sp : Key) :
    Keeps f (readAllowanceFrom u o sp : HostM Key D U256) := by
  unfold readAllowanceFrom
  exact (dictionaryGet_keeps _ _).bind fun _ => Keeps.pure _ _

/-! ### What writes -/

/-- **Each write of a call maintains `I`**, and where `I` holds the token is initialised. -/
structure CallInvariant (I : Store Key D → Prop) : Prop where
  initialised : ∀ s, I s → (s.named ALLOWANCES).isSome
  putAmount : ∀ u (i : D.Item) (v : U256), Maintains I (dictionaryPut u i v : HostM Key D Unit)
  putBadge : ∀ s u s', I s → (getUref SECURITY_BADGES : HostM Key D URef).run s = .ok u s' →
    ∀ i (badge : SecurityBadge), Maintains I (dictionaryPut u i badge : HostM Key D Unit)
  writeSupply : ∀ s u s', I s → (getUref TOTAL_SUPPLY : HostM Key D URef).run s = .ok u s' →
    ∀ v : U256, Maintains I (write u v : HostM Key D Unit)
  record : ∀ event, Maintains I (recordEventDictionary event : HostM Key D Unit)

variable {I : Store Key D → Prop} (hI : CallInvariant I)
include hI

theorem transferBalance_maintains (sender recipient : Key) (amount : U256) :
    Maintains I (transferBalance sender recipient amount : HostM Key D Unit) := by
  unfold transferBalance
  refine (Maintains.pure _).ite ?_
  refine (Maintains.of_reads (getUref_keeps _)).bind fun _ => ?_
  refine (Maintains.of_reads (readBalanceFrom_keeps _ _)).bind fun _ => ?_
  refine (Maintains.of_reads (unwrapOrRevertWith_keeps _ _)).bind fun _ => ?_
  refine (Maintains.of_reads (readBalanceFrom_keeps _ _)).bind fun _ => ?_
  refine (Maintains.of_reads (unwrapOrRevertWith_keeps _ _)).bind fun _ => ?_
  exact (hI.putAmount _ _ _).bind fun _ => hI.putAmount _ _ _

theorem changeSecBadge_maintains (badgeMap : BTreeMap Key SecurityBadge) :
    Maintains I (changeSecBadge badgeMap : HostM Key D Unit) := by
  unfold changeSecBadge
  refine (Maintains.of_reads (getUref_keeps _)).bind_of hI.putBadge fun u hu => ?_
  exact Maintains.forM (fun p => hu _ _) _

/-- `init` does not run where there are allowances. -/
theorem init_maintains (env : Env Key) : Maintains I (init env : HostM Key D Unit) := by
  intro s r s' hs h
  unfold init at h
  obtain ⟨k, s₀, h₀, h⟩ := bind_eq_ok.1 h
  obtain ⟨hk, rfl⟩ := getKey_ok h₀
  rw [← hk, if_pos (hI.initialised _ hs)] at h
  cases h

theorem adjustAllowance_maintains (env : Env Key) (adjust : U256 → U256 → U256)
    (event : Key → Key → U256 → U256 → Event Key) :
    Maintains I (adjustAllowance env adjust event : HostM Key D Unit) := by
  unfold adjustAllowance
  refine (Maintains.of_reads (unwrapOrRevert_keeps _)).bind fun _ => ?_
  refine (Maintains.of_reads (getNamedArg_keeps _ _)).bind fun _ => (Maintains.throw _).ite ?_
  refine (Maintains.of_reads (getNamedArg_keeps _ _)).bind fun _ => ?_
  refine (Maintains.of_reads (getUref_keeps _)).bind fun _ => ?_
  refine (Maintains.of_reads (readAllowanceFrom_keeps _ _ _)).bind fun _ => ?_
  exact (hI.putAmount _ _ _).bind fun _ => hI.record _

theorem approve_maintains (env : Env Key) : Maintains I (approve env : HostM Key D Unit) := by
  unfold approve
  refine (Maintains.of_reads (unwrapOrRevert_keeps _)).bind fun _ => ?_
  refine (Maintains.of_reads (getNamedArg_keeps _ _)).bind fun _ => (Maintains.throw _).ite ?_
  refine (Maintains.of_reads (getNamedArg_keeps _ _)).bind fun _ => ?_
  refine (Maintains.of_reads (getUref_keeps _)).bind fun _ => ?_
  exact (hI.putAmount _ _ _).bind fun _ => hI.record _

theorem transfer_maintains (env : Env Key) : Maintains I (transfer env : HostM Key D Unit) := by
  unfold transfer
  refine (Maintains.of_reads (unwrapOrRevert_keeps _)).bind fun _ => ?_
  refine (Maintains.of_reads (getNamedArg_keeps _ _)).bind fun _ => (Maintains.throw _).ite ?_
  refine (Maintains.of_reads (getNamedArg_keeps _ _)).bind fun _ => ?_
  exact (transferBalance_maintains hI _ _ _).bind fun _ => hI.record _

theorem transferFrom_maintains (env : Env Key) : Maintains I (transferFrom env : HostM Key D Unit) := by
  unfold transferFrom
  refine (Maintains.of_reads (unwrapOrRevert_keeps _)).bind fun _ => ?_
  refine (Maintains.of_reads (getNamedArg_keeps _ _)).bind fun _ => ?_
  refine (Maintains.of_reads (getNamedArg_keeps _ _)).bind fun _ => (Maintains.throw _).ite ?_
  refine (Maintains.of_reads (getNamedArg_keeps _ _)).bind fun _ => (Maintains.pure _).ite ?_
  refine (Maintains.of_reads (getUref_keeps _)).bind fun _ => ?_
  refine (Maintains.of_reads (readAllowanceFrom_keeps _ _ _)).bind fun _ => ?_
  refine (Maintains.of_reads (unwrapOrRevertWith_keeps _ _)).bind fun _ => ?_
  refine (transferBalance_maintains hI _ _ _).bind fun _ => ?_
  exact (hI.putAmount _ _ _).bind fun _ => hI.record _

/-- The half that `mint` and `burn` share: a balance and the supply are read, then both are
written. -/
theorem adjustSupply_maintains (owner : Key) (e e' : ApiError) (f f' : U256 → Option U256)
    (event : Event Key) :
    Maintains I (do
      let balancesUref ← getBalancesUref
      let totalSupplyUref ← getTotalSupplyUref
      let balance ← readBalanceFrom balancesUref owner
      let newBalance ← unwrapOrRevertWith e (f balance)
      let supply ← readTotalSupplyFrom totalSupplyUref
      let newTotalSupply ← unwrapOrRevertWith e' (f' supply)
      writeBalanceTo balancesUref owner newBalance
      writeTotalSupplyTo totalSupplyUref newTotalSupply
      recordEventDictionary event : HostM Key D Unit) := by
  refine (Maintains.of_reads (getUref_keeps _)).bind fun _ => ?_
  refine (Maintains.of_reads (getUref_keeps _)).bind_of hI.writeSupply fun u hu => ?_
  refine (Maintains.of_reads (readBalanceFrom_keeps _ _)).bind fun _ => ?_
  refine (Maintains.of_reads (unwrapOrRevertWith_keeps _ _)).bind fun _ => ?_
  refine (Maintains.of_reads ((read_keeps _).bind fun _ => unwrapOrRevertWith_keeps _ _)).bind
    fun _ => ?_
  refine (Maintains.of_reads (unwrapOrRevertWith_keeps _ _)).bind fun _ => ?_
  refine (hI.putAmount _ _ _).bind fun _ => ?_
  exact (hu _).bind fun _ => hI.record _

theorem mint_maintains (env : Env Key) : Maintains I (mint env : HostM Key D Unit) := by
  unfold mint
  refine (Maintains.of_reads (readFrom_keeps _)).bind fun _ => (Maintains.throw _).ite ?_
  refine (Maintains.of_reads (secCheck_keeps _ _)).bind fun _ => ?_
  refine (Maintains.of_reads (getNamedArg_keeps _ _)).bind fun owner => ?_
  refine (Maintains.of_reads (getNamedArg_keeps _ _)).bind fun amount => ?_
  exact adjustSupply_maintains hI _ _ _ _ _ _

theorem burn_maintains (env : Env Key) : Maintains I (burn env : HostM Key D Unit) := by
  unfold burn
  refine (Maintains.of_reads (readFrom_keeps _)).bind fun _ => (Maintains.throw _).ite ?_
  refine (Maintains.of_reads (getNamedArg_keeps _ _)).bind fun owner => ?_
  refine (Maintains.of_reads (unwrapOrRevert_keeps _)).bind fun _ => (Maintains.throw _).ite ?_
  refine (Maintains.of_reads (getNamedArg_keeps _ _)).bind fun amount => ?_
  exact adjustSupply_maintains hI _ _ _ _ _ _

theorem changeSecurity_maintains (env : Env Key) : Maintains I (changeSecurity env : HostM Key D Unit) := by
  unfold changeSecurity
  refine (Maintains.of_reads (readFrom_keeps _)).bind fun _ => (Maintains.throw _).ite ?_
  refine (Maintains.of_reads (secCheck_keeps _ _)).bind fun _ => ?_
  refine (Maintains.of_reads (getOptionalNamedArg_keeps _ _ (by decide))).bind fun _ => ?_
  refine (Maintains.of_reads (getOptionalNamedArg_keeps _ _ (by decide))).bind fun _ => ?_
  refine (Maintains.of_reads (getOptionalNamedArg_keeps _ _ (by decide))).bind fun _ => ?_
  refine (Maintains.of_reads (unwrapOrRevert_keeps _)).bind fun _ => ?_
  refine (changeSecBadge_maintains hI _).bind fun _ => ?_
  exact (Maintains.of_reads (unwrapOrRevert_keeps _)).bind fun _ => hI.record _

/-- **Every call maintains the invariant**, if each of its writes does. -/
theorem program_maintains (c : Call Key) :
    Maintains I (c.program : HostM Key D CLValue) := by
  obtain ⟨entryPoint, env⟩ := c
  unfold Call.program invoke
  have hread : ∀ {V : Type} [CLTyped V] (name : String),
      Maintains I (readFrom name : HostM Key D V) := fun name =>
    Maintains.of_reads (readFrom_keeps name)
  cases entryPoint
  case init => exact (init_maintains hI env).seqRight (Maintains.pure _)
  case name => exact (hread (V := String) NAME).map _
  case symbol => exact (hread (V := String) SYMBOL).map _
  case decimals => exact (hread (V := UInt8) DECIMALS).map _
  case totalSupply => exact (hread (V := U256) TOTAL_SUPPLY).map _
  case balanceOf =>
    refine Maintains.map (Maintains.of_reads ?_) _
    exact (getNamedArg_keeps _ _).bind fun _ => (getUref_keeps _).bind fun _ =>
      readBalanceFrom_keeps _ _
  case allowance =>
    refine Maintains.map (Maintains.of_reads ?_) _
    exact (getNamedArg_keeps _ _).bind fun _ => (getNamedArg_keeps _ _).bind fun _ =>
      (getUref_keeps _).bind fun _ => readAllowanceFrom_keeps _ _ _
  case transfer => exact (transfer_maintains hI env).seqRight (Maintains.pure _)
  case approve => exact (approve_maintains hI env).seqRight (Maintains.pure _)
  case decreaseAllowance => exact (adjustAllowance_maintains hI env _ _).seqRight (Maintains.pure _)
  case increaseAllowance => exact (adjustAllowance_maintains hI env _ _).seqRight (Maintains.pure _)
  case transferFrom => exact (transferFrom_maintains hI env).seqRight (Maintains.pure _)
  case changeSecurity => exact (changeSecurity_maintains hI env).seqRight (Maintains.pure _)
  case burn => exact (burn_maintains hI env).seqRight (Maintains.pure _)
  case mint => exact (mint_maintains hI env).seqRight (Maintains.pure _)

end Cep18
