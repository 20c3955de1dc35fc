import Cep18.Model.Reference
import Cep18.Proof.Progress
import Cep18.Spec.Step

/-!
# Which modalities are let in

`events_mode` is checked by `init`, through the events it sets up. `enable_mint_burn` is
checked nowhere: no code calls `MintBurn::try_from`. So an installation is `Guarded` if and
only if its arguments do not come down to a byte that `MintBurn` has no meaning for
(`guarded_iff`).
-/

namespace Cep18

open Program Constants

variable {Key : Type} [CasperKey Key]

/-! ### Bytes and modes -/

/-- A mode has one byte. -/
theorem EventsMode.tryFrom_inj {m m' : UInt8} {mode : EventsMode} (h : tryFrom m = .ok mode)
    (h' : tryFrom m' = .ok mode) : m = m' := by
  have hbyte : ∀ {b}, tryFrom b = .ok mode → b = if mode = .CES then 1 else 0 := by
    intro b hb
    unfold tryFrom at hb
    split_ifs at hb with h0 h1
    · cases hb; exact h0
    · cases hb; exact h1
  rw [hbyte h, hbyte h']

/-- Bytes are rejected with the error that names the argument. -/
theorem EventsMode.tryFrom_error {m : UInt8} {e : Cep18Error} (h : tryFrom m = .error e) :
    e = .InvalidEventsMode := by
  unfold tryFrom at h
  split_ifs at h
  cases h; rfl

/-- No operation changes a modality. -/
theorem Token.exec_modalities (T : Token Key) (o : Option (Op Key)) :
    (T.exec o).eventsMode = T.eventsMode ∧ (T.exec o).enableMintBurn = T.enableMintBurn := by
  rcases T.exec_cases o with ⟨he, -⟩ | ⟨op, -, -, ht⟩
  · rw [he]; exact ⟨rfl, rfl⟩
  · exact ⟨ht.eventsMode, ht.enableMintBurn⟩

section Config

variable {env : Env Key} {name : String} {c : Config Key}

omit [CasperKey Key] in
theorem Env.modality_of_optArg? {arg : String} {byte : Option UInt8}
    (h : env.optArg? UInt8 arg = some byte) : env.modality arg = byte.getD 0 := by
  unfold Env.modality
  rw [Env.arg?_of_optArg? h]

/-- What an installation is given has a mode that `EventsMode` accepts. -/
theorem Env.eventsMode_of_config? (h : env.config? name = some c) :
    EventsMode.tryFrom (env.modality EVENTS_MODE) = .ok c.eventsMode := by
  obtain ⟨m, hm, hmode⟩ := (Env.gives_of_config? h).eventsMode
  rw [Env.modality_of_optArg? hm]; exact hmode

theorem Env.enableMintBurn_of_config? (h : env.config? name = some c) :
    env.modality ENABLE_MINT_BURN = c.enableMintBurn := by
  obtain ⟨flag, hflag, hf⟩ := (Env.gives_of_config? h).enableMintBurn
  rw [Env.modality_of_optArg? hflag]; exact hf.symm

theorem Env.inside_of_config? (h : env.config? name = some c) :
    ¬ env.Outside EVENTS_MODE EventsMode.tryFrom := by
  obtain ⟨m, hm, hmode⟩ := (Env.gives_of_config? h).eventsMode
  exact fun hout => hout m hm _ hmode

/-- A flag that `MintBurn` accepts is inside its range. -/
theorem Env.flag_inside_of_config? (h : env.config? name = some c) {mode : MintBurn}
    (hmode : MintBurn.tryFrom c.enableMintBurn = .ok mode) :
    ¬ env.Outside ENABLE_MINT_BURN MintBurn.tryFrom := by
  obtain ⟨flag, hflag, hf⟩ := (Env.gives_of_config? h).enableMintBurn
  rw [hf] at hmode
  exact fun hout => hout flag hflag _ hmode

omit [CasperKey Key] in
/-- What the other arguments are. -/
theorem Env.Complete.args (h : env.Complete) : ∃ symbol decimals supply adminList minterList,
    env.arg? String SYMBOL = some symbol ∧ env.arg? UInt8 DECIMALS = some decimals ∧
      env.arg? U256 TOTAL_SUPPLY = some supply ∧
      env.optArg? (List Key) ADMIN_LIST = some adminList ∧
      env.optArg? (List Key) MINTER_LIST = some minterList := by
  obtain ⟨symbol, hsymbol⟩ := Option.isSome_iff_exists.1 h.symbol
  obtain ⟨decimals, hdecimals⟩ := Option.isSome_iff_exists.1 h.decimals
  obtain ⟨supply, hsupply⟩ := Option.isSome_iff_exists.1 h.totalSupply
  obtain ⟨adminList, hadmin⟩ := Option.isSome_iff_exists.1 h.adminList
  obtain ⟨minterList, hminter⟩ := Option.isSome_iff_exists.1 h.minterList
  exact ⟨symbol, decimals, supply, adminList, minterList, hsymbol, hdecimals, hsupply, hadmin,
    hminter⟩

/-- Well-formed arguments, with a mode that `EventsMode` accepts, are all an installation is
given. -/
theorem Env.Complete.config? (h : env.Complete) (name : String) {m flag : Option UInt8} {mode : EventsMode}
    (hm : env.optArg? UInt8 EVENTS_MODE = some m) (hmode : EventsMode.tryFrom (m.getD 0) = .ok mode)
    (hflag : env.optArg? UInt8 ENABLE_MINT_BURN = some flag) :
    ∃ c, env.config? name = some c := by
  obtain ⟨symbol, decimals, supply, adminList, minterList, hsymbol, hdecimals, hsupply, hadmin,
    hminter⟩ := h.args
  unfold Env.config?
  simp only [hsymbol, hdecimals, hsupply, hm, hadmin, hminter, hflag, hmode, Except.toOption,
    Option.bind_eq_bind, Option.bind_some]
  exact ⟨_, rfl⟩

end Config

/-! ### Installations -/

variable {D : DistinctItemKeys Key} {env : Env Key} {name : String}
variable {before store : Store Key D.toItemKeys}

/-- A store that holds a token has its two bytes. -/
theorem Rep.modalities {l : Layout} {T : Token Key} (h : Rep l T store) {m : UInt8}
    (hm : EventsMode.tryFrom m = .ok T.eventsMode) :
    store.value UInt8 EVENTS_MODE = some m ∧
      store.value UInt8 ENABLE_MINT_BURN = some T.enableMintBurn := by
  obtain ⟨m', hcell, hm'⟩ := h.cells.eventsMode
  rw [EventsMode.tryFrom_inj hm hm']
  exact ⟨hcell.value_eq, h.cells.enableMintBurn.value_eq⟩

/-- **The bytes of an installed token are the ones given**, in every state it reaches. -/
theorem deploy_modalities (hd : deploy env name before = some store) (calls : List (Call Key)) :
    (run store calls).value UInt8 EVENTS_MODE = some (env.modality EVENTS_MODE) ∧
      (run store calls).value UInt8 ENABLE_MINT_BURN = some (env.modality ENABLE_MINT_BURN) := by
  obtain ⟨c, l, hc, hr⟩ := deploy_rep hd
  have hfixed : ∀ (T : Token Key) (o : Option (Op Key)),
      T.eventsMode = c.eventsMode ∧ T.enableMintBurn = c.enableMintBurn →
      (T.exec o).eventsMode = c.eventsMode ∧ (T.exec o).enableMintBurn = c.enableMintBurn := by
    intro T o ⟨hmode, hflag⟩
    obtain ⟨hmode', hflag'⟩ := T.exec_modalities o
    exact ⟨hmode'.trans hmode, hflag'.trans hflag⟩
  obtain ⟨hmode, hflag⟩ := Run.foldl_invariant hfixed (calls.map Call.op?) (s := c.token) ⟨rfl, rfl⟩
  rw [Env.enableMintBurn_of_config? hc, ← hflag]
  apply (run_rep hr calls).modalities
  rw [hmode]
  exact Env.eventsMode_of_config? hc

theorem config?_of_succeeds (h : Succeeds (installContract env name) before) :
    ∃ c, env.config? name = some c := by
  obtain ⟨r, s, hs⟩ := h
  obtain ⟨store, hd⟩ := deploy_of_ok hs
  obtain ⟨c, l, hc, -⟩ := deploy_rep hd
  exact ⟨c, hc⟩

/-- An installation with all it needs succeeds, if the host has addresses for it. -/
theorem succeeds_of_config? {c : Config Key} (hs : before.Fresh 14) (h : env.config? name = some c) :
    Succeeds (installContract env name) before := by
  have hg := Env.gives_of_config? h
  obtain ⟨m, hm, hmode⟩ := hg.eventsMode
  obtain ⟨flag, hflag, -⟩ := hg.enableMintBurn
  have ho := installContract_outcome name hs hg.symbol hg.decimals hg.totalSupply hm
    hg.adminList hg.minterList hflag
  rw [hmode] at ho
  exact ho

/-- **A mode outside its range, or a malformed flag**, stops the installation with the error that
names it, if the other arguments are well formed. -/
theorem refused_of_outside (hs : before.Fresh 14) (hcomplete : env.Complete)
    (hmode : env.optArg? UInt8 ENABLE_MINT_BURN ≠ none →
      env.Outside EVENTS_MODE EventsMode.tryFrom) :
    ∃ (e : Cep18Error) (s : Store Key D.toItemKeys),
      (installContract env name).run before = .error e.toApi s ∧
        (e = .InvalidEventsMode ∧ env.Outside EVENTS_MODE EventsMode.tryFrom ∨
          e = .InvalidEnableMBFlag ∧ env.Outside ENABLE_MINT_BURN MintBurn.tryFrom) := by
  obtain ⟨symbol, decimals, supply, adminList, minterList, hsymbol, hdecimals, hsupply, hadmin,
    hminter⟩ := hcomplete.args
  cases hm : env.optArg? UInt8 EVENTS_MODE with
  | none =>
    -- malformed, which is found first
    refine ⟨.InvalidEventsMode, before, ?_, Or.inl ⟨rfl, fun byte hb => ?_⟩⟩
    · unfold installContract
      rw [bind_of_ok (getNamedArg_run hsymbol), bind_of_ok (getNamedArg_run hdecimals),
        bind_of_ok (getNamedArg_run hsupply)]
      exact bind_of_error (getOptionalNamedArg_refused (by decide) hm)
    · rw [hm] at hb; cases hb
  | some m =>
    cases hf : env.optArg? UInt8 ENABLE_MINT_BURN with
    | none =>
      refine ⟨.InvalidEnableMBFlag, before, ?_, Or.inr ⟨rfl, fun byte hb => ?_⟩⟩
      · unfold installContract
        rw [bind_of_ok (getNamedArg_run hsymbol), bind_of_ok (getNamedArg_run hdecimals),
          bind_of_ok (getNamedArg_run hsupply), bind_of_ok (getOptionalNamedArg_run hm),
          bind_of_ok (getOptionalNamedArg_run hadmin), bind_of_ok (getOptionalNamedArg_run hminter)]
        exact bind_of_error (getOptionalNamedArg_refused (by decide) hf)
      · rw [hf] at hb; cases hb
    | some flag =>
      -- `init` decides
      have houtside := hmode (by rw [hf]; simp)
      have ho := installContract_outcome name hs hsymbol hdecimals hsupply hm hadmin
        hminter hf
      cases hr : EventsMode.tryFrom (m.getD 0) with
      | ok mode => exact absurd hr (houtside m hm mode)
      | error e =>
        rw [hr] at ho
        obtain ⟨s, hs⟩ := ho
        exact ⟨e, s, hs, Or.inl ⟨EventsMode.tryFrom_error hr, houtside⟩⟩

/-- **An installation is guarded** if and only if its flag is one that `MintBurn` accepts,
unless the installation fails on another argument. -/
theorem guarded_iff (hfresh : before.Fresh 14) :
    Guarded env name before ↔
      ∀ c, env.config? name = some c → ∃ mode, MintBurn.tryFrom c.enableMintBurn = .ok mode := by
  constructor
  · intro hg c hc
    obtain ⟨r, s, hs⟩ := succeeds_of_config? hfresh hc
    obtain ⟨store, hd⟩ := deploy_of_ok hs
    obtain ⟨-, hflag, -⟩ := hg.installed store hd
    rwa [Env.enableMintBurn_of_config? hc] at hflag
  · intro hcond
    -- what is outside never gets as far as a token
    have hnone : env.Outside EVENTS_MODE EventsMode.tryFrom ∨
        env.Outside ENABLE_MINT_BURN MintBurn.tryFrom → ∀ c, env.config? name ≠ some c := by
      rintro (hout | hout) c hc
      · exact Env.inside_of_config? hc hout
      · obtain ⟨mode, hmode⟩ := hcond c hc
        exact Env.flag_inside_of_config? hc hmode hout
    refine ⟨fun store hd => ?_, fun hout => ?_, fun hcomplete hout => ?_⟩
    · obtain ⟨c, l, hc, -⟩ := deploy_rep hd
      have hflag := hcond c hc
      rw [← Env.enableMintBurn_of_config? hc] at hflag
      exact ⟨⟨_, Env.eventsMode_of_config? hc⟩, hflag, deploy_modalities hd⟩
    · have hfails : ¬ Succeeds (installContract env name) before := by
        intro hs
        obtain ⟨c, hc⟩ := config?_of_succeeds hs
        exact hnone hout c hc
      exact ⟨hfails, commit_of_not_succeeds hfails⟩
    · refine refused_of_outside hfresh hcomplete fun hflag byte hb mode hm => ?_
      -- with a mode inside its range, there would be a token
      obtain ⟨flag, hf⟩ := Option.ne_none_iff_exists'.1 hflag
      obtain ⟨c, hc⟩ := hcomplete.config? name hb hm hf
      exact hnone hout c hc

theorem Store.blank_fresh : Store.blank.Fresh 14 :=
  ⟨by decide, fun _ _ => rfl, fun _ _ => rfl, fun _ _ => rfl⟩

/-- With both modalities enabled, the installation is guarded. -/
theorem guarded_iff_plain :
    Guarded (Env.session 1 (installArgs "token" 100 1 1)) "token" Store.blank := by
  refine (guarded_iff (D := plainItems) Store.blank_fresh).2 fun c hc => ⟨.MintAndBurn, ?_⟩
  rw [← Env.enableMintBurn_of_config? hc]
  rfl

/-- A flag of two is installed. -/
theorem flag_two_installed :
    (∃ store, deploy (Env.session 1 (installArgs "token" 100 1 2)) "token" Store.blank = some store ∧
      store.value UInt8 ENABLE_MINT_BURN = some 2) ∧
      ¬ Guarded (Env.session 1 (installArgs "token" 100 1 2)) "token" Store.blank := by
  have hs : Succeeds (installContract (Env.session 1 (installArgs "token" 100 1 2)) "token")
      Store.blank := by decide +kernel
  constructor
  · obtain ⟨r, s, hr⟩ := hs
    obtain ⟨store, hd⟩ := deploy_of_ok hr
    exact ⟨store, hd, (deploy_modalities (D := plainItems) hd []).2⟩
  · intro hg
    refine (hg.refused (Or.inr fun byte hb mode hm => ?_)).1 hs
    obtain rfl := Option.some.inj hb
    cases hm

end Cep18
