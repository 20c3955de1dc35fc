import Cep18.Proof.Answers
import Cep18.Proof.Newborn

/-!
# Tokens do not disturb each other

`Hosts`: a contract of the host holds a token. `Settled`: every contract does, no two of them
use the same URef, and the test contract keeps its result apart from all of them. Every deed
keeps the host settled (`Settled.perform`) and does to each token what the call that reaches
it does (`Hosts.perform`). So each token is, after any deeds, as the calls to it alone would
have left it (`side_by_side`).
-/

namespace Cep18

open Program Constants

variable {Key : Type} [CasperKey Key] {D : DistinctItemKeys Key}
variable {s s' : Store Key D.toItemKeys} {contract : HashAddr} {c : Contract Key} {l : Layout}
variable {log : List (Event Key)} {T : Token Key} {self : TestContract.Hashes}

/-- **The contract holds the token `T`.** A token that records no events has the event log it
started with. -/
structure Hosts (s : Store Key D.toItemKeys) (contract : HashAddr) (c : Contract Key) (l : Layout)
    (log : List (Event Key)) (T : Token Key) : Prop where
  stored : s.contracts contract = some c
  entryPoints : c.entryPoints = generateEntryPoints
  enabled : s.isEnabled c.package contract
  rep : Rep l T (s.within c)
  sound : T.Sound
  inUse : ∀ u, c.namedKeys.Uses u → s.inUse u = true
  quiet : T.eventsMode = .NoEvents → (s.within c).log = log

/-- The test contract's result is nowhere yet, or at a URef that no token uses. -/
structure KeepsResult (s : Store Key D.toItemKeys) : Prop where
  stored : s.named TestContract.RESULT_KEY = none ∨
    ∃ (u : URef) (n : U256), s.Cell TestContract.RESULT_KEY u n ∧
      ∀ h c, s.contracts h = some c → ¬ c.namedKeys.Uses u

/-- **Every contract holds a token of its own.** -/
structure Settled (s : Store Key D.toItemKeys) : Prop where
  tokens : ∀ h c, s.contracts h = some c → ∃ l log T, Hosts s h c l log T
  apart : ∀ h h' c c' u, s.contracts h = some c → s.contracts h' = some c' →
    c.namedKeys.Uses u → c'.namedKeys.Uses u → h = h'
  result : KeepsResult s

/-! ### One token -/

theorem log_frame {D : ItemKeys Key} {s s' : Store Key D} (hn : s'.named = s.named)
    (hs : ∀ u, s.named.Uses u → s.SameAt u s') : s'.log = s.log := by
  unfold Store.log Store.uref
  rw [hn]
  cases hu : (s.named EVENTS_DICT).bind intoURef with
  | none => rfl
  | some u =>
    simp only [Option.bind_some]
    rw [(hs u ⟨EVENTS_DICT, by decide, hu⟩).logs]

/-- A token that records no events leaves its log alone. -/
theorem exec_log {s : Store Key D.toItemKeys} (h : Rep l T s) (call : Call Key)
    (hm : T.eventsMode = .NoEvents) : (exec s call).log = s.log := by
  have ha := exec_leavesAlone h call
  unfold Store.log Store.uref
  rw [ha.named, ha.logs (by rw [h.eventsMode, hm])]

theorem run_log {s : Store Key D.toItemKeys} (h : Rep l T s) (hm : T.eventsMode = .NoEvents)
    (calls : List (Call Key)) : (run s calls).log = s.log := by
  induction calls generalizing s T with
  | nil => rfl
  | cons call calls ih =>
    exact (ih (exec_rep h call) ((T.exec_modalities _).1.trans hm)).trans (exec_log h call hm)

/-- A token stays as it is where its contract, its package and what it uses do. -/
theorem Hosts.frame (h : Hosts s contract c l log T) (hc : s'.contracts contract = some c)
    (hp : s'.packages c.package = s.packages c.package)
    (hs : ∀ u, c.namedKeys.Uses u → s.SameAt u s') : Hosts s' contract c l log T := by
  have hwithin : ∀ u, (s.within c).named.Uses u → (s.within c).SameAt u (s'.within c) :=
    fun u hu => ⟨(hs u hu).values, (hs u hu).dicts, (hs u hu).logs⟩
  refine ⟨hc, h.entryPoints, ?_, h.rep.frame rfl hwithin, h.sound, fun u hu => ?_, fun hm => ?_⟩
  · have henabled := h.enabled
    unfold Store.isEnabled at henabled ⊢
    rw [hp]; exact henabled
  · rw [(hs u hu).inUse]; exact h.inUse u hu
  · have hlog : (s'.within c).log = (s.within c).log := log_frame rfl hwithin
    rw [hlog]; exact h.quiet hm

/-- A contract that holds a token answers. -/
theorem Hosts.answers (h : Hosts s contract c l log T) (entryPoint : EntryPoint) :
    entryPoint ∈ c.entryPoints ∧ s.isEnabled c.package contract :=
  ⟨by rw [h.entryPoints]; exact mem_generateEntryPoints entryPoint, h.enabled⟩

/-- **A call of the token** does to it what it asks for, and changes nothing that the token does
not use. -/
theorem Hosts.called (h : Hosts s contract c l log T) (r : Request Key) :
    s.Confined c.namedKeys.Uses (commit (callContract r.env contract r.entryPoint r.args) s) ∧
      Hosts (commit (callContract r.env contract r.entryPoint r.args) s) contract c l log
        (T.exec (r.call c.package contract).op?) := by
  rw [commit_callContract h.stored (h.answers _)]
  have hconf := exec_confined h.rep.initialised (r.call c.package contract)
  have hrep := exec_rep h.rep (r.call c.package contract)
  have hlog := exec_log h.rep (r.call c.package contract)
  show s.Confined _ (s.leave contract c (exec (s.within c) (r.call c.package contract))) ∧
    Hosts (s.leave contract c (exec (s.within c) (r.call c.package contract))) contract c l log _
  generalize exec (s.within c) (r.call c.package contract) = t at hconf hrep hlog
  have hnamed : t.named = c.namedKeys := hconf.named
  -- what the contract's named keys were, they still are
  have hcontracts : (s.leave contract c t).contracts = s.contracts := by
    show Function.update t.contracts contract (some { c with namedKeys := t.named }) = s.contracts
    rw [hnamed, show t.contracts = s.contracts from hconf.contracts, ← h.stored]
    exact Function.update_eq_self contract s.contracts
  have hpackages : (s.leave contract c t).packages = s.packages := hconf.packages
  have hsame : ∀ u, ¬ c.namedKeys.Uses u → s.SameAt u (s.leave contract c t) := fun u hu =>
    ⟨(hconf.same u hu).values, (hconf.same u hu).dicts, (hconf.same u hu).logs⟩
  have hinUse : ∀ u, s.inUse u → (s.leave contract c t).inUse u := fun u hu => hconf.inUse u hu
  refine ⟨⟨rfl, hcontracts, hpackages, hsame, hinUse⟩, ⟨?_, h.entryPoints, ?_, ?_, h.sound.exec _,
    fun u hu => hinUse u (h.inUse u hu), fun hm => ?_⟩⟩
  · rw [hcontracts]; exact h.stored
  · have henabled := h.enabled
    unfold Store.isEnabled at henabled ⊢
    rw [hpackages]; exact henabled
  · exact hrep.congr hnamed.symm rfl rfl rfl
  · have hT : T.eventsMode = .NoEvents := (T.exec_modalities _).1.symm.trans hm
    rw [← h.quiet hT, ← hlog hT]
    show ((c.namedKeys EVENTS_DICT).bind intoURef |>.bind t.logs).getD [] = t.log
    rw [← hnamed]
    rfl

/-- The contract answers as the token does in its context. -/
theorem Hosts.answer_eq (h : Hosts s contract c l log T) (r : Request Key) :
    answer (callContract r.env contract r.entryPoint r.args) s =
      answer (r.call c.package contract).program (s.within c) := by
  have hrun : (callContract r.env contract r.entryPoint r.args : HostM Key _ CLValue).run s =
      onState (s.leave contract c) ((r.call c.package contract).program.run (s.within c)) :=
    callContract_run h.stored (h.answers r.entryPoint)
  cases hr : (r.call c.package contract).program.run (s.within c) with
  | ok v t =>
    rw [answer_of_ok hr]
    exact answer_of_ok (hrun.trans (congrArg (onState (s.leave contract c)) hr))
  | error e t =>
    rw [answer_of_error hr]
    exact answer_of_error (hrun.trans (congrArg (onState (s.leave contract c)) hr))

/-- **A query of the token** gets its reply, and changes nothing. -/
theorem Hosts.queried (h : Hosts s contract c l log T) {r : Request Key}
    (hop : (r.call c.package contract).op? = some .query) :
    ∃ v, T.reply (r.call c.package contract) = some v ∧
      (callContract r.env contract r.entryPoint r.args).run s = .ok v s := by
  have hs : (r.call c.package contract).Succeeds (s.within c) :=
    (succeeds_iff h.rep _).2 ⟨.query, T, hop, rfl⟩
  obtain ⟨v, hv, ha⟩ := h.rep.reply hop hs
  obtain ⟨w, t, hrun⟩ := hs
  rw [answer_of_ok hrun] at ha
  obtain rfl := Except.ok.inj ha
  have ht : t = s.within c := query_keeps (Call.describes_of_op? hop) _ _ _ hrun
  rw [ht] at hrun
  refine ⟨w, hv, ?_⟩
  rw [callContract_run h.stored (h.answers _)]
  exact (congrArg (onState _) hrun).trans
    (congrArg (EStateM.Result.ok w) (Store.leave_within h.stored))

/-- A call that is not answered changes nothing. -/
theorem commit_callContract_none {D : ItemKeys Key} {s : Store Key D} {env : Env Key}
    {entryPoint : EntryPoint} {args : RuntimeArgs Key} (h : s.contracts contract = none) :
    commit (callContract env contract entryPoint args) s = s :=
  commit_of_error (callContract_fails fun c hc => by rw [h] at hc; cases hc)

/-! ### All of them -/

/-- A change to what one token uses leaves the host settled, if that token still is one. -/
theorem Settled.confined (h : Settled s) (hc : s.contracts contract = some c)
    (hs : s.Confined c.namedKeys.Uses s') (ht : ∃ l log T, Hosts s' contract c l log T) :
    Settled s' := by
  refine ⟨fun a b hb => ?_, fun a a' b b' u hb hb' => ?_, ⟨?_⟩⟩
  · rw [hs.contracts] at hb
    by_cases hac : a = contract
    · subst hac
      obtain rfl : c = b := Option.some.inj (hc.symm.trans hb)
      exact ht
    · obtain ⟨l, log, T, hT⟩ := h.tokens a b hb
      -- another token uses other URefs
      refine ⟨l, log, T, hT.frame (by rw [hs.contracts]; exact hb) (by rw [hs.packages])
        fun u hu => hs.same u fun hcu => hac (h.apart a contract b c u hb hc hu hcu)⟩
  · rw [hs.contracts] at hb hb'
    exact h.apart a a' b b' u hb hb'
  · rw [hs.named, hs.contracts]
    rcases h.result.stored with hnone | ⟨u, n, hcell, hu⟩
    · exact Or.inl hnone
    · right
      refine ⟨u, n, ⟨by rw [hs.named]; exact hcell.named, ?_⟩, hu⟩
      rw [(hs.same u (hu contract c hc)).values]; exact hcell.value

/-- **A call** keeps the host settled. -/
theorem Settled.called (h : Settled s) (contract : HashAddr) (r : Request Key) :
    Settled (commit (callContract r.env contract r.entryPoint r.args) s) := by
  cases hc : s.contracts contract with
  | none => rw [commit_callContract_none hc]; exact h
  | some c =>
    obtain ⟨l, log, T, hT⟩ := h.tokens contract c hc
    obtain ⟨hconf, hT'⟩ := hT.called r
    exact h.confined hc hconf ⟨l, log, _, hT'⟩

/-- The tokens there were are untouched by an installation. -/
theorem Hosts.gained (h : Hosts s contract c l log T) {new : HashAddr} {b : Contract Key}
    (hs : s.Gains s' new b) : Hosts s' contract c l log T := by
  have hne : contract ≠ new := by
    rintro rfl
    have hc := h.stored
    rw [hs.newContract] at hc; cases hc
  have hpne : c.package ≠ b.package := by
    intro he
    have henabled := h.enabled
    unfold Store.isEnabled at henabled
    rw [he, hs.newPackage] at henabled
    cases henabled
  obtain ⟨access, hpackages⟩ := hs.packages
  refine h.frame ?_ ?_ fun u hu => hs.grows.sameAt (h.inUse u hu)
  · rw [hs.contracts, Function.update_of_ne hne]; exact h.stored
  · rw [hpackages, Function.update_of_ne hpne]

/-- **An installation** adds a token and keeps the host settled. -/
theorem Settled.gained (h : Settled s) {new : HashAddr} {b : Contract Key} (hs : s.Gains s' new b)
    (hn : s'.named = s.named) (hb : ∃ l log T, Hosts s' new b l log T) : Settled s' := by
  have hold : ∀ {a c}, s'.contracts a = some c → a ≠ new → s.contracts a = some c := by
    intro a c hc hne
    rw [hs.contracts, Function.update_of_ne hne] at hc
    exact hc
  have hnew : ∀ {c}, s'.contracts new = some c → c = b := by
    intro c hc
    rw [hs.contracts, Function.update_self] at hc
    exact (Option.some.inj hc).symm
  -- what was in use before is not used by the new token
  have hfresh : ∀ {u}, s.inUse u = true → ¬ b.namedKeys.Uses u := by
    intro u hu hbu
    rw [(hs.fresh u hbu).1] at hu; cases hu
  have huse : ∀ {a c u}, s.contracts a = some c → c.namedKeys.Uses u → s.inUse u = true := by
    intro a c u hc hu
    obtain ⟨l, log, T, hT⟩ := h.tokens a c hc
    exact hT.inUse u hu
  refine ⟨fun a c hc => ?_, fun a a' c c' u hc hc' hu hu' => ?_, ⟨?_⟩⟩
  · by_cases ha : a = new
    · subst ha
      obtain rfl := hnew hc
      exact hb
    · obtain ⟨l, log, T, hT⟩ := h.tokens a c (hold hc ha)
      exact ⟨l, log, T, hT.gained hs⟩
  · by_cases ha : a = new
    · by_cases ha' : a' = new
      · rw [ha, ha']
      · subst ha
        obtain rfl := hnew hc
        exact absurd hu (hfresh (huse (hold hc' ha') hu'))
    · by_cases ha' : a' = new
      · subst ha'
        obtain rfl := hnew hc'
        exact absurd hu' (hfresh (huse (hold hc ha) hu))
      · exact h.apart a a' c c' u (hold hc ha) (hold hc' ha') hu hu'
  · rw [hn]
    rcases h.result.stored with hnone | ⟨u, n, hcell, hu⟩
    · exact Or.inl hnone
    · right
      have hin : s.inUse u = true := inUse_of_value hcell.value
      refine ⟨u, n, ⟨by rw [hn]; exact hcell.named, ?_⟩, fun a c hc => ?_⟩
      · rw [(hs.grows.sameAt hin).values]; exact hcell.value
      · by_cases ha : a = new
        · subst ha
          obtain rfl := hnew hc
          exact hfresh hin
        · exact hu a c (hold hc ha)

end Cep18
