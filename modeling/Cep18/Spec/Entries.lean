import Cep18.Lib.Simulate
import Cep18.Model.Install
import Cep18.Spec.Security
import Cep18.Spec.View

/-!
# Entries, whatever they are stored under

What a dictionary item is about is an `Entry`: one key, or an owner and a spender. A way of
addressing items is one way of naming entries (`ItemKeys.itemOf`), and the plainest names
an entry by itself (`mapItems`): with it, the dictionaries are maps over keys and pairs.

* `ItemKeys.Separates K`: different entries, of keys in `K` where they are pairs, have
  different items.
* `Alike K s t`: two stores that address their items differently and agree on everything,
  on their dictionaries entry by entry.
* `Call.Within K`: the call can involve no allowance but between keys in `K`.
* `Deployment.Agrees K`: two installed tokens that cannot be told apart.
* `Takes.balance_eq`, `Takes.allowance_eq`, `Takes.badge_eq`: only entries of the parties
  to an operation (`Op.holders`, `Op.pairs`, `Op.listed`) are changed by it (`Op.Touches`).
-/

namespace Cep18

open Program Constants

/-- What a dictionary item is about. -/
inductive Entry (Key : Type) where
  | ofKey (key : Key)
  | ofPair (owner spender : Key)
  deriving DecidableEq

/-- Allowances are between keys in `K`. -/
def Entry.Within {Key : Type} (K : Set Key) : Entry Key → Prop
  | .ofKey _ => True
  | .ofPair owner spender => owner ∈ K ∧ spender ∈ K

/-- The item of an entry. -/
def ItemKeys.itemOf {Key : Type} (D : ItemKeys Key) : Entry Key → D.Item
  | .ofKey key => D.ofKey key
  | .ofPair owner spender => D.ofPair owner spender

/-- Different entries have different items. -/
def ItemKeys.Separates {Key : Type} (D : ItemKeys Key) (K : Set Key) : Prop :=
  ∀ i j : Entry Key, i.Within K → j.Within K → D.itemOf i = D.itemOf j → i = j

/-- **Maps over keys and over pairs of keys**: entries are addressed by themselves. -/
def mapItems (Key : Type) [DecidableEq Key] : DistinctItemKeys Key where
  Item := Entry Key
  decItem := inferInstance
  ofKey := .ofKey
  ofPair := .ofPair
  ofKey_inj _ _ h := Entry.ofKey.inj h
  ofPair_inj _ _ _ _ h := Entry.ofPair.inj h

theorem mapItems_itemOf {Key : Type} [DecidableEq Key] (i : Entry Key) :
    (mapItems Key).itemOf i = i := by
  cases i <;> rfl

theorem mapItems_separates {Key : Type} [DecidableEq Key] (K : Set Key) :
    (mapItems Key).Separates K := by
  intro i j _ _ h
  rw [mapItems_itemOf, mapItems_itemOf] at h
  exact h

/-! ### Parties -/

section Parties

variable {A : Type} [LinearOrder A] {T T' : Token A} {op : Op A}

/-- Whose balances an operation changes. -/
def Op.holders : Op A → List A
  | .transfer sender recipient _ => [sender, recipient]
  | .transferFrom _ owner recipient _ => [owner, recipient]
  | .mint _ owner _ => [owner]
  | .burn _ owner _ => [owner]
  | _ => []

/-- Between whom an operation changes an allowance. -/
def Op.pairs : Op A → List (A × A)
  | .approve owner spender _ => [(owner, spender)]
  | .decreaseAllowance owner spender _ => [(owner, spender)]
  | .increaseAllowance owner spender _ => [(owner, spender)]
  | .transferFrom spender owner _ _ => [(owner, spender)]
  | _ => []

/-- Whose badges an operation changes. -/
def Op.listed : Op A → List A
  | .changeSecurity _ adminList minterList noneList =>
    adminList.getD [] ++ minterList.getD [] ++ noneList.getD []
  | _ => []

namespace Token

theorem Takes.balance_eq (h : T.Takes op T') {a : A} (ha : a ∉ op.holders) :
    T'.balances a = T.balances a := by
  cases h with
  | @transfer sender recipient n hne hbalance hmax =>
    simp only [Op.holders, List.mem_cons, List.not_mem_nil, or_false, not_or] at ha
    simp only [record_toLedger, withLedger_toLedger, Ledger.move_balances hne]
    rw [if_neg ha.2, if_neg ha.1]
  | @transferFrom spender owner recipient n hne hpos hallowance hbalance hmax =>
    simp only [Op.holders, List.mem_cons, List.not_mem_nil, or_false, not_or] at ha
    simp only [record_toLedger, withLedger_toLedger, Ledger.setAllowance_balances,
      Ledger.move_balances hne]
    rw [if_neg ha.2, if_neg ha.1]
  | @mint caller owner n hflag hbadge hbalance hsupply =>
    simp only [record_toLedger, withLedger_toLedger, Ledger.issue_balances]
    exact if_neg fun he => ha (by simp [Op.holders, he])
  | @burn owner n hflag hbalance hsupply =>
    simp only [record_toLedger, withLedger_toLedger, Ledger.retire_balances]
    exact if_neg fun he => ha (by simp [Op.holders, he])
  | _ => rfl

theorem Takes.allowance_eq (h : T.Takes op T') {o s : A} (hos : (o, s) ∉ op.pairs) :
    T'.allowances o s = T.allowances o s := by
  -- an operation that sets an allowance sets that of its pair
  have hset : ∀ (L : Ledger A) (owner spender : A) (n : ℕ), (o, s) ∉ [(owner, spender)] →
      (L.setAllowance owner spender n).allowances o s = L.allowances o s := by
    intro L owner spender n hne
    rw [Ledger.setAllowance_allowances]
    exact if_neg fun he => hne (by simp [he.1, he.2])
  cases h with
  | approve hne => exact hset _ _ _ _ hos
  | decreaseAllowance hne => exact hset _ _ _ _ hos
  | increaseAllowance hne => exact hset _ _ _ _ hos
  | transferFrom hne hpos hallowance hbalance hmax => exact hset _ _ _ _ hos
  | _ => rfl

theorem Takes.badge_eq (h : T.Takes op T') {a : A} (ha : a ∉ op.listed) :
    T'.badges a = T.badges a := by
  cases h with
  | @changeSecurity caller admins minters nones hflag hbadge =>
    simp only [Op.listed, List.mem_append, not_or] at ha
    have hno : badgeChange caller admins minters nones a = none := by
      simp [badgeChange, listed_iff, ha]
    simp only [record_badges, setBadges_badges, secChangeMap_get, hno, Option.none_or]
  | _ => rfl

end Token

end Parties

variable {Key : Type} [CasperKey Key] {D E : ItemKeys Key}

/-! ### Stores that differ in how items are addressed -/

/-- The store with other dictionaries. -/
def Store.withDicts (s : Store Key D) (dicts : URef → Option (E.Item → Option CLValue)) :
    Store Key E :=
  { s with dicts := dicts }

section withDicts

variable (s : Store Key D) (dicts : URef → Option (E.Item → Option CLValue))

@[simp] theorem Store.withDicts_named : (s.withDicts dicts).named = s.named := rfl
@[simp] theorem Store.withDicts_values : (s.withDicts dicts).values = s.values := rfl
@[simp] theorem Store.withDicts_dicts : (s.withDicts dicts).dicts = dicts := rfl
@[simp] theorem Store.withDicts_logs : (s.withDicts dicts).logs = s.logs := rfl
@[simp] theorem Store.withDicts_contracts : (s.withDicts dicts).contracts = s.contracts := rfl
@[simp] theorem Store.withDicts_packages : (s.withDicts dicts).packages = s.packages := rfl
@[simp] theorem Store.withDicts_address : (s.withDicts dicts).address = s.address := rfl
@[simp] theorem Store.withDicts_next : (s.withDicts dicts).next = s.next := rfl
@[simp] theorem Store.withDicts_writes : (s.withDicts dicts).writes = s.writes := rfl

end withDicts

/-- Two dictionaries hold the same under every entry. -/
def AlikeItems (K : Set Key) (d : D.Item → Option CLValue) (e : E.Item → Option CLValue) : Prop :=
  ∀ i : Entry Key, i.Within K → d (D.itemOf i) = e (E.itemOf i)

/-- **The stores agree**, on their dictionaries entry by entry. -/
def Alike (K : Set Key) (s : Store Key D) (t : Store Key E) : Prop :=
  ∃ dicts, t = s.withDicts dicts ∧ ∀ u, Option.Rel (AlikeItems K) (s.dicts u) (dicts u)

/-- The store with its dictionaries read as maps over keys and pairs of keys. -/
def Store.asMaps (s : Store Key D) : Store Key (mapItems Key).toItemKeys :=
  s.withDicts fun u => (s.dicts u).map fun d i => d (D.itemOf i)

/-! ### What a call can involve -/

/-- The caller, and what is given as the owner or the spender, are in `K`. -/
structure Call.Within (K : Set Key) (c : Call Key) : Prop where
  caller : ∀ k, c.env.callerIdentity = some k → k ∈ K
  owner : ∀ k, c.env.arg? Key OWNER = some k → k ∈ K
  spender : ∀ k, c.env.arg? Key SPENDER = some k → k ∈ K

/-- **Two installed tokens cannot be told apart**: they were installed alike, and after any
calls, every call has the same answer and all entries are the same. -/
structure Deployment.Agrees (K : Set Key) (d : Deployment Key D) (d' : Deployment Key E) : Prop where
  env : d'.env = d.env
  name : d'.name = d.name
  before : Alike K d.before d'.before
  answers : ∀ calls, (∀ c ∈ calls, c.Within K) → ∀ c : Call Key, c.Within K →
    answer c.program (d.after calls) = answer c.program (d'.after calls)
  balance : ∀ calls, (∀ c ∈ calls, c.Within K) → ∀ k,
    (d.after calls).balance k = (d'.after calls).balance k
  allowance : ∀ calls, (∀ c ∈ calls, c.Within K) → ∀ owner ∈ K, ∀ spender ∈ K,
    (d.after calls).allowance owner spender = (d'.after calls).allowance owner spender
  badge : ∀ calls, (∀ c ∈ calls, c.Within K) → ∀ k,
    (d.after calls).badge k = (d'.after calls).badge k

/-- From `s` to `s'`, nothing changed but entries of the parties to the operation. -/
structure Op.Touches (op : Op Key) (K : Set Key) (s s' : Store Key D) : Prop where
  balance : ∀ k, k ∉ op.holders → s'.balance k = s.balance k
  allowance : ∀ owner ∈ K, ∀ spender ∈ K, (owner, spender) ∉ op.pairs →
    s'.allowance owner spender = s.allowance owner spender
  badge : ∀ k, k ∉ op.listed → s'.badge k = s.badge k

end Cep18
