import Cep18.Spec.View

/-!
# A store that holds a token

`Rep l T s`: the store `s`, in the context of the contract, holds the abstract token
`T`, in URefs laid out by `l`. Under `Rep` every helper of the contract does what its
name says: reads return what the token says and write nothing (`.._run`), and writes
succeed and leave a store that holds the changed token (`.._ensures`).
-/

namespace Cep18

open Program Constants Checked

variable {Key : Type} [CasperKey Key]

/-- The URefs a token is laid out in. -/
structure Layout where
  name : URef
  symbol : URef
  decimals : URef
  totalSupply : URef
  eventsMode : URef
  enableMintBurn : URef
  balances : URef
  allowances : URef
  securityBadges : URef
  events : URef

section Cells

variable {D : ItemKeys Key}

/-- The named key `name` leads to the URef `u`, which holds the value `t`. -/
structure Store.Cell {T : Type} [CLTyped T] (s : Store Key D) (name : String) (u : URef) (t : T) :
    Prop where
  named : s.named name = some (ofURef u)
  value : s.values u = some (CLTyped.fromT t)

/-- The named key `name` leads to a dictionary at the URef `u` with the items `d`. -/
structure Store.Dict (s : Store Key D) (name : String) (u : URef) (d : D.Item → Option CLValue) :
    Prop where
  named : s.named name = some (ofURef u)
  items : s.dicts u = some d

/-- A write to another URef leaves a value alone. -/
theorem Store.Cell.of_write {T : Type} [CLTyped T] {s s' : Store Key D} {name : String}
    {u w : URef} {t : T} (h : s.Cell name u t) {v : Option CLValue} (hn : s'.named = s.named)
    (hv : s'.values = Function.update s.values w v) (hne : u ≠ w) : s'.Cell name u t := by
  constructor
  · rw [hn]; exact h.named
  · rw [hv, Function.update_of_ne hne]; exact h.value

/-- A write to another dictionary leaves a dictionary alone. -/
theorem Store.Dict.of_write {s s' : Store Key D} {name : String} {u w : URef}
    {d : D.Item → Option CLValue} (h : s.Dict name u d) {e : Option (D.Item → Option CLValue)}
    (hn : s'.named = s.named) (hd : s'.dicts = Function.update s.dicts w e) (hne : u ≠ w) :
    s'.Dict name u d := by
  constructor
  · rw [hn]; exact h.named
  · rw [hd, Function.update_of_ne hne]; exact h.items

/-- A dictionary item holds the amount `n`; a missing item holds zero. -/
def HoldsAmount (item : Option CLValue) (n : ℕ) : Prop :=
  (item = none ∧ n = 0) ∨ ∃ v : U256, item = some (CLTyped.fromT v) ∧ v.toNat = n

end Cells

variable {D : DistinctItemKeys Key}

/-- The URefs of single values, all apart from the one the total supply is written to. -/
structure Cells (s : Store Key D.toItemKeys) (l : Layout) (name symbol : String)
    (decimals enableMintBurn : UInt8) (mode : EventsMode) (supply : ℕ) : Prop where
  name : s.Cell NAME l.name name
  symbol : s.Cell SYMBOL l.symbol symbol
  decimals : s.Cell DECIMALS l.decimals decimals
  enableMintBurn : s.Cell ENABLE_MINT_BURN l.enableMintBurn enableMintBurn
  eventsMode : ∃ m : UInt8, s.Cell EVENTS_MODE l.eventsMode m ∧ EventsMode.tryFrom m = .ok mode
  totalSupply : ∃ n : U256, s.Cell TOTAL_SUPPLY l.totalSupply n ∧ n.toNat = supply
  apart : l.totalSupply ∉ [l.name, l.symbol, l.decimals, l.enableMintBurn, l.eventsMode]

/-- The three dictionaries, apart from each other. -/
structure Tables (s : Store Key D.toItemKeys) (l : Layout) (balances : Key → ℕ)
    (allowances : Key → Key → ℕ) (badges : Key → Option SecurityBadge) : Prop where
  balances : ∃ d, s.Dict BALANCES l.balances d ∧ ∀ k, HoldsAmount (d (D.ofKey k)) (balances k)
  allowances : ∃ d, s.Dict ALLOWANCES l.allowances d ∧
    ∀ o sp, HoldsAmount (d (D.ofPair o sp)) (allowances o sp)
  badges : ∃ d, s.Dict SECURITY_BADGES l.securityBadges d ∧
    ∀ k, d (D.ofKey k) = (badges k).map CLTyped.fromT
  apart : l.balances ≠ l.allowances ∧ l.balances ≠ l.securityBadges ∧
    l.allowances ≠ l.securityBadges

/-- The event log, kept in CES mode only. -/
structure Logs (s : Store Key D.toItemKeys) (l : Layout) (mode : EventsMode)
    (log : List (Event Key)) : Prop where
  kept : mode = .CES → s.named EVENTS_DICT = some (ofURef l.events) ∧ s.logs l.events = some log
  none : mode ≠ .CES → log = []

/-- **The store holds the token.** -/
structure Rep (l : Layout) (T : Token Key) (s : Store Key D.toItemKeys) : Prop where
  cells : Cells s l T.name T.symbol T.decimals T.enableMintBurn T.eventsMode T.totalSupply
  tables : Tables s l T.balances T.allowances T.badges
  logs : Logs s l T.eventsMode T.log

section Congr

variable {s s' : Store Key D.toItemKeys} {l : Layout}

theorem Cells.congr {name symbol : String} {decimals flag : UInt8} {mode : EventsMode} {supply : ℕ}
    (h : Cells s l name symbol decimals flag mode supply) (hn : s'.named = s.named)
    (hv : s'.values = s.values) : Cells s' l name symbol decimals flag mode supply := by
  have hc : ∀ {V : Type} [CLTyped V] {n : String} {u : URef} {v : V}, s.Cell n u v → s'.Cell n u v :=
    fun h => ⟨by rw [hn]; exact h.named, by rw [hv]; exact h.value⟩
  obtain ⟨m, hm, hm'⟩ := h.eventsMode
  obtain ⟨n, hs, hs'⟩ := h.totalSupply
  exact ⟨hc h.name, hc h.symbol, hc h.decimals, hc h.enableMintBurn, ⟨m, hc hm, hm'⟩,
    ⟨n, hc hs, hs'⟩, h.apart⟩

theorem Tables.congr {balances : Key → ℕ} {allowances : Key → Key → ℕ}
    {badges : Key → Option SecurityBadge} (h : Tables s l balances allowances badges)
    (hn : s'.named = s.named) (hd : s'.dicts = s.dicts) :
    Tables s' l balances allowances badges := by
  have hc : ∀ {n : String} {u : URef} {d : D.Item → Option CLValue}, s.Dict n u d → s'.Dict n u d :=
    fun h => ⟨by rw [hn]; exact h.named, by rw [hd]; exact h.items⟩
  obtain ⟨b, hb, hb'⟩ := h.balances
  obtain ⟨a, ha, ha'⟩ := h.allowances
  obtain ⟨g, hg, hg'⟩ := h.badges
  exact ⟨⟨b, hc hb, hb'⟩, ⟨a, hc ha, ha'⟩, ⟨g, hc hg, hg'⟩, h.apart⟩

theorem Logs.congr {mode : EventsMode} {log : List (Event Key)} (h : Logs s l mode log)
    (hn : s'.named = s.named) (hl : s'.logs = s.logs) : Logs s' l mode log :=
  ⟨fun hm => by rw [hn, hl]; exact h.kept hm, h.none⟩

/-- What is not a named key, a value, a dictionary or a log does not matter. -/
theorem Rep.congr {T : Token Key} (h : Rep l T s) (hn : s'.named = s.named)
    (hv : s'.values = s.values) (hd : s'.dicts = s.dicts) (hl : s'.logs = s.logs) : Rep l T s' :=
  ⟨h.cells.congr hn hv, h.tables.congr hn hd, h.logs.congr hn hl⟩

end Congr

variable {l : Layout} {T : Token Key}

/-! ### Reading -/

section Reading

variable {D : ItemKeys Key}

theorem getUref_run {s : Store Key D} {name : String} {u : URef}
    (h : s.named name = some (ofURef u)) : (getUref name).run s = .ok u s := by
  have hk : (getKey name).run s = .ok (s.named name) s := rfl
  unfold getUref
  rw [bind_of_ok hk, h]
  simp

theorem read_run {V : Type} [CLTyped V] {s : Store Key D} {u : URef} {v : V}
    (h : s.values u = some (CLTyped.fromT v)) : (read u).run s = .ok (some v) s := by
  unfold read EStateM.run
  simp only [h, CLTyped.intoT_fromT]

theorem readFrom_run {V : Type} [CLTyped V] {s : Store Key D} {name : String} {u : URef}
    {v : V} (h : s.Cell name u v) : (readFrom name).run s = .ok v s := by
  unfold readFrom
  rw [bind_of_ok (getUref_run h.named), bind_of_ok (read_run h.value)]
  rfl

theorem dictionaryGet_run {V : Type} [CLTyped V] {s : Store Key D} {u : URef}
    {d : D.Item → Option CLValue} {item : D.Item} (hd : s.dicts u = some d) {o : Option V}
    (ho : d item = o.map CLTyped.fromT) : (dictionaryGet u item).run s = .ok o s := by
  unfold dictionaryGet EStateM.run
  simp only [hd, ho]
  cases o with
  | none => rfl
  | some v => simp only [Option.map_some, CLTyped.intoT_fromT]

theorem dictionaryPut_run {V : Type} [CLTyped V] {s : Store Key D} {u : URef}
    {d : D.Item → Option CLValue} (hd : s.dicts u = some d) (item : D.Item) (v : V) :
    (dictionaryPut u item v).run s = .ok () { s with
      dicts := Function.update s.dicts u (some (Function.update d item (some (CLTyped.fromT v))))
      writes := s.writes + 1 } := by
  unfold dictionaryPut EStateM.run
  simp only [hd]

/-- A dictionary of amounts, read. -/
theorem amount_run {s : Store Key D} {u : URef} {d : D.Item → Option CLValue}
    {item : D.Item} {n : ℕ} (hd : s.dicts u = some d) (hn : HoldsAmount (d item) n) :
    ∃ o : Option U256, (dictionaryGet u item).run s = .ok o s ∧ (o.getD 0).toNat = n := by
  rcases hn with ⟨hi, rfl⟩ | ⟨v, hi, rfl⟩
  · exact ⟨none, dictionaryGet_run hd hi, rfl⟩
  · exact ⟨some v, dictionaryGet_run hd hi, rfl⟩

end Reading

variable {s : Store Key D.toItemKeys}

theorem readBalanceFrom_run (h : Rep l T s) (k : Key) :
    ∃ b : U256, (readBalanceFrom l.balances k).run s = .ok b s ∧ b.toNat = T.balances k := by
  obtain ⟨d, hd, hk⟩ := h.tables.balances
  obtain ⟨o, ho, hn⟩ := amount_run hd.items (hk k)
  refine ⟨o.getD 0, ?_, hn⟩
  unfold readBalanceFrom
  rw [bind_of_ok ho]; rfl

theorem readAllowanceFrom_run (h : Rep l T s) (o sp : Key) :
    ∃ a : U256, (readAllowanceFrom l.allowances o sp).run s = .ok a s ∧
      a.toNat = T.allowances o sp := by
  obtain ⟨d, hd, hk⟩ := h.tables.allowances
  obtain ⟨v, hv, hn⟩ := amount_run hd.items (hk o sp)
  refine ⟨v.getD 0, ?_, hn⟩
  unfold readAllowanceFrom
  rw [bind_of_ok hv]; rfl

theorem readTotalSupplyFrom_run (h : Rep l T s) :
    ∃ n : U256, (readTotalSupplyFrom l.totalSupply).run s = .ok n s ∧ n.toNat = T.totalSupply := by
  obtain ⟨n, hn, hT⟩ := h.cells.totalSupply
  refine ⟨n, ?_, hT⟩
  unfold readTotalSupplyFrom
  rw [bind_of_ok (read_run hn.value)]; rfl

theorem readBadge_run (h : Rep l T s) (k : Key) :
    (dictionaryGet l.securityBadges (D.ofKey k)).run s = .ok (T.badges k) s := by
  obtain ⟨d, hd, hk⟩ := h.tables.badges
  exact dictionaryGet_run hd.items (hk k)

theorem getBalancesUref_run (h : Rep l T s) : getBalancesUref.run s = .ok l.balances s := by
  obtain ⟨d, hd, -⟩ := h.tables.balances
  exact getUref_run hd.named

theorem getAllowancesUref_run (h : Rep l T s) : getAllowancesUref.run s = .ok l.allowances s := by
  obtain ⟨d, hd, -⟩ := h.tables.allowances
  exact getUref_run hd.named

theorem getTotalSupplyUref_run (h : Rep l T s) : getTotalSupplyUref.run s = .ok l.totalSupply s := by
  obtain ⟨n, hn, -⟩ := h.cells.totalSupply
  exact getUref_run hn.named

theorem getBadgesUref_run (h : Rep l T s) :
    (getUref SECURITY_BADGES).run s = .ok l.securityBadges s := by
  obtain ⟨d, hd, -⟩ := h.tables.badges
  exact getUref_run hd.named

/-! ### Writing -/

omit [CasperKey Key] in
/-- Writing an amount at one item of an injective addressing changes that entry only. -/
theorem holdsAmount_update {I : Type} {e : I → D.Item} (hinj : ∀ i j, e i = e j → i = j)
    {d : D.Item → Option CLValue} {f : I → ℕ} [DecidableEq I] (h : ∀ i, HoldsAmount (d (e i)) (f i))
    (i : I) (v : U256) (j : I) :
    HoldsAmount (Function.update d (e i) (some (CLTyped.fromT v)) (e j))
      (Function.update f i v.toNat j) := by
  by_cases hij : j = i
  · subst hij
    simp only [Function.update_self]
    exact Or.inr ⟨v, rfl, rfl⟩
  · rw [Function.update_of_ne hij, Function.update_of_ne fun h => hij (hinj _ _ h)]
    exact h j

/-- The token with one balance changed. -/
def Token.setBalance (T : Token Key) (k : Key) (n : ℕ) : Token Key :=
  T.withLedger { T.toLedger with balances := Function.update T.balances k n }

/-- The token with another total supply. -/
def Token.setTotalSupply (T : Token Key) (n : ℕ) : Token Key :=
  T.withLedger { T.toLedger with totalSupply := n }

/-- The token with one allowance changed. -/
def Token.putAllowance (T : Token Key) (o sp : Key) (n : ℕ) : Token Key :=
  T.withLedger (T.setAllowance o sp n)

/-- The token with one badge changed. -/
def Token.putBadge (T : Token Key) (k : Key) (badge : SecurityBadge) : Token Key :=
  { T with badges := Function.update T.badges k (some badge) }

theorem writeBalanceTo_ensures (k : Key) (v : U256) :
    Ensures (Rep (D := D) l T) (writeBalanceTo l.balances k v) (Rep l (T.setBalance k v.toNat)) := by
  intro s h
  obtain ⟨d, hd, hk⟩ := h.tables.balances
  obtain ⟨a, ha, hak⟩ := h.tables.allowances
  obtain ⟨g, hg, hgk⟩ := h.tables.badges
  obtain ⟨h1, h2, -⟩ := h.tables.apart
  refine ⟨(), _, dictionaryPut_run hd.items _ _, h.cells.congr rfl rfl, ?_, h.logs.congr rfl rfl⟩
  exact {
    balances := ⟨_, ⟨hd.named, Function.update_self ..⟩,
      fun j => holdsAmount_update D.ofKey_inj hk k v j⟩
    allowances := ⟨a, ha.of_write rfl rfl h1.symm, hak⟩
    badges := ⟨g, hg.of_write rfl rfl h2.symm, hgk⟩
    apart := h.tables.apart }

theorem writeAllowanceTo_ensures (o sp : Key) (v : U256) :
    Ensures (Rep (D := D) l T) (writeAllowanceTo l.allowances o sp v)
      (Rep l (T.putAllowance o sp v.toNat)) := by
  intro s h
  obtain ⟨d, hd, hk⟩ := h.tables.allowances
  obtain ⟨b, hb, hbk⟩ := h.tables.balances
  obtain ⟨g, hg, hgk⟩ := h.tables.badges
  obtain ⟨h1, -, h3⟩ := h.tables.apart
  refine ⟨(), _, dictionaryPut_run hd.items _ _, h.cells.congr rfl rfl, ?_, h.logs.congr rfl rfl⟩
  -- the allowances are a table over pairs of keys
  have hinj : ∀ p q : Key × Key, D.ofPair p.1 p.2 = D.ofPair q.1 q.2 → p = q := fun p q hpq =>
    Prod.ext (D.ofPair_inj _ _ _ _ hpq).1 (D.ofPair_inj _ _ _ _ hpq).2
  have hupd := holdsAmount_update (e := fun p : Key × Key => D.ofPair p.1 p.2)
    (f := fun p => T.allowances p.1 p.2) hinj (fun p => hk p.1 p.2) (o, sp) v
  exact {
    balances := ⟨b, hb.of_write rfl rfl h1, hbk⟩
    allowances := ⟨_, ⟨hd.named, Function.update_self ..⟩, fun o' sp' => by
      have hp := hupd (o', sp')
      simp only [Function.update_apply, Prod.mk.injEq] at hp ⊢
      simpa only [Token.putAllowance, Token.withLedger, Ledger.setAllowance_allowances] using hp⟩
    badges := ⟨g, hg.of_write rfl rfl h3.symm, hgk⟩
    apart := h.tables.apart }

theorem putBadge_ensures (k : Key) (badge : SecurityBadge) :
    Ensures (Rep (D := D) l T) (dictionaryPut l.securityBadges (D.ofKey k) badge)
      (Rep l (T.putBadge k badge)) := by
  intro s h
  obtain ⟨d, hd, hk⟩ := h.tables.badges
  obtain ⟨b, hb, hbk⟩ := h.tables.balances
  obtain ⟨a, ha, hak⟩ := h.tables.allowances
  obtain ⟨-, h2, h3⟩ := h.tables.apart
  refine ⟨(), _, dictionaryPut_run hd.items _ _, h.cells.congr rfl rfl, ?_, h.logs.congr rfl rfl⟩
  exact {
    balances := ⟨b, hb.of_write rfl rfl h2, hbk⟩
    allowances := ⟨a, ha.of_write rfl rfl h3, hak⟩
    badges := ⟨_, ⟨hd.named, Function.update_self ..⟩, fun j => by
      simp only [Token.putBadge]
      by_cases hj : j = k
      · subst hj; simp
      · rw [Function.update_of_ne hj, Function.update_of_ne fun h => hj (D.ofKey_inj _ _ h)]
        exact hk j⟩
    apart := h.tables.apart }

theorem writeTotalSupplyTo_ensures (v : U256) :
    Ensures (Rep (D := D) l T) (writeTotalSupplyTo l.totalSupply v)
      (Rep l (T.setTotalSupply v.toNat)) := by
  intro s h
  obtain ⟨n, hn, -⟩ := h.cells.totalSupply
  obtain ⟨m, hm, hmode⟩ := h.cells.eventsMode
  have hne : ∀ {u}, u ∈ [l.name, l.symbol, l.decimals, l.enableMintBurn, l.eventsMode] →
      u ≠ l.totalSupply := fun hu he => h.cells.apart (he ▸ hu)
  refine ⟨(), _, rfl, ?_, h.tables.congr rfl rfl, h.logs.congr rfl rfl⟩
  exact {
    name := h.cells.name.of_write rfl rfl (hne (by simp))
    symbol := h.cells.symbol.of_write rfl rfl (hne (by simp))
    decimals := h.cells.decimals.of_write rfl rfl (hne (by simp))
    enableMintBurn := h.cells.enableMintBurn.of_write rfl rfl (hne (by simp))
    eventsMode := ⟨m, hm.of_write rfl rfl (hne (by simp)), hmode⟩
    totalSupply := ⟨v, ⟨hn.named, Function.update_self ..⟩, rfl⟩
    apart := h.cells.apart }

/-- Recording an event appends it to the log of a token that keeps one. -/
theorem recordEventDictionary_ensures (event : Event Key) :
    Ensures (Rep (D := D) l T) (recordEventDictionary event) (Rep l (T.record event)) := by
  intro s h
  obtain ⟨m, hm, hmode⟩ := h.cells.eventsMode
  unfold recordEventDictionary
  rw [bind_of_ok (readFrom_run hm), hmode]
  simp only [unwrapOrRevert_ok, pure_bind]
  cases hT : T.eventsMode with
  | NoEvents =>
    -- nothing is recorded, and the log of such a token is empty
    refine ⟨(), s, rfl, h.cells, h.tables, ?_, ?_⟩
    · intro hc; simp [Token.record, hT] at hc
    · intro _; simp [Token.record, hT, h.logs.none (by simp [hT])]
  | CES =>
    obtain ⟨hn, hl⟩ := h.logs.kept hT
    have hrun : (emit event).run s = .ok () { s with
        logs := Function.update s.logs l.events (some (T.log ++ [event]))
        writes := s.writes + 1 } := by
      unfold emit EStateM.run
      simp only [hn, Option.bind_some, CasperKey.intoURef_ofURef, hl]
    refine ⟨(), _, hrun, h.cells.congr rfl rfl, h.tables.congr rfl rfl, ?_, ?_⟩
    · intro _; exact ⟨hn, by simp [Token.record, hT]⟩
    · intro hc; exact absurd hT hc

/-! ### Views -/

theorem HoldsAmount.toNat_getD {item : Option CLValue} {n : ℕ} (h : HoldsAmount item n) :
    ((item.bind CLTyped.intoT : Option U256).getD 0).toNat = n := by
  rcases h with ⟨rfl, rfl⟩ | ⟨v, rfl, rfl⟩
  · rfl
  · simp

theorem Store.Cell.value_eq {V : Type} [CLTyped V] {name : String} {u : URef} {v : V}
    (h : s.Cell name u v) : s.value V name = some v := by
  simp [Store.value, Store.uref, h.named, h.value]

theorem Store.Dict.item_eq {V : Type} [CLTyped V] {name : String} {u : URef}
    {d : D.Item → Option CLValue} (h : s.Dict name u d) (i : D.Item) :
    s.item V name i = (d i).bind CLTyped.intoT := by
  simp [Store.item, Store.uref, h.named, h.items]

theorem Rep.balance (h : Rep l T s) (k : Key) : (s.balance k).toNat = T.balances k := by
  obtain ⟨d, hd, hk⟩ := h.tables.balances
  unfold Store.balance
  rw [hd.item_eq]; exact (hk k).toNat_getD

theorem Rep.allowance (h : Rep l T s) (o sp : Key) : (s.allowance o sp).toNat = T.allowances o sp := by
  obtain ⟨d, hd, hk⟩ := h.tables.allowances
  unfold Store.allowance
  rw [hd.item_eq]; exact (hk o sp).toNat_getD

theorem Rep.badge (h : Rep l T s) (k : Key) : s.badge k = T.badges k := by
  obtain ⟨d, hd, hk⟩ := h.tables.badges
  unfold Store.badge
  rw [hd.item_eq, hk k]
  cases T.badges k with
  | none => rfl
  | some b => simp

theorem Rep.totalSupply (h : Rep l T s) : s.totalSupply.toNat = T.totalSupply := by
  obtain ⟨n, hn, hT⟩ := h.cells.totalSupply
  unfold Store.totalSupply
  rw [hn.value_eq]; exact hT

theorem Rep.enableMintBurn (h : Rep l T s) : s.enableMintBurn = T.enableMintBurn := by
  unfold Store.enableMintBurn
  rw [h.cells.enableMintBurn.value_eq]; rfl

theorem Rep.eventsMode (h : Rep l T s) : EventsMode.tryFrom s.eventsMode = .ok T.eventsMode := by
  obtain ⟨m, hm, hmode⟩ := h.cells.eventsMode
  unfold Store.eventsMode
  rw [hm.value_eq]; exact hmode

theorem Rep.log (h : Rep l T s) (hm : T.eventsMode = .CES) : s.log = T.log := by
  obtain ⟨hn, hl⟩ := h.logs.kept hm
  simp [Store.log, Store.uref, hn, hl]

end Cep18
