import Cep18.Lib.Blake2b
import Cep18.Model.Client
import Cep18.Model.ItemKeys
import Cep18.Model.Reference
import Cep18.Proof.Deploy
import Cep18.Proof.Maintain
import Cep18.Spec.Entries

/-!
# What the client reads

The client derives the item keys of balances and allowances a second time and reads the
dictionaries itself. `client_reads`: it asks for what the contract stores under, and gets
the number the contract would answer.

No two entries need to be apart for this, so it cannot go through the abstract token.
What carries it is that the two dictionaries hold amounts and nothing else
(`HoldsAmounts`), which an installation starts with and every call maintains.
-/

namespace Cep18

open Program Constants Decoder Encoding

section Amounts

variable {Key : Type} [CasperKey Key] {D : ItemKeys Key} {s s' : Store Key D}

/-- What a dictionary under a named key holds for an item. -/
def Store.entry (s : Store Key D) (name : String) (item : D.Item) : Option CLValue :=
  ((s.uref name).bind s.dicts).bind fun d => d item

/-- The named key leads to a dictionary at `u`, and all it holds is amounts. -/
structure Store.Amounts (s : Store Key D) (name : String) (u : URef) : Prop where
  named : s.named name = some (ofURef u)
  items : ∃ d, s.dicts u = some d ∧ ∀ i v, d i = some v → ∃ n : U256, v = CLTyped.fromT n

/-- **Balances and allowances are dictionaries of amounts**, and neither holds the badges. -/
structure HoldsAmounts (b a g : URef) (s : Store Key D) : Prop where
  balances : s.Amounts BALANCES b
  allowances : s.Amounts ALLOWANCES a
  badges : s.named SECURITY_BADGES = some (ofURef g)
  balances_ne : b ≠ g
  allowances_ne : a ≠ g

variable {b a g : URef}

/-- Named keys and dictionaries. -/
def Store.tables (s : Store Key D) : NamedKeys Key × (URef → Option (D.Item → Option CLValue)) :=
  (s.named, s.dicts)

theorem HoldsAmounts.congr (h : HoldsAmounts b a g s) (ht : s'.tables = s.tables) :
    HoldsAmounts b a g s' := by
  obtain ⟨hn, hd⟩ := Prod.mk.inj ht
  obtain ⟨⟨hb, hb'⟩, ⟨ha, ha'⟩, hg, h1, h2⟩ := h
  exact ⟨⟨by rw [hn]; exact hb, by rw [hd]; exact hb'⟩,
    ⟨by rw [hn]; exact ha, by rw [hd]; exact ha'⟩, by rw [hn]; exact hg, h1, h2⟩

/-! ### What keeps the tables -/

theorem write_keeps {V : Type} [CLTyped V] (u : URef) (v : V) :
    Keeps Store.tables (write u v : HostM Key D Unit) := by
  intro s r s' h
  cases h; rfl

/-! ### What maintains the amounts -/

section Maintain

/-- What keeps the named keys and the dictionaries maintains the amounts. -/
theorem maintains_of_keeps {α : Type} {x : HostM Key D α} (h : Keeps Store.tables x) :
    Maintains (HoldsAmounts b a g) x := h.maintains fun _ _ ht hs => hs.congr ht

/-- A dictionary of amounts is one when another item is put somewhere, if an amount or elsewhere. -/
theorem Store.Amounts.put {V : Type} [CLTyped V] {name : String} {u w : URef} {i : D.Item} {v : V}
    {r : Unit} (h : s.Amounts name u) (hv : u = w → ∃ n : U256, CLTyped.fromT v = CLTyped.fromT n)
    (hp : (dictionaryPut w i v : HostM Key D Unit).run s = .ok r s') : s'.Amounts name u := by
  obtain ⟨d, hd, hall⟩ := h.items
  obtain ⟨e, he, rfl⟩ := dictionaryPut_ok hp
  refine ⟨h.named, ?_⟩
  by_cases huw : u = w
  · subst huw
    obtain rfl : d = e := Option.some.inj (hd.symm.trans he)
    refine ⟨_, Function.update_self .., fun j x hx => ?_⟩
    by_cases hj : j = i
    · subst hj
      rw [Function.update_self] at hx
      obtain ⟨n, hn⟩ := hv rfl
      exact ⟨n, (Option.some.inj hx).symm.trans hn⟩
    · rw [Function.update_of_ne hj] at hx
      exact hall j x hx
  · exact ⟨d, (Function.update_of_ne huw ..).trans hd, hall⟩

theorem putAmount_maintains (u : URef) (i : D.Item) (v : U256) :
    Maintains (HoldsAmounts b a g) (dictionaryPut u i v : HostM Key D Unit) := by
  intro s r s' h hp
  have hn : s'.named = s.named := by
    obtain ⟨d, -, rfl⟩ := dictionaryPut_ok hp
    rfl
  exact ⟨h.balances.put (fun _ => ⟨v, rfl⟩) hp, h.allowances.put (fun _ => ⟨v, rfl⟩) hp,
    by rw [hn]; exact h.badges, h.balances_ne, h.allowances_ne⟩

/-- Badges are put where there are no amounts. -/
theorem putBadge_maintains (i : D.Item) (badge : SecurityBadge) :
    Maintains (HoldsAmounts b a g) (dictionaryPut g i badge : HostM Key D Unit) := by
  intro s r s' h hp
  have hn : s'.named = s.named := by
    obtain ⟨d, -, rfl⟩ := dictionaryPut_ok hp
    rfl
  exact ⟨h.balances.put (fun he => absurd he h.balances_ne) hp,
    h.allowances.put (fun he => absurd he h.allowances_ne) hp,
    by rw [hn]; exact h.badges, h.balances_ne, h.allowances_ne⟩

theorem record_maintains (event : Event Key) :
    Maintains (HoldsAmounts b a g) (recordEventDictionary event : HostM Key D Unit) :=
  maintains_of_keeps (recordEventDictionary_keeps (fun _ _ _ => rfl) event)

/-- **Every write of a call maintains the dictionaries of amounts.** -/
theorem HoldsAmounts.callInvariant : CallInvariant (HoldsAmounts (D := D) b a g) where
  initialised s hs := by rw [hs.allowances.named]; rfl
  putAmount u i v := putAmount_maintains u i v
  putBadge s u s' hs hu i badge := by
    -- the dictionary is the one of the badges
    rw [getUref_run hs.badges] at hu
    cases hu
    exact putBadge_maintains i badge
  writeSupply s u s' _ _ v := maintains_of_keeps (write_keeps u v)
  record event := record_maintains event

end Maintain

/-! ### From the start -/

theorem newDictionary_amounts {name : String} {u : URef}
    (h : (newDictionary name : HostM Key D URef).run s = .ok u s') : s'.Amounts name u := by
  have hd := newDictionary_dict h
  exact ⟨hd.named, _, hd.items, fun i v hv => by cases hv⟩

theorem Store.Amounts.extends {name : String} {u : URef} (h : s.Amounts name u)
    (hs : s.Extends s') (hn : s'.named name = s.named name) : s'.Amounts name u := by
  obtain ⟨d, hd, hall⟩ := h.items
  exact ⟨hn.trans h.named, d, (hs u (inUse_of_items hd)).2.1.trans hd, hall⟩

/-- The event log has a named key of its own. -/
theorem initEvents_maintains :
    Maintains (HoldsAmounts b a g) (initEvents : HostM Key D Unit) := by
  unfold initEvents
  refine (maintains_of_keeps (readFrom_keeps _)).bind fun _ => ?_
  refine (maintains_of_keeps (unwrapOrRevert_keeps _)).bind fun _ => Maintains.ite ?_ (.pure _)
  intro s r s' hs h
  obtain ⟨e, -, -, rfl⟩ := cesInit_ok h
  have hn : ∀ n, n ≠ EVENTS_DICT →
      Function.update s.named EVENTS_DICT (some (ofURef e)) n = s.named n := fun n hn =>
    Function.update_of_ne hn _ _
  exact ⟨⟨(hn _ (by decide)).trans hs.balances.named, hs.balances.items⟩,
    ⟨(hn _ (by decide)).trans hs.allowances.named, hs.allowances.items⟩,
    (hn _ (by decide)).trans hs.badges, hs.balances_ne, hs.allowances_ne⟩

/-- **`init` leaves dictionaries of amounts.** -/
theorem init_amounts {env : Env Key} {r : Unit}
    (h : (init env : HostM Key D Unit).run s = .ok r s') : ∃ b a g, HoldsAmounts b a g s' := by
  unfold init at h
  obtain ⟨k, s₀, h₀, h⟩ := bind_eq_ok.1 h
  split at h
  · cases h
  obtain ⟨_, s₁, h₁, h⟩ := bind_eq_ok.1 h
  obtain ⟨_, s₂, h₂, h⟩ := bind_eq_ok.1 h
  obtain ⟨a, s₃, h₃, h⟩ := bind_eq_ok.1 h
  obtain ⟨b, s₄, h₄, h⟩ := bind_eq_ok.1 h
  obtain ⟨_, s₀, h₀, h⟩ := bind_eq_ok.1 h
  obtain ⟨-, rfl⟩ := getNamedArg_ok h₀
  obtain ⟨_, s₅, h₅, h⟩ := bind_eq_ok.1 h
  obtain ⟨g, s₆, h₆, h⟩ := bind_eq_ok.1 h
  -- the first two dictionaries are in use when that of the badges is made
  have ha₄ := (newDictionary_amounts h₃).extends (newDictionary_extends h₄)
    (newDictionary_named (by decide) h₄)
  have ha₅ : s₅.Amounts ALLOWANCES a := ha₄.put (fun _ => ⟨_, rfl⟩) h₅
  have hb₅ : s₅.Amounts BALANCES b := (newDictionary_amounts h₄).put (fun _ => ⟨_, rfl⟩) h₅
  have hne : ∀ {name u}, s₅.Amounts name u → u ≠ g := by
    intro name u hu
    obtain ⟨d, hd, -⟩ := hu.items
    exact ne_of_inUse (inUse_of_items hd) (newDictionary_ok h₆).2.1
  have h₆' : HoldsAmounts b a g s₆ := ⟨hb₅.extends (newDictionary_extends h₆)
      (newDictionary_named (by decide) h₆), ha₅.extends (newDictionary_extends h₆)
      (newDictionary_named (by decide) h₆), (newDictionary_dict h₆).named, hne hb₅, hne ha₅⟩
  refine ⟨b, a, g, Maintains.bind (putBadge_maintains _ _) (fun _ => ?_) _ _ _ h₆' h⟩
  refine (maintains_of_keeps (getOptionalNamedArg_keeps _ _ (by decide))).bind fun _ => ?_
  refine (maintains_of_keeps (getOptionalNamedArg_keeps _ _ (by decide))).bind fun _ => ?_
  refine initEvents_maintains.bind fun _ => ?_
  refine (Maintains.forM (fun _ => putBadge_maintains _ _) _).bind fun _ => ?_
  exact (Maintains.forM (fun _ => putBadge_maintains _ _) _).bind fun _ => record_maintains _

theorem Deployment.amounts (d : Deployment Key D) (calls : List (Call Key)) :
    ∃ b a g, HoldsAmounts b a g (d.after calls) := by
  obtain ⟨contract, s, l, symbol, decimals, supply, mode, flag, adminList, minterList, start, final,
    hran, hn, -, hd, -⟩ := deploy_init d.deployed
  obtain ⟨frame, packageHash, hinit⟩ := hran.ran
  obtain ⟨b, a, g, h⟩ := init_amounts hinit
  have hstart : HoldsAmounts b a g d.store := h.congr (Prod.ext hn hd)
  exact ⟨b, a, g, Run.foldl_invariant (fun s c hs =>
    (program_maintains HoldsAmounts.callInvariant c).commit hs) calls hstart⟩

/-- What the contract reads from a dictionary of amounts, it reads. -/
theorem Store.Amounts.read {name : String} {u : URef} (h : s.Amounts name u) (i : D.Item) :
    ∃ o : Option U256, (dictionaryGet u i).run s = .ok o s ∧
      s.entry name i = o.map CLTyped.fromT := by
  obtain ⟨d, hd, hall⟩ := h.items
  have hentry : s.entry name i = d i := by
    simp [Store.entry, Store.uref, h.named, hd]
  cases hi : d i with
  | none => exact ⟨none, dictionaryGet_run hd hi, hentry.trans hi⟩
  | some v =>
    obtain ⟨n, rfl⟩ := hall i v hi
    exact ⟨some n, dictionaryGet_run hd hi, hentry.trans hi⟩

/-- What is put under a named key and an item is there afterwards. -/
theorem entry_of_put {V : Type} [CLTyped V] {name : String} {i : D.Item} {v : V} {r : Unit}
    (h : (getUref name >>= fun u => dictionaryPut u i v : HostM Key D Unit).run s = .ok r s') :
    s'.entry name i = some (CLTyped.fromT v) := by
  obtain ⟨u, s₁, hu, hp⟩ := bind_eq_ok.1 h
  unfold getUref at hu
  obtain ⟨o, s₀, h₀, hu⟩ := bind_eq_ok.1 hu
  obtain ⟨hk, rfl⟩ := getKey_ok h₀
  obtain ⟨k, s₀, h₀, hu⟩ := bind_eq_ok.1 hu
  obtain ⟨rfl, rfl⟩ := unwrapOrRevertWith_ok h₀
  obtain ⟨huk, rfl⟩ := unwrapOrRevertWith_ok hu
  obtain ⟨d, hd, rfl⟩ := dictionaryPut_ok hp
  simp [Store.entry, Store.uref, hk, huk]

/-- The contract's answer to `balance_of`, given what its dictionary holds. -/
theorem balanceOf_answer {u : URef} (h : s.Amounts BALANCES u) {k : Key} {o : Option U256}
    (ho : (dictionaryGet u (D.ofKey k)).run s = .ok o s) {c : Call Key}
    (hc : c.entryPoint = .balanceOf) (hk : c.env.arg? Key ADDRESS = some k) :
    answer c.program s = .ok (CLTyped.fromT (o.getD 0)) := by
  obtain ⟨entryPoint, env⟩ := c
  obtain rfl : entryPoint = .balanceOf := hc
  have hrun : (balanceOf env).run s = .ok (o.getD 0) s := by
    unfold balanceOf
    rw [bind_of_ok (getNamedArg_run hk)]
    unfold getBalancesUref readBalanceFrom
    rw [bind_of_ok (getUref_run h.named), bind_of_ok ho]
    rfl
  have hprogram : (Call.program ⟨.balanceOf, env⟩).run s = .ok (CLTyped.fromT (o.getD 0)) s := by
    show (CLTyped.fromT <$> balanceOf env).run s = _
    rw [map_eq_pure_bind, bind_of_ok hrun]
    rfl
  unfold answer
  rw [hprogram]

/-- The contract's answer to `allowance`, given what its dictionary holds. -/
theorem allowance_answer {u : URef} (h : s.Amounts ALLOWANCES u) {owner spender : Key}
    {o : Option U256} (ho : (dictionaryGet u (D.ofPair owner spender)).run s = .ok o s) {c : Call Key}
    (hc : c.entryPoint = .allowance) (howner : c.env.arg? Key OWNER = some owner)
    (hspender : c.env.arg? Key SPENDER = some spender) :
    answer c.program s = .ok (CLTyped.fromT (o.getD 0)) := by
  obtain ⟨entryPoint, env⟩ := c
  obtain rfl : entryPoint = .allowance := hc
  have hrun : (allowance env).run s = .ok (o.getD 0) s := by
    unfold allowance
    rw [bind_of_ok (getNamedArg_run hspender), bind_of_ok (getNamedArg_run howner)]
    unfold getAllowancesUref readAllowanceFrom
    rw [bind_of_ok (getUref_run h.named), bind_of_ok ho]
    rfl
  have hprogram : (Call.program ⟨.allowance, env⟩).run s = .ok (CLTyped.fromT (o.getD 0)) s := by
    show (CLTyped.fromT <$> allowance env).run s = _
    rw [map_eq_pure_bind, bind_of_ok hrun]
    rfl
  unfold answer
  rw [hprogram]

end Amounts

/-! ### The client -/

variable {Key : Type}

/-- Two arrays set one behind the other in a new array of their joint length. -/
theorem setBytes_setBytes (x y : Bytes) :
    (setBytes (newUint8Array (x.length + y.length)) x 0).bind (fun bytes =>
      setBytes bytes y x.length) = .ok (x ++ y) := by
  have hx : setBytes (newUint8Array (x.length + y.length)) x 0 =
      .ok (x ++ List.replicate y.length 0) := by
    have hdrop : (newUint8Array (x.length + y.length)).drop x.length =
        List.replicate y.length 0 := by
      unfold newUint8Array
      rw [List.drop_replicate, Nat.add_sub_cancel_left]
    have hlen : (newUint8Array (x.length + y.length)).length = x.length + y.length :=
      List.length_replicate
    unfold setBytes
    rw [if_pos (by omega), Nat.zero_add, hdrop]
    rfl
  have hlen : (x ++ List.replicate y.length (0 : UInt8)).length = x.length + y.length := by
    rw [List.length_append, List.length_replicate]
  rw [hx]
  show setBytes (x ++ List.replicate y.length 0) y x.length = _
  unfold setBytes
  rw [if_pos hlen.ge, List.take_left, List.drop_of_length_le hlen.le, List.append_nil]

/-- The libraries do for the client what the contract's own do for it, and their queries
answer from the store: with an item's value, or with a failed query where it is missing. -/
structure ClientLibraries.Reads [CasperKey Key] (lib : ClientLibraries Key)
    (key : Codec BytesreprError Key) (blake2b : Bytes → Bytes)
    (s : Store Key (storedItems key blake2b)) : Prop where
  toBytes : ∀ k, lib.toBytes k = key.enc k
  blake2b : ∀ bytes, lib.blake2b bytes 32 = blake2b bytes
  found : ∀ name item v, s.entry name item = some v →
    lib.queryContractDictionary name item = .ok v
  missing : ∀ name item, s.entry name item = none →
    ∃ text, lib.queryContractDictionary name item = .error (.error text) ∧
      includes text "Error: Query failed"

section Reads

variable [CasperKey Key] {lib : ClientLibraries Key} {key : Codec BytesreprError Key}
variable {blake2b : Bytes → Bytes} {s : Store Key (storedItems key blake2b)}

/-- `balanceOf` asks for the item under which the contract keeps a balance. -/
theorem ClientLibraries.Reads.balanceOf (h : lib.Reads key blake2b s) (account : Key) :
    CEP18Client.balanceOf lib account =
      queryNumber lib BALANCES (Balances.makeDictionaryItemKey key account) := by
  unfold CEP18Client.balanceOf Balances.makeDictionaryItemKey
  rw [h.toBytes]
  rfl

/-- **`allowances` asks for the item under which the contract keeps an allowance**, although it
puts the bytes together in another way. -/
theorem ClientLibraries.Reads.allowances (h : lib.Reads key blake2b s) (owner spender : Key) :
    CEP18Client.allowances lib owner spender =
      queryNumber lib ALLOWANCES (Allowances.makeDictionaryItemKey key blake2b owner spender) := by
  have hbytes := setBytes_setBytes (key.enc owner) (key.enc spender)
  unfold CEP18Client.allowances Allowances.makeDictionaryItemKey
  simp only [h.toBytes, List.nil_append, ← h.blake2b]
  cases hx : setBytes (newUint8Array ((key.enc owner).length + (key.enc spender).length))
      (key.enc owner) 0 with
  | error e => rw [hx] at hbytes; cases hbytes
  | ok bytes =>
    rw [hx] at hbytes
    have hy : setBytes bytes (key.enc spender) (key.enc owner).length =
        .ok (key.enc owner ++ key.enc spender) := hbytes
    simp only [bind, Except.bind, hy]
    rfl

/-- The number that a query gets is the one in the store, or zero. -/
theorem ClientLibraries.Reads.queryNumber (h : lib.Reads key blake2b s) {name item : String}
    {o : Option U256} (ho : s.entry name item = o.map CLTyped.fromT) :
    queryNumber lib name item = .ok (o.getD 0).toNat := by
  unfold Cep18.queryNumber
  cases o with
  | none =>
    obtain ⟨text, hq, htext⟩ := h.missing name item ho
    simp only [hq, bind, Except.bind, htext, if_true]
    rfl
  | some v =>
    rw [h.found name item _ ho]
    rfl

/-- **One entry, as the client gets it** (`reading`): it asks for the dictionary and the item that
the contract's `write` stores under, and gets the number `n` with which the contract answers
the calls that ask for the entry; if nothing was ever written, that is zero. -/
structure ReadsEntry (lib : ClientLibraries Key) (s : Store Key (storedItems key blake2b))
    (name item : String) (reading : Except Thrown ℕ)
    (write : U256 → HostM Key (storedItems key blake2b) Unit) (asks : Call Key → Prop) (n : U256) :
    Prop where
  asked : reading = queryNumber lib name item
  written : ∀ t t' v r, (write v).run t = .ok r t' → t'.entry name item = some (CLTyped.fromT v)
  number : reading = .ok n.toNat
  answered : ∀ c, asks c → answer c.program s = .ok (CLTyped.fromT n)
  never : s.entry name item = none → n = 0

/-- What the client asks for in a dictionary of amounts, it reads. -/
theorem ClientLibraries.Reads.entry (h : lib.Reads key blake2b s) {name item : String} {u : URef}
    (hu : s.Amounts name u) {reading : Except Thrown ℕ} {asks : Call Key → Prop}
    (hasked : reading = Cep18.queryNumber lib name item)
    (hanswer : ∀ o, (dictionaryGet u item).run s = .ok o s →
      ∀ c, asks c → answer c.program s = .ok (CLTyped.fromT (o.getD (0 : U256)))) :
    ∃ n, ReadsEntry lib s name item reading
      (fun v => getUref name >>= fun u => dictionaryPut u item v) asks n := by
  obtain ⟨o, hrun, hentry⟩ := hu.read item
  have hnumber : reading = .ok (o.getD 0).toNat := hasked.trans (h.queryNumber hentry)
  refine ⟨o.getD 0, hasked, fun t t' v r hw => entry_of_put hw, hnumber, hanswer o hrun,
    fun hnone => ?_⟩
  rw [hnone] at hentry
  cases o with
  | none => rfl
  | some v => cases hentry

end Reads

/-- **The client reads what the contract stores.** In every state an installed token reaches,
`balanceOf` and `allowances` ask for the dictionary and the item under which the contract
writes the entry, and get the number with which the contract answers `balance_of` and
`allowance`. -/
theorem client_reads [CasperKey Key] (key : Codec BytesreprError Key) (blake2b : Bytes → Bytes)
    (d : Deployment Key (storedItems key blake2b)) (calls : List (Call Key))
    (lib : ClientLibraries Key) (h : lib.Reads key blake2b (d.after calls)) :
    (∀ account, ∃ n, ReadsEntry lib (d.after calls) BALANCES
      (Balances.makeDictionaryItemKey key account) (CEP18Client.balanceOf lib account)
      (fun amount => do writeBalanceTo (← getBalancesUref) account amount)
      (fun c => c.entryPoint = .balanceOf ∧ c.env.arg? Key ADDRESS = some account) n) ∧
    ∀ owner spender, ∃ n, ReadsEntry lib (d.after calls) ALLOWANCES
      (Allowances.makeDictionaryItemKey key blake2b owner spender)
      (CEP18Client.allowances lib owner spender)
      (fun amount => do writeAllowanceTo (← getAllowancesUref) owner spender amount)
      (fun c => c.entryPoint = .allowance ∧ c.env.arg? Key OWNER = some owner ∧
        c.env.arg? Key SPENDER = some spender) n := by
  obtain ⟨b, a, g, hamounts⟩ := d.amounts calls
  constructor
  · intro account
    exact h.entry hamounts.balances (h.balanceOf account) fun o ho c hc =>
      balanceOf_answer hamounts.balances ho hc.1 hc.2
  · intro owner spender
    exact h.entry hamounts.allowances (h.allowances owner spender) fun o ho c hc =>
      allowance_answer hamounts.allowances ho hc.1 hc.2.1 hc.2.2

/-- Account 1's token, with items addressed as the contract does. -/
def storedToken : Deployment PlainKey (storedItems PlainKey.codec Blake2b.hash) where
  env := Env.session 1 (installArgs "token" 100 1 1)
  name := "token"
  before := Store.blank.withDicts fun _ => none
  store := (deploy (Env.session 1 (installArgs "token" 100 1 1)) "token"
    (Store.blank.withDicts fun _ => none)).get (by decide +kernel)
  deployed := (Option.some_get _).symm

/-- Libraries whose queries are answered from a store. -/
def ClientLibraries.onStore (s : Store PlainKey (storedItems PlainKey.codec Blake2b.hash)) :
    ClientLibraries PlainKey where
  toBytes := PlainKey.codec.enc
  blake2b bytes _ := Blake2b.hash bytes
  queryContractDictionary name item :=
    match s.entry name item with
    | some value => .ok value
    | none => .error (.error "Error: Query failed: ValueNotFound")

theorem ClientLibraries.onStore_reads
    (s : Store PlainKey (storedItems PlainKey.codec Blake2b.hash)) :
    (onStore s).Reads PlainKey.codec Blake2b.hash s where
  toBytes _ := rfl
  blake2b _ := rfl
  found name item v hv := by simp only [onStore, hv]
  missing name item hv := by
    refine ⟨"Error: Query failed: ValueNotFound", ?_, by decide +kernel⟩
    simp only [onStore, hv]

/-- Account 1 lets a URef spend 30. -/
def plainApproval : Call PlainKey :=
  Call.plain 1 .approve [(SPENDER, { asKey := some (.uref 2) }), (AMOUNT, { asU256 := some 30 })]

theorem client_reads_plain :
    (∃ n : U256, CEP18Client.balanceOf (.onStore (storedToken.after [plainApproval]))
        (.account 1) = .ok n.toNat) ∧
      ∃ n : U256, CEP18Client.allowances (.onStore (storedToken.after [plainApproval]))
        (.account 1) (.uref 2) = .ok n.toNat := by
  have hreads := client_reads PlainKey.codec Blake2b.hash storedToken [plainApproval] _
    (ClientLibraries.onStore_reads _)
  obtain ⟨n, hn⟩ := hreads.1 (.account 1)
  obtain ⟨m, hm⟩ := hreads.2 (.account 1) (.uref 2)
  exact ⟨⟨n, hn.number⟩, ⟨m, hm.number⟩⟩

end Cep18
