import Cep18.Proof.Deploy
import Cep18.Proof.Names
import Cep18.Spec.Modalities

/-!
# An installation goes through

`installContract_outcome`: on a host with addresses to hand out, an installation whose
arguments are well formed does what its events mode decides. The proof walks through
the program, and keeps count of the addresses still unused (`Store.Fresh`).
-/

namespace Cep18

open Program Constants

variable {Key : Type} [CasperKey Key]

section Host

variable {D : ItemKeys Key} {s s' : Store Key D} {n k : ℕ}

/-- **Handing out `k` addresses** leaves those after them fresh. -/
theorem Store.Fresh.advance (h : s.Fresh (k + n)) (ha : s'.address = s.address)
    (hnext : s'.next = s.next + k)
    (hu : ∀ u, s'.inUse u = true → s.inUse u = true ∨ ∃ i < k, u = s.address (s.next + i))
    (hc : ∀ c, (s'.contracts c).isSome →
      (s.contracts c).isSome ∨ ∃ i < k, c = s.address (s.next + i))
    (hp : ∀ p, (s'.packages p).isSome →
      (s.packages p).isSome ∨ ∃ i < k, p = s.address (s.next + i)) : s'.Fresh n := by
  have hat : ∀ i, s'.address (s'.next + i) = s.address (s.next + (k + i)) := by
    intro i
    rw [ha, hnext, Nat.add_assoc]
  -- what has been handed out comes before
  have hfree : ∀ {used used' : BitVec 256 → Prop},
      (∀ a, used' a → used a ∨ ∃ i < k, a = s.address (s.next + i)) →
      (∀ i < k + n, ¬ used (s.address (s.next + i))) →
      ∀ i < n, ¬ used' (s'.address (s'.next + i)) := by
    intro used used' hcases hunused i hi hin
    rw [hat] at hin
    rcases hcases _ hin with hold | ⟨j, hj, he⟩
    · exact hunused (k + i) (by omega) hold
    · have hij := h.distinct (k + i) (by omega) j (by omega) he
      omega
  have hurefs := hfree hu fun i hi => by simp [h.urefs i hi]
  have hcontracts := hfree hc fun i hi => by simp [h.contracts i hi]
  have hpackages := hfree hp fun i hi => by simp [h.packages i hi]
  refine ⟨fun i hi j hj he => ?_, fun i hi => ?_, fun i hi => ?_, fun i hi => ?_⟩
  · rw [hat, hat] at he
    have hij := h.distinct (k + i) (by omega) (k + j) (by omega) he
    omega
  · simpa using hurefs i hi
  · simpa using hcontracts i hi
  · simpa using hpackages i hi

/-- What hands out no address leaves them all fresh. -/
theorem Store.Fresh.congr (h : s.Fresh n) (ha : s'.address = s.address) (hn : s'.next = s.next)
    (hu : ∀ u, s'.inUse u = true → s.inUse u = true) (hc : s'.contracts = s.contracts)
    (hp : s'.packages = s.packages) : s'.Fresh n := by
  refine Store.Fresh.advance (k := 0) (by rwa [Nat.zero_add]) ha hn (fun u hin => Or.inl (hu u hin))
    (fun c hin => ?_) fun p hin => ?_
  · rw [hc] at hin
    left; exact hin
  · rw [hp] at hin
    left; exact hin

/-- What is in use after a write to one URef was in use before, or is that URef. -/
theorem inUse_of_update {v : URef} (h : s'.inUse v = true) (u : URef)
    (hvalues : v ≠ u → s'.values v = s.values v) (hdicts : v ≠ u → s'.dicts v = s.dicts v)
    (hlogs : v ≠ u → s'.logs v = s.logs v) : s.inUse v = true ∨ v = u := by
  by_cases hv : v = u
  · right; exact hv
  · left
    unfold Store.inUse at h ⊢
    rw [hvalues hv, hdicts hv, hlogs hv] at h
    exact h

section Next

variable (h : s.Fresh (1 + n))
include h

theorem Store.Fresh.next_urefs : s.inUse (s.address s.next) = false := by
  have hu := h.urefs 0 (by omega)
  rwa [Nat.add_zero] at hu

/-- One URef is handed out. -/
theorem Store.Fresh.advance_uref (ha : s'.address = s.address) (hnext : s'.next = s.next + 1)
    (hc : s'.contracts = s.contracts) (hp : s'.packages = s.packages)
    (hvalues : ∀ v, v ≠ s.address s.next → s'.values v = s.values v)
    (hdicts : ∀ v, v ≠ s.address s.next → s'.dicts v = s.dicts v)
    (hlogs : ∀ v, v ≠ s.address s.next → s'.logs v = s.logs v) : s'.Fresh n := by
  refine h.advance ha hnext (fun u hu => ?_) (fun c hin => ?_) fun p hin => ?_
  · have hcases := inUse_of_update hu (s.address s.next) (hvalues u) (hdicts u) (hlogs u)
    exact hcases.imp_right fun he => ⟨0, one_pos, he⟩
  · rw [hc] at hin
    left; exact hin
  · rw [hp] at hin
    left; exact hin

theorem newURef_fresh {V : Type} [CLTyped V] (v : V) :
    ∃ u s', (newURef v : HostM Key D URef).run s = .ok u s' ∧ s'.Fresh n := by
  refine ⟨s.address s.next, _, if_neg (by simp [h.next_urefs]), ?_⟩
  exact h.advance_uref rfl rfl rfl rfl (fun _ hne => Function.update_of_ne hne _ _)
    (fun _ _ => rfl) fun _ _ => rfl

theorem newDictionary_fresh {name : String} (hname : name ≠ "") (hn : s.named name = none) :
    ∃ u s', (newDictionary name : HostM Key D URef).run s = .ok u s' ∧ s'.Fresh n := by
  have hok : ¬ (name = "" ∨ (s.named name).isSome) := by simp [hname, hn]
  refine ⟨s.address s.next, _, (if_neg hok).trans (if_neg (by simp [h.next_urefs])), ?_⟩
  exact h.advance_uref rfl rfl rfl rfl (fun _ _ => rfl)
    (fun _ hne => Function.update_of_ne hne _ _) fun _ _ => rfl

theorem cesInit_fresh (hn : s.named EVENTS_DICT = none) :
    ∃ u s', (cesInit : HostM Key D Unit).run s = .ok u s' ∧ s'.Fresh n := by
  refine ⟨(), _, if_neg (by simp [h.next_urefs, hn]), ?_⟩
  exact h.advance_uref rfl rfl rfl rfl (fun _ _ => rfl) (fun _ _ => rfl)
    fun _ hne => Function.update_of_ne hne _ _

theorem addContractVersion_fresh {package : HashAddr} {p : ContractPackage}
    (hp : s.packages package = some p) (entryPoints : List EntryPoint)
    (namedKeys : NamedKeys Key) :
    ∃ r s', (addContractVersion package entryPoints namedKeys :
      HostM Key D (HashAddr × ℕ)).run s = .ok r s' ∧ s'.Fresh n := by
  have hc := h.contracts 0 (by omega)
  rw [Nat.add_zero] at hc
  unfold addContractVersion EStateM.run
  simp only [hp]
  refine ⟨_, _, if_neg (by simp [hc]), ?_⟩
  refine h.advance rfl rfl (fun _ hin => Or.inl hin) (fun c hin => ?_) fun q hq => ?_
  · by_cases he : c = s.address s.next
    · right; exact ⟨0, one_pos, he⟩
    · left
      simp only [Function.update_of_ne he] at hin
      exact hin
  · left
    by_cases he : q = package
    · rw [he, hp]; rfl
    · simp only [Function.update_of_ne he] at hq
      exact hq

end Next

theorem createContractPackage_fresh (h : s.Fresh (2 + n)) :
    ∃ r s', (createContractPackage : HostM Key D (HashAddr × URef)).run s = .ok r s' ∧
      s'.Fresh n := by
  have hp := h.packages 0 (by omega)
  have hu := h.urefs 1 (by omega)
  rw [Nat.add_zero] at hp
  refine ⟨(s.address s.next, s.address (s.next + 1)), _, if_neg (by simp [hp, hu]), ?_⟩
  refine h.advance rfl rfl (fun u hin => ?_) (fun _ hin => Or.inl hin) fun p hin => ?_
  · have hcases := inUse_of_update (s := s) hin (s.address (s.next + 1))
      (fun hne => Function.update_of_ne hne _ _) (fun _ => rfl) (fun _ => rfl)
    exact hcases.imp_right fun he => ⟨1, one_lt_two, he⟩
  · by_cases he : p = s.address s.next
    · right; exact ⟨0, two_pos, he⟩
    · left
      simp only [Function.update_of_ne he] at hin
      exact hin

theorem putKey_fresh (h : s.Fresh n) {name : String} {key : Key} {r : Unit}
    (hput : (putKey name key : HostM Key D Unit).run s = .ok r s') : s'.Fresh n := by
  obtain rfl := putKey_ok hput
  exact h.congr rfl rfl (fun _ hu => hu) rfl rfl

theorem newContract_fresh (h : s.Fresh (3 + n)) (entryPoints : List EntryPoint)
    (namedKeys : NamedKeys Key) (hashName accessName : String) :
    ∃ r s', (newContract entryPoints namedKeys hashName accessName :
      HostM Key D (HashAddr × ℕ)).run s = .ok r s' ∧ s'.Fresh n := by
  unfold newContract
  obtain ⟨⟨package, access⟩, s₁, h₁, hs₁⟩ :=
    createContractPackage_fresh (n := 1 + n) (by rwa [← Nat.add_assoc])
  obtain ⟨s₂, h₂⟩ : ∃ s₂, (putKey hashName (ofHash package) : HostM Key D Unit).run s₁ =
      .ok () s₂ := ⟨_, rfl⟩
  obtain ⟨s₃, h₃⟩ : ∃ s₃, (putKey accessName (ofURef access) : HostM Key D Unit).run s₂ =
      .ok () s₃ := ⟨_, rfl⟩
  have hp : s₃.packages package = some ⟨access, []⟩ := by
    obtain ⟨-, -, he₁⟩ := createContractPackage_ok h₁
    rw [putKey_ok h₃, putKey_ok h₂, he₁]
    exact Function.update_self ..
  obtain ⟨r, s', h₄, hs'⟩ := addContractVersion_fresh (putKey_fresh (putKey_fresh hs₁ h₂) h₃) hp
    entryPoints namedKeys
  refine ⟨r, s', ?_, hs'⟩
  rw [bind_of_ok h₁, bind_of_ok h₂, bind_of_ok h₃]; exact h₄

theorem disableContractVersion_fresh (h : s.Fresh n) {package contract : HashAddr} {r : Unit}
    (hdisable : (disableContractVersion package contract : HostM Key D Unit).run s = .ok r s') :
    s'.Fresh n := by
  obtain ⟨p, hp, rfl⟩ := disableContractVersion_ok hdisable
  have h₀ : s.Fresh (0 + n) := by rwa [Nat.zero_add]
  refine h₀.advance rfl rfl (fun _ hu => Or.inl hu) (fun _ hc => Or.inl hc) fun q hq => Or.inl ?_
  by_cases he : q = package
  · rw [he, hp]; rfl
  · simp only [Function.update_of_ne he] at hq
    exact hq

theorem dictionaryPut_fresh (h : s.Fresh n) {V : Type} [CLTyped V] {u : URef} {i : D.Item}
    {v : V} {r : Unit} (hput : (dictionaryPut u i v : HostM Key D Unit).run s = .ok r s') :
    s'.Fresh n := by
  obtain ⟨d, hd, rfl⟩ := dictionaryPut_ok hput
  refine h.congr rfl rfl (fun w hw => ?_) rfl rfl
  rcases inUse_of_update (s := s) hw u (fun _ => rfl) (fun hne => Function.update_of_ne hne _ _)
    (fun _ => rfl) with hw | rfl
  · exact hw
  · exact inUse_of_items hd

end Host

/-! ### The walk -/

/-- The outcome is an error with which `check` rejects, or no error if it accepts. -/
def DecidedBy {σ α β : Type} (check : Except Cep18Error β) (r : EStateM.Result ApiError σ α) :
    Prop :=
  match check with
  | .ok _ => ∃ a s', r = .ok a s'
  | .error e => ∃ s', r = .error e.toApi s'

/-- What has gone through decides nothing. -/
theorem DecidedBy.of_ok {σ α β γ : Type} {x : EStateM ApiError σ α} {f : α → EStateM ApiError σ γ}
    {s s' : σ} {a : α} {check : Except Cep18Error β} (hx : x.run s = .ok a s')
    (hf : DecidedBy check ((f a).run s')) : DecidedBy check ((x >>= f).run s) := by
  rw [bind_of_ok hx]; exact hf

/-- Nor does what cannot stop. -/
theorem DecidedBy.bind_pure {σ α β γ : Type} {x : EStateM ApiError σ α} {s : σ}
    {check : Except Cep18Error β} (h : DecidedBy check (x.run s)) (f : α → γ) :
    DecidedBy check ((x >>= fun a => (pure (f a) : EStateM ApiError σ γ)).run s) := by
  cases check with
  | error e =>
    obtain ⟨s', hx⟩ := h
    exact ⟨s', bind_of_error hx⟩
  | ok b =>
    obtain ⟨a, s', hx⟩ := h
    exact ⟨f a, s', bind_of_ok hx⟩

theorem DecidedBy.onState {σ τ α β : Type} {check : Except Cep18Error β}
    {r : EStateM.Result ApiError σ α} (h : DecidedBy check r) (φ : σ → τ) :
    DecidedBy check (Program.onState φ r) := by
  cases check with
  | error e =>
    obtain ⟨s', rfl⟩ := h
    exact ⟨φ s', rfl⟩
  | ok b =>
    obtain ⟨a, s', rfl⟩ := h
    exact ⟨a, φ s', rfl⟩

variable {D : DistinctItemKeys Key} {l : Layout} {s s' : Store Key D.toItemKeys} {env : Env Key}
variable {n : ℕ}

/-- The events are initialised if their mode is a known one. -/
theorem initEvents_outcome {u : URef} {m : UInt8} (hm : s.Cell EVENTS_MODE u m)
    (hs : s.Fresh (1 + n)) (hn : s.named EVENTS_DICT = none) :
    DecidedBy (EventsMode.tryFrom m) ((initEvents : HostM Key D.toItemKeys Unit).run s) := by
  unfold initEvents
  rw [bind_of_ok (readFrom_run hm)]
  cases EventsMode.tryFrom m with
  | error e => exact ⟨s, rfl⟩
  | ok mode =>
    rw [unwrapOrRevert_ok, pure_bind]
    cases mode with
    | NoEvents => exact ⟨_, _, rfl⟩
    | CES =>
      obtain ⟨r, s', hr, -⟩ := cesInit_fresh hs hn
      exact ⟨r, s', hr⟩

/-- **`init` goes through** if the events mode is a known one. -/
theorem init_outcome {name symbol : String} {decimals flag m : UInt8} {supply : U256}
    {packageHash : Key} {adminList minterList : Option (List Key)}
    (hp : Prepared l name symbol decimals flag m supply s) (hs : s.Fresh 4)
    (hfree : ∀ n, n ∉ valueNames → s.named n = none)
    (hpackage : env.arg? Key PACKAGE_HASH = some packageHash)
    (hsupply : env.arg? U256 TOTAL_SUPPLY = some supply)
    (hadmin : env.optArg? (List Key) ADMIN_LIST = some adminList)
    (hminter : env.optArg? (List Key) MINTER_LIST = some minterList) :
    DecidedBy (EventsMode.tryFrom m) ((init env : HostM Key D.toItemKeys Unit).run s) := by
  unfold init
  have hk : (getKey ALLOWANCES : HostM Key D.toItemKeys (Option Key)).run s = .ok none s := by
    rw [← hfree ALLOWANCES (by decide)]; rfl
  refine DecidedBy.of_ok hk ?_
  simp only [Option.isSome_none, Bool.false_eq_true, if_false]
  refine DecidedBy.of_ok (getNamedArg_run hpackage) ?_
  obtain ⟨s₁, h₁⟩ : ∃ s₁, (putKey PACKAGE_HASH packageHash : HostM Key D.toItemKeys Unit).run s =
      .ok () s₁ := ⟨_, rfl⟩
  refine DecidedBy.of_ok h₁ ?_
  have n₁ : ∀ n, n ∉ valueNames → n ≠ PACKAGE_HASH → s₁.named n = none := by
    intro n hn hne
    rw [putKey_ok h₁]
    exact (Function.update_of_ne hne _ _).trans (hfree n hn)
  -- three dictionaries, each under a name that is free
  obtain ⟨ua, s₂, h₂, hs₂⟩ := newDictionary_fresh (n := 3) (putKey_fresh hs h₁) (by decide)
    (n₁ ALLOWANCES (by decide) (by decide))
  refine DecidedBy.of_ok h₂ ?_
  have n₂ : s₂.named BALANCES = none :=
    (newDictionary_named (by decide) h₂).trans (n₁ _ (by decide) (by decide))
  obtain ⟨ub, s₃, h₃, hs₃⟩ := newDictionary_fresh (n := 2) hs₂ (by decide) n₂
  refine DecidedBy.of_ok h₃ ?_
  refine DecidedBy.of_ok (getNamedArg_run hsupply) ?_
  obtain ⟨s₄, h₄⟩ : ∃ s₄, (writeBalanceTo ub (ofAccount env.caller) supply :
      HostM Key D.toItemKeys Unit).run s₃ = .ok () s₄ :=
    ⟨_, dictionaryPut_run (newDictionary_dict h₃).items _ _⟩
  refine DecidedBy.of_ok h₄ ?_
  have n₄ : s₄.named SECURITY_BADGES = none := by
    have n₃ : s₃.named SECURITY_BADGES = none := (newDictionary_named (by decide) h₃).trans
      ((newDictionary_named (by decide) h₂).trans (n₁ _ (by decide) (by decide)))
    obtain ⟨d, -, rfl⟩ := dictionaryPut_ok h₄
    exact n₃
  obtain ⟨us, s₅, h₅, hs₅⟩ :=
    newDictionary_fresh (n := 1) (dictionaryPut_fresh hs₃ h₄) (by decide) n₄
  refine DecidedBy.of_ok h₅ ?_
  obtain ⟨s₆, h₆⟩ : ∃ s₆, (dictionaryPut us (D.ofKey (ofAccount env.caller)) SecurityBadge.Admin :
      HostM Key D.toItemKeys Unit).run s₅ = .ok () s₆ :=
    ⟨_, dictionaryPut_run (newDictionary_dict h₅).items _ _⟩
  refine DecidedBy.of_ok h₆ ?_
  refine DecidedBy.of_ok (getOptionalNamedArg_run hadmin) ?_
  refine DecidedBy.of_ok (getOptionalNamedArg_run hminter) ?_
  -- the events, and the rest
  have hp₆ := init_prepared h₁ h₂ h₃ h₄ h₅ h₆ hp
  have n₆ : s₆.named EVENTS_DICT = none :=
    (init_named h₁ h₂ h₃ h₄ h₅ h₆ (by decide)).trans (hfree _ (by decide))
  have h₇ := initEvents_outcome (n := 0) hp₆.eventsMode (dictionaryPut_fresh hs₅ h₆) n₆
  cases hm : EventsMode.tryFrom m with
  | error e =>
    rw [hm] at h₇
    obtain ⟨s₇, h₇⟩ := h₇
    exact ⟨s₇, bind_of_error h₇⟩
  | ok mode =>
    rw [hm] at h₇
    obtain ⟨_, s₇, h₇⟩ := h₇
    refine DecidedBy.of_ok h₇ ?_
    obtain ⟨_, _, r, s', -, hrun, -⟩ := init_rest h₁ h₂ h₃ h₄ h₅ h₆ hp h₇ adminList minterList
    exact ⟨r, s', hrun⟩

theorem valueKeys_eq_none {l : Layout} {n : String} (hn : n ∉ valueNames) :
    (valueKeys l : NamedKeys Key) n = none := by
  simp only [valueNames, List.mem_cons, List.not_mem_nil, or_false, not_or] at hn
  obtain ⟨h₁, h₂, h₃, h₄, h₅, h₆⟩ := hn
  unfold valueKeys
  rw [Function.update_of_ne h₆, Function.update_of_ne h₅, Function.update_of_ne h₄,
    Function.update_of_ne h₃, Function.update_of_ne h₂, Function.update_of_ne h₁]

/-- **An installation with well-formed arguments** does what its events mode decides, if the
host has addresses for it. -/
theorem installContract_outcome (name : String) {symbol : String} {decimals : UInt8} {supply : U256}
    {mode flag : Option UInt8} {adminList minterList : Option (List Key)} (hs : s.Fresh 14)
    (hsymbol : env.arg? String SYMBOL = some symbol)
    (hdecimals : env.arg? UInt8 DECIMALS = some decimals)
    (hsupply : env.arg? U256 TOTAL_SUPPLY = some supply)
    (hmode : env.optArg? UInt8 EVENTS_MODE = some mode)
    (hadmin : env.optArg? (List Key) ADMIN_LIST = some adminList)
    (hminter : env.optArg? (List Key) MINTER_LIST = some minterList)
    (hflag : env.optArg? UInt8 ENABLE_MINT_BURN = some flag) :
    DecidedBy (EventsMode.tryFrom (mode.getD 0))
      ((installContract env name : HostM Key D.toItemKeys Unit).run s) := by
  unfold installContract
  refine DecidedBy.of_ok (getNamedArg_run hsymbol) ?_
  refine DecidedBy.of_ok (getNamedArg_run hdecimals) ?_
  refine DecidedBy.of_ok (getNamedArg_run hsupply) ?_
  refine DecidedBy.of_ok (getOptionalNamedArg_run hmode) ?_
  refine DecidedBy.of_ok (getOptionalNamedArg_run hadmin) ?_
  refine DecidedBy.of_ok (getOptionalNamedArg_run hminter) ?_
  refine DecidedBy.of_ok (getOptionalNamedArg_run hflag) ?_
  -- the values
  obtain ⟨u₁, s₁, h₁, hs₁⟩ := newURef_fresh (n := 13) hs name
  obtain ⟨u₂, s₂, h₂, hs₂⟩ := newURef_fresh (n := 12) hs₁ symbol
  obtain ⟨u₃, s₃, h₃, hs₃⟩ := newURef_fresh (n := 11) hs₂ decimals
  obtain ⟨u₄, s₄, h₄, hs₄⟩ := newURef_fresh (n := 10) hs₃ supply
  obtain ⟨u₅, s₅, h₅, hs₅⟩ := newURef_fresh (n := 9) hs₄ (mode.getD 0)
  obtain ⟨u₆, s₆, h₆, hs₆⟩ := newURef_fresh (n := 8) hs₅ (flag.getD 0)
  refine DecidedBy.of_ok h₁ (DecidedBy.of_ok h₂ (DecidedBy.of_ok h₃ ?_))
  refine DecidedBy.of_ok h₄ (DecidedBy.of_ok h₅ (DecidedBy.of_ok h₆ ?_))
  obtain ⟨hstored, -, -⟩ := stored_of_newURefs h₁ h₂ h₃ h₄ h₅ h₆
  -- the contract and its named keys
  obtain ⟨⟨contract, number⟩, s₇, h₇, hs₇⟩ := newContract_fresh (n := 5) hs₆ generateEntryPoints
    (valueKeys ⟨u₁, u₂, u₃, u₄, u₅, u₆, 0, 0, 0, 0⟩) (HASH_KEY_NAME_PREFIX ++ name)
    (ACCESS_KEY_NAME_PREFIX ++ name)
  refine DecidedBy.of_ok h₇ ?_
  have hkey : ∃ package, s₇.named (HASH_KEY_NAME_PREFIX ++ name) = some (ofHash package) := by
    obtain ⟨package, access, -, -, -, -, hn, -⟩ := newContract_ok h₇
    refine ⟨package, ?_⟩
    rw [hn, Function.update_of_ne, Function.update_self]
    exact fun he => ne_access name ((hash_eq_access_iff name name).1 he)
  obtain ⟨packageHash, hkey⟩ := hkey
  refine DecidedBy.of_ok (getKey_run hkey) ?_
  rw [unwrapOrRevertWith_some, pure_bind]
  obtain ⟨s₈, h₈⟩ : ∃ s₈, (putKey (CONTRACT_NAME_PREFIX ++ name) (ofHash contract) :
      HostM Key D.toItemKeys Unit).run s₇ = .ok () s₈ := ⟨_, rfl⟩
  refine DecidedBy.of_ok h₈ ?_
  obtain ⟨version, s₉, h₉, hs₉⟩ := newURef_fresh (n := 4) (putKey_fresh hs₇ h₈) number
  refine DecidedBy.of_ok h₉ ?_
  obtain ⟨t, h₁₀⟩ : ∃ t, (putKey (CONTRACT_VERSION_PREFIX ++ name) (ofURef version) :
      HostM Key D.toItemKeys Unit).run s₉ = .ok () t := ⟨_, rfl⟩
  refine DecidedBy.of_ok h₁₀ ?_
  obtain ⟨package, access, -, -, e, -, -, hcontracts, hpackages⟩ := register_ok h₇ h₈ h₉ h₁₀
  -- the call of `init`, in the context of the contract
  refine DecidedBy.bind_pure ?_ fun _ => ()
  rw [callContract_run (by rw [hcontracts, Function.update_self])]
  · refine DecidedBy.onState ?_ _
    unfold invoke
    rw [seqRight_eq_bind]
    refine DecidedBy.bind_pure ?_ fun _ => CLValue.unit
    refine init_outcome (hstored.extends e).prepared ?_ (fun _ hn => valueKeys_eq_none hn) rfl rfl
      (initArgs_lists rfl).1 (initArgs_lists rfl).2
    exact (putKey_fresh hs₉ h₁₀).congr rfl rfl (fun _ hu => hu) rfl rfl
  · have hinit : EntryPoint.init ∈ generateEntryPoints := by decide
    refine ⟨hinit, ?_⟩
    unfold Store.isEnabled
    simp [hpackages]

end Cep18
