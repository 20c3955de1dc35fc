import Cep18.Model.Reference
import Cep18.Proof.Install
import Cep18.Spec.Account

/-!
# Names of tokens

`call` decides between installing and upgrading by one named key of the account, made
from a prefix and the name given. The prefix of access keys is that of package hashes
with `access_` behind it, so the access key of `x` is the package-hash key of
`access_x`. This is the only way in which the named keys of two tokens can meet
(`tokenKey_ne`).

* `InOrder`: what holds of an account whose names have stayed apart. `InOrder.install` and
  `InOrder.upgrade` are what one run keeps of it, `inOrder_of_reached` what a sequence does.
* `names_apart_hold`: in every sequence of runs whose new names are apart from those
  installed, each installed name keeps its token, and each run takes its own branch.
* `InOrder.misrouted`, `InOrder.overwritten`: what a name does that is not apart.
-/

namespace Cep18

open Program Constants

variable {Key : Type} [CasperKey Key] {D : ItemKeys Key}
variable {s s' : Store Key D} {env : Env Key} {name m : String}

/-! ### Which branch `call` takes -/

theorem getKey_run {k : Option Key} (h : s.named name = k) :
    (getKey name : HostM Key D (Option Key)).run s = .ok k s := by rw [← h]; rfl

theorem call_of_none (hn : env.arg? String NAME = some name)
    (hk : s.named (ACCESS_KEY_NAME_PREFIX ++ name) = none) :
    (call env : HostM Key D Unit).run s = (installContract env name).run s := by
  unfold call
  rw [bind_of_ok (getNamedArg_run hn), bind_of_ok (getKey_run hk)]

theorem call_of_some {key : Key} (hn : env.arg? String NAME = some name)
    (hk : s.named (ACCESS_KEY_NAME_PREFIX ++ name) = some key) :
    (call env : HostM Key D Unit).run s = (upgrade name).run s := by
  unfold call
  rw [bind_of_ok (getNamedArg_run hn), bind_of_ok (getKey_run hk)]

theorem call_unnamed (hn : env.arg? String NAME = none) :
    Refused (call env : HostM Key D Unit) s := (getNamedArg_refused hn).bind

/-! ### The named keys of two tokens -/

/-- The prefixes of the named keys of a token. -/
def tokenPrefixes : List String :=
  [HASH_KEY_NAME_PREFIX, ACCESS_KEY_NAME_PREFIX, CONTRACT_NAME_PREFIX, CONTRACT_VERSION_PREFIX]

theorem ne_access (n : String) : n ≠ "access_" ++ n := by
  intro h
  have hl := congrArg String.length h
  rw [String.length_append] at hl
  have h7 : "access_".length = 7 := by decide
  omega

/-- **Named keys of different tokens differ**, unless one name is the other with `access_`
in front. -/
theorem tokenKey_ne (hne : m ≠ name) (h1 : name ≠ "access_" ++ m) (h2 : m ≠ "access_" ++ name)
    {p q : String} (hp : p ∈ tokenPrefixes) (hq : q ∈ tokenPrefixes) : p ++ m ≠ q ++ name := by
  have same (r : String) : r ++ m ≠ r ++ name := fun h => hne (String.append_right_inj r |>.1 h)
  have ha : HASH_KEY_NAME_PREFIX ++ m ≠ ACCESS_KEY_NAME_PREFIX ++ name :=
    fun h => h2 ((hash_eq_access_iff m name).1 h)
  have hb : ACCESS_KEY_NAME_PREFIX ++ m ≠ HASH_KEY_NAME_PREFIX ++ name :=
    fun h => h1 ((hash_eq_access_iff name m).1 h.symm)
  simp only [tokenPrefixes, List.mem_cons, List.not_mem_nil, or_false] at hp hq
  rcases hp with rfl | rfl | rfl | rfl <;> rcases hq with rfl | rfl | rfl | rfl
  · exact same _
  · exact ha
  · exact hash_ne_contract m name
  · exact hash_ne_version m name
  · exact hb
  · exact same _
  · exact access_ne_contract m name
  · exact access_ne_version m name
  · exact (hash_ne_contract name m).symm
  · exact (access_ne_contract name m).symm
  · exact same _
  · exact contract_ne_version m name
  · exact (hash_ne_version name m).symm
  · exact (access_ne_version name m).symm
  · exact (contract_ne_version name m).symm
  · exact same _

/-- A token stays under its name, as long as nothing is taken away and its four named keys
are left alone. -/
theorem Store.HoldsToken.keep {package : HashAddr} (h : s.HoldsToken m package)
    (hp : s'.packages package = s.packages package)
    (hc : ∀ a, (s.contracts a).isSome → (s'.contracts a).isSome)
    (hv : ∀ u v, s.values u = some v → s'.values u = some v)
    (hn : ∀ p ∈ tokenPrefixes, s'.named (p ++ m) = s.named (p ++ m)) : s'.HoldsToken m package := by
  obtain ⟨p, v, number, hk⟩ := h
  exact ⟨p, v, number, {
    stored := hp.trans hk.stored
    current := hk.current
    contract := hc _ hk.contract
    numbered := hv _ _ hk.numbered
    hashKey := (hn _ (by simp [tokenPrefixes])).trans hk.hashKey
    accessKey := (hn _ (by simp [tokenPrefixes])).trans hk.accessKey
    contractKey := (hn _ (by simp [tokenPrefixes])).trans hk.contractKey
    versionKey := (hn _ (by simp [tokenPrefixes])).trans hk.versionKey }⟩

theorem Store.HoldsToken.isSome {package : HashAddr} (h : s.HoldsToken m package) :
    (s.packages package).isSome := by
  obtain ⟨p, v, number, hk⟩ := h
  rw [hk.stored]; rfl

/-! ### An installation -/

section Installed

variable {package contract : HashAddr} {access version : URef}

theorem Installed.hashKey (h : Installed name package access contract version s s') :
    s'.named (HASH_KEY_NAME_PREFIX ++ name) = some (ofHash package) := by
  have hne : HASH_KEY_NAME_PREFIX ++ name ≠ ACCESS_KEY_NAME_PREFIX ++ name :=
    fun he => ne_access name ((hash_eq_access_iff name name).1 he)
  rw [h.named, putNamed, Function.update_of_ne (hash_ne_version _ _),
    Function.update_of_ne (hash_ne_contract _ _), Function.update_of_ne hne, Function.update_self]

/-- A new token is at its first version. -/
theorem Installed.tokenKeys (h : Installed name package access contract version s s') :
    s'.TokenKeys name package ⟨access, [⟨1, contract, true⟩]⟩ ⟨1, contract, true⟩ version := by
  refine {
    stored := ?_
    current := rfl
    contract := h.contract
    numbered := h.version
    hashKey := h.hashKey
    accessKey := ?_
    contractKey := ?_
    versionKey := ?_ }
  · rw [h.packages, Function.update_self]
  · rw [h.named, putNamed, Function.update_of_ne (access_ne_version _ _),
      Function.update_of_ne (access_ne_contract _ _), Function.update_self]
  · rw [h.named, putNamed, Function.update_of_ne (contract_ne_version _ _), Function.update_self]
  · rw [h.named, putNamed, Function.update_self]

/-- A new token is under its name. -/
theorem Installed.holds (h : Installed name package access contract version s s') :
    s'.HoldsToken name package := ⟨_, _, _, h.tokenKeys⟩

/-- An installation leaves the named keys of other tokens alone. -/
theorem Installed.named_of_ne (h : Installed name package access contract version s s')
    {key : String} (hk : ∀ p ∈ tokenPrefixes, key ≠ p ++ name) : s'.named key = s.named key := by
  rw [h.named, putNamed, Function.update_of_ne (hk _ (by simp [tokenPrefixes])),
    Function.update_of_ne (hk _ (by simp [tokenPrefixes])),
    Function.update_of_ne (hk _ (by simp [tokenPrefixes])),
    Function.update_of_ne (hk _ (by simp [tokenPrefixes]))]

theorem Installed.keeps {other : HashAddr}
    (h : Installed name package access contract version s s') (hm : s.HoldsToken m other)
    (hne : m ≠ name) (h1 : name ≠ "access_" ++ m) (h2 : m ≠ "access_" ++ name) :
    s'.HoldsToken m other := by
  have hother : other ≠ package := by
    rintro rfl
    have hs := hm.isSome
    rw [h.newPackage] at hs; cases hs
  refine hm.keep ?_ h.contracts h.values fun p hp =>
    h.named_of_ne fun q hq => tokenKey_ne hne h1 h2 hp hq
  rw [h.packages, Function.update_of_ne hother]

end Installed

/-! ### An upgrade -/

section Upgraded

variable {package previous contract : HashAddr} {p : ContractPackage} {version : URef}

/-- What an upgrade finds under a name is the token of that name. -/
theorem Upgraded.same {own : HashAddr}
    (h : Upgraded name package previous p contract version s s') (hn : s.HoldsToken name own) :
    package = own := by
  obtain ⟨k, v, number, hk⟩ := hn
  have hh := h.hashKey
  rw [hk.hashKey, Option.bind_some, CasperKey.intoHash_ofHash] at hh
  exact (Option.some.inj hh).symm

/-- What an upgrade disables is the current version, and the new one is another. -/
theorem Upgraded.replaces {v : ContractVersion} {number : URef}
    (h : Upgraded name package previous p contract version s s')
    (hk : s.TokenKeys name package p v number) : v.contract = previous ∧ contract ≠ previous := by
  have hprevious : v.contract = previous := by
    have hh := h.contractKey
    rw [hk.contractKey, Option.bind_some, CasperKey.intoHash_ofHash] at hh
    exact Option.some.inj hh
  refine ⟨hprevious, ?_⟩
  rintro rfl
  have hs := hk.contract
  rw [hprevious, h.newContract] at hs; cases hs

/-- An upgraded token is at its new version. -/
theorem Upgraded.tokenKeys {v : ContractVersion} {number : URef}
    (h : Upgraded name package previous p contract version s s')
    (hk : s.TokenKeys name package p v number) :
    s'.TokenKeys name package (p.upgraded contract previous) ⟨p.nextVersion, contract, true⟩
      version := by
  refine {
    stored := ?_
    current := p.upgraded_current (h.replaces hk).2
    contract := h.contract
    numbered := h.version
    hashKey := ?_
    accessKey := ?_
    contractKey := ?_
    versionKey := ?_ }
  · rw [h.packages, Function.update_self]
  · rw [h.named, Function.update_of_ne (hash_ne_version _ _),
      Function.update_of_ne (hash_ne_contract _ _), hk.hashKey]
  · rw [h.named, Function.update_of_ne (access_ne_version _ _),
      Function.update_of_ne (access_ne_contract _ _), hk.accessKey]; rfl
  · rw [h.named, Function.update_of_ne (contract_ne_version _ _), Function.update_self]
  · rw [h.named, Function.update_self]

/-- The upgraded token has a new current version, under its old name. -/
theorem Upgraded.holds (h : Upgraded name package previous p contract version s s')
    (hn : s.HoldsToken name package) :
    (p.upgraded contract previous).current = some ⟨p.nextVersion, contract, true⟩ ∧
      s'.HoldsToken name package := by
  obtain ⟨k, v, number, hk⟩ := hn
  obtain rfl : k = p := Option.some.inj (hk.stored.symm.trans h.stored)
  have hnew := h.tokenKeys hk
  exact ⟨hnew.current, _, _, version, hnew⟩

theorem Upgraded.keeps {other : HashAddr}
    (h : Upgraded name package previous p contract version s s') (hm : s.HoldsToken m other)
    (hother : other ≠ package) (hne : m ≠ name) (h1 : name ≠ "access_" ++ m)
    (h2 : m ≠ "access_" ++ name) : s'.HoldsToken m other := by
  refine hm.keep ?_ h.contracts h.values fun q hq => ?_
  · rw [h.packages, Function.update_of_ne hother]
  · rw [h.named,
      Function.update_of_ne (tokenKey_ne hne h1 h2 hq (by simp [tokenPrefixes])),
      Function.update_of_ne (tokenKey_ne hne h1 h2 hq (by simp [tokenPrefixes]))]

end Upgraded

/-! ### Accounts whose names have stayed apart -/

/-- Every installed name keeps its token, every name that could be installed is free, and
installed names are apart from each other. -/
structure InOrder (a : Account Key D) : Prop where
  holds : ∀ n p, a.tokens n = some p → a.store.HoldsToken n p
  free : ∀ n, a.tokens n = none → (∀ m, a.Has m → m ≠ "access_" ++ n) →
    a.store.named (ACCESS_KEY_NAME_PREFIX ++ n) = none
  apart : ∀ n m, a.Has n → a.Has m → n ≠ "access_" ++ m
  inj : ∀ n m p, a.tokens n = some p → a.tokens m = some p → n = m

variable {a a' : Account Key D}

theorem Account.has_of_some {p : HashAddr} (h : a.tokens name = some p) : a.Has name := by
  unfold Has; rw [h]; rfl

theorem Account.has_update {p : HashAddr} {t : Store Key D} :
    Has ⟨t, Function.update a.tokens name (some p)⟩ m ↔ m = name ∨ a.Has m := by
  unfold Has
  by_cases hm : m = name
  · subst hm; simp
  · simp [hm]

theorem inOrder_start (hs : s.Untouched) : InOrder (⟨s, fun _ => none⟩ : Account Key D) where
  holds n p h := by cases h
  free n _ _ := hs n
  apart n m h _ := by cases h
  inj n m p h _ := by cases h

section Steps

variable {package contract : HashAddr} {access version : URef}

/-- The token of an installed name has its access key. -/
theorem InOrder.accessKey (hg : InOrder a) {p : HashAddr} (h : a.tokens name = some p) :
    ∃ key, a.store.named (ACCESS_KEY_NAME_PREFIX ++ name) = some key := by
  obtain ⟨k, v, number, hk⟩ := hg.holds _ _ h
  exact ⟨_, hk.accessKey⟩

/-- **What an installation keeps.** -/
theorem InOrder.install (hg : InOrder a) (hfirst : a.tokens name = none)
    (hapart : ∀ m, a.Has m → name ≠ "access_" ++ m ∧ m ≠ "access_" ++ name)
    (h : Cep18.Installed name package access contract version a.store s') :
    InOrder ⟨s', Function.update a.tokens name (some package)⟩ := by
  have hold : ∀ n p, a.tokens n = some p → n ≠ name ∧ p ≠ package := by
    intro n p hn
    constructor
    · rintro rfl
      rw [hfirst] at hn; cases hn
    · rintro rfl
      have hs := (hg.holds n _ hn).isSome
      rw [h.newPackage] at hs; cases hs
  refine ⟨?_, ?_, ?_, ?_⟩
  · intro n p hn
    by_cases hne : n = name
    · subst hne
      simp only [Function.update_self] at hn
      cases hn
      exact h.holds
    · simp only [Function.update_of_ne hne] at hn
      obtain ⟨h1, h2⟩ := hapart n (Account.has_of_some hn)
      exact h.keeps (hg.holds n p hn) hne h1 h2
  · intro n hn hm
    have hne : n ≠ name := by
      rintro rfl
      simp at hn
    simp only [Function.update_of_ne hne] at hn
    have hfree := hg.free n hn fun m hhas => hm m (Account.has_update.2 (Or.inr hhas))
    have hname : name ≠ "access_" ++ n := hm name (Account.has_update.2 (Or.inl rfl))
    rw [h.named_of_ne, hfree]
    intro q hq he
    simp only [tokenPrefixes, List.mem_cons, List.not_mem_nil, or_false] at hq
    rcases hq with rfl | rfl | rfl | rfl
    · exact hname ((hash_eq_access_iff name n).1 he.symm)
    · exact hne ((String.append_right_inj _).1 he)
    · exact access_ne_contract _ _ he
    · exact access_ne_version _ _ he
  · intro n m hn hm
    rw [Account.has_update] at hn hm
    rcases hn with rfl | hn <;> rcases hm with rfl | hm
    · exact ne_access _
    · exact (hapart m hm).1
    · exact (hapart n hn).2
    · exact hg.apart n m hn hm
  · intro n m p hn hm
    by_cases h1 : n = name <;> by_cases h2 : m = name
    · rw [h1, h2]
    · subst h1
      simp only [Function.update_self, Function.update_of_ne h2] at hn hm
      cases hn
      exact absurd rfl (hold m _ hm).2
    · subst h2
      simp only [Function.update_self, Function.update_of_ne h1] at hn hm
      cases hm
      exact absurd rfl (hold n _ hn).2
    · simp only [Function.update_of_ne h1, Function.update_of_ne h2] at hn hm
      exact hg.inj n m p hn hm

variable {previous : HashAddr} {p : ContractPackage}

/-- **What an upgrade keeps.** -/
theorem InOrder.upgrade (hg : InOrder a) (hn : a.tokens name = some package)
    (h : Upgraded name package previous p contract version a.store s') :
    InOrder ⟨s', a.tokens⟩ := by
  have hhas := Account.has_of_some hn
  refine ⟨?_, ?_, hg.apart, hg.inj⟩
  · intro m other hm
    by_cases hne : m = name
    · subst hne
      obtain rfl : package = other := Option.some.inj (hn.symm.trans hm)
      exact (h.holds (hg.holds _ _ hn)).2
    · have hother : other ≠ package := by
        rintro rfl
        exact hne (hg.inj _ _ _ hm hn)
      have hhas' := Account.has_of_some hm
      exact h.keeps (hg.holds _ _ hm) hother hne (hg.apart _ _ hhas hhas') (hg.apart _ _ hhas' hhas)
  · intro m hm hfree
    rw [h.named, Function.update_of_ne (access_ne_version _ _),
      Function.update_of_ne (access_ne_contract _ _)]
    exact hg.free m hm hfree

/-- A run takes the branch its name asks for. -/
theorem InOrder.takesBranch (hg : InOrder a) (hc : a.Apart env) : a.TakesBranch env := by
  intro n hn
  constructor
  · intro hfirst
    exact call_of_none hn (hg.free n hfirst fun m hm => (hc n hn hfirst m hm).2)
  · intro package hp
    obtain ⟨key, hkey⟩ := hg.accessKey hp
    refine ⟨call_of_some hn hkey, ?_⟩
    intro s' hs'
    obtain ⟨package', previous, p, contract, version, hu⟩ := upgrade_ok hs'
    obtain rfl := hu.same (hg.holds _ _ hp)
    refine ⟨p, _, _, hu.stored, ?_, (hu.holds (hg.holds _ _ hp)).1, rfl, ?_⟩
    · rw [hu.packages, Function.update_self]
    · intro other hother
      rw [hu.packages, Function.update_of_ne hother]

/-- **One run of `call`** keeps what holds, if its name is apart when it is new. -/
theorem InOrder.session (hg : InOrder a) (hc : a.Apart env) (h : a.Session env a') : InOrder a' := by
  have hbranch := hg.takesBranch hc
  cases hr : (call env).run a.store with
  | error e t =>
    -- a reverted run creates nothing
    have hs : commit (call env) a.store = a.store := commit_of_error hr
    cases h with
    | created named first before after =>
      rw [hs, before] at after; cases after
    | kept none_created => rw [hs]; exact hg
  | ok u t =>
    have hs : commit (call env) a.store = t := commit_of_ok hr
    cases hname : env.arg? String NAME with
    | none =>
      obtain ⟨e, he⟩ := call_unnamed (s := a.store) hname
      rw [hr] at he; cases he
    | some n =>
      obtain ⟨hinstall, hupgrade⟩ := hbranch n hname
      cases hn : a.tokens n with
      | none =>
        rw [hinstall hn] at hr
        obtain ⟨package, access, contract, version, hi, -⟩ := installContract_ok hr
        have hnew := hi.holds.isSome
        cases h with
        | created named first before after =>
          rename_i n' q
          obtain rfl : n = n' := Option.some.inj (hname.symm.trans named)
          -- the only package created is the one installed
          have hq : q = package := by
            by_contra hq
            rw [hs, hi.packages, Function.update_of_ne hq, before] at after
            cases after
          subst hq
          rw [hs]
          exact hg.install hn (hc n hname hn) hi
        | kept none_created =>
          rw [← hs, none_created n hname hn package hi.newPackage] at hnew
          cases hnew
      | some package =>
        rw [(hupgrade package hn).1] at hr
        obtain ⟨package', previous, p, contract, version, hu⟩ := upgrade_ok hr
        obtain rfl := hu.same (hg.holds _ _ hn)
        cases h with
        | created named first before after =>
          rename_i n' q
          obtain rfl : n = n' := Option.some.inj (hname.symm.trans named)
          rw [hn] at first; cases first
        | kept none_created =>
          rw [hs]
          exact hg.upgrade hn hu

end Steps

/-- A sequence of runs whose new names are apart leaves the account in order. -/
theorem inOrder_of_reached (hs : s.Untouched) (h : Account.Reached Account.Apart s a) : InOrder a := by
  induction h with
  | start => exact inOrder_start hs
  | session _ hc hstep ih => exact ih.session hc hstep

/-- **Names that stay apart do not interfere.** After any sequence of runs of `call` in which
each new name is apart from those installed, every installed name keeps its token, and
the next such run takes its own branch. -/
theorem names_apart_hold {s : Store Key D} (hs : s.Untouched) {a : Account Key D}
    (h : Account.Reached Account.Apart s a) :
    (∀ name package, a.tokens name = some package → a.store.HoldsToken name package) ∧
      ∀ env, a.Apart env → a.TakesBranch env := by
  have hg := inOrder_of_reached hs h
  exact ⟨hg.holds, fun env hc => hg.takesBranch hc⟩

/-- Account 1 runs `call` with a name, and the arguments an installation needs. -/
def callNamed (name : String) : Env PlainKey := Env.session 1 (installArgs name 100 0 0)

/-- Account 1 has installed the token `x`, as the package at address 6. -/
def hasX : Account PlainKey plainItems.toItemKeys where
  store := commit (call (callNamed "x")) Store.blank
  tokens := Function.update (fun _ => none) "x" (some 6)

/-- After `x` it has installed a second token, as the package at address 19. -/
def hasXAnd (name : String) : Account PlainKey plainItems.toItemKeys where
  store := commit (call (callNamed name)) hasX.store
  tokens := Function.update hasX.tokens name (some 19)

theorem hasX_session :
    Account.Session (⟨Store.blank, fun _ => none⟩ : Account PlainKey plainItems.toItemKeys)
      (callNamed "x") hasX :=
  .created rfl rfl rfl (by decide +kernel)

theorem hasX_has (h : hasX.Has m) : m = "x" := by
  by_contra hm
  simp [Account.Has, hasX, hm] at h

/-- The tokens `x` and `y` are kept apart, and a further run with `x` is an upgrade. -/
theorem names_apart_hold_plain :
    (hasXAnd "y").store.HoldsToken "x" 6 ∧ (hasXAnd "y").store.HoldsToken "y" 19 ∧
      (hasXAnd "y").TakesBranch (callNamed "x") := by
  have h : Account.Reached Account.Apart Store.blank (hasXAnd "y") := by
    refine .session (.session .start ?_ hasX_session) ?_
      (.created rfl rfl (by decide +kernel) (by decide +kernel))
    · intro n _ _ m hm
      cases hm
    · intro n hn _ m hm
      obtain rfl : "y" = n := Option.some.inj hn
      obtain rfl := hasX_has hm
      exact ⟨by decide, by decide⟩
  obtain ⟨hholds, hbranch⟩ := names_apart_hold (fun _ => rfl) h
  refine ⟨hholds "x" 6 (by decide), hholds "y" 19 (by decide), hbranch _ ?_⟩
  intro n hn hfirst
  obtain rfl : "x" = n := Option.some.inj hn
  exact absurd hfirst (by decide)

/-- The installation of `access_x` gives the access key of `x` another value. -/
theorem accessX_overwrites :
    ¬ ∀ (s : Store PlainKey plainItems.toItemKeys) (a : Account PlainKey plainItems.toItemKeys),
      s.Untouched → Account.Reached (fun _ _ => True) s a →
      (∀ name package, a.tokens name = some package → a.store.HoldsToken name package) ∧
        ∀ env, a.TakesBranch env := by
  intro h
  have hreached : Account.Reached (fun _ _ => True) Store.blank (hasXAnd "access_x") :=
    .session (.session .start trivial hasX_session) trivial
      (.created rfl rfl (by decide +kernel) (by decide +kernel))
  obtain ⟨p, v, number, hk⟩ := (h _ _ (fun _ => rfl) hreached).1 "x" 6 (by decide)
  have hkey : (hasXAnd "access_x").store.named (ACCESS_KEY_NAME_PREFIX ++ "x") =
      some (.hash 19) := by decide +kernel
  have huref := hk.accessKey
  rw [hkey] at huref
  cases huref

/-! ### Names that are not apart -/

/-- A new name `x`, when `access_x` is installed, is upgraded instead. -/
theorem InOrder.misrouted (hg : InOrder a) (hn : env.arg? String NAME = some name)
    (hhas : a.Has ("access_" ++ name)) :
    (call env).run a.store = (Cep18.upgrade name).run a.store := by
  obtain ⟨p, hp⟩ := Option.isSome_iff_exists.1 hhas
  obtain ⟨k, v, number, hk⟩ := hg.holds _ _ hp
  have hkey := hk.hashKey
  rw [(hash_eq_access_iff _ _).2 rfl] at hkey
  exact call_of_some hn hkey

/-- A new name `access_x`, once it is installed, has the access key of `x`. -/
theorem InOrder.overwritten (hg : InOrder a) (hn : env.arg? String NAME = some ("access_" ++ m))
    (hfirst : a.tokens ("access_" ++ m) = none)
    (hapart : ∀ n, a.Has n → n ≠ "access_" ++ ("access_" ++ m))
    (h : (call env).run a.store = .ok () s') :
    ∃ package, a.store.packages package = none ∧
      s'.named (ACCESS_KEY_NAME_PREFIX ++ m) = some (ofHash package) := by
  rw [call_of_none hn (hg.free _ hfirst hapart)] at h
  obtain ⟨package, access, contract, version, hi, -⟩ := installContract_ok h
  refine ⟨package, hi.newPackage, ?_⟩
  rw [← (hash_eq_access_iff _ _).2 rfl]
  exact hi.hashKey

end Cep18
