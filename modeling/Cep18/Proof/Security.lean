import Cep18.Model.Reference
import Cep18.Proof.Events
import Cep18.Spec.Security

/-!
# Changing security

* `change_security_precedence`: a successful `change_security` gives every listed key but its
  caller the badge of the strongest list naming it, records exactly that, and touches
  nothing else.
* `changeSecurity_congr`: it depends only on which keys are listed.
-/

namespace Cep18

open Program Constants

variable {Key : Type} [CasperKey Key]

section Congr

variable {D : ItemKeys Key} {env env' : Env Key}

/-- A well-formed optional argument is read without looking at the store. -/
theorem getOptionalNamedArg_eq {V : Type} [FromArg Key V] {name : String} {invalid : Cep18Error}
    {v : Option V} (h : env.optArg? V name = some v) :
    (getOptionalNamedArgWithUserErrors env name invalid : HostM Key D (Option V)) = pure v := by
  unfold Env.optArg? at h
  unfold getOptionalNamedArgWithUserErrors getNamedArgWithUserErrors
  cases ha : env.args name with
  | none => rw [ha] at h; cases h; rfl
  | some arg =>
    rw [ha] at h
    simp only at h
    cases hv : (FromArg.fromArg arg : Option V) with
    | none => rw [hv] at h; cases h
    | some w => rw [hv] at h; cases h; simp only [hv]

/-- **`change_security` depends only on its caller and on which keys are listed.** -/
theorem changeSecurity_congr {admins admins' minters minters' nones nones' : Option (List Key)}
    (hcaller : getImmediateCallerAddress env = getImmediateCallerAddress env')
    (ha : env.optArg? (List Key) ADMIN_LIST = some admins)
    (ha' : env'.optArg? (List Key) ADMIN_LIST = some admins')
    (hm : env.optArg? (List Key) MINTER_LIST = some minters)
    (hm' : env'.optArg? (List Key) MINTER_LIST = some minters')
    (hn : env.optArg? (List Key) NONE_LIST = some nones)
    (hn' : env'.optArg? (List Key) NONE_LIST = some nones')
    (hamem : ∀ k, k ∈ admins.getD [] ↔ k ∈ admins'.getD [])
    (hmmem : ∀ k, k ∈ minters.getD [] ↔ k ∈ minters'.getD [])
    (hnmem : ∀ k, k ∈ nones.getD [] ↔ k ∈ nones'.getD []) :
    (changeSecurity env : HostM Key D Unit) = changeSecurity env' := by
  have hcheck : (secCheck env [.Admin] : HostM Key D Unit) = secCheck env' [.Admin] := by
    unfold secCheck
    rw [hcaller]
  unfold changeSecurity
  rw [hcheck, getOptionalNamedArg_eq ha, getOptionalNamedArg_eq ha', getOptionalNamedArg_eq hm,
    getOptionalNamedArg_eq hm', getOptionalNamedArg_eq hn, getOptionalNamedArg_eq hn', hcaller]
  cases hc : (getImmediateCallerAddress env' : Except Cep18Error Key) with
  | error e =>
    -- nobody called, so nothing is done with either map
    have hstop : ∀ f : Key → HostM Key D Unit, ((revert e : HostM Key D Key) >>= f) = revert e :=
      fun f => rfl
    simp only [pure_bind, unwrapOrRevert_error, hstop]
  | ok caller =>
    -- both calls build the same map
    have hmap := Token.secChangeMap_congr caller hamem hmmem hnmem
    unfold Token.secChangeMap at hmap
    simp only [pure_bind, unwrapOrRevert_ok, hmap]

end Congr

variable {D : DistinctItemKeys Key} {l : Layout} {T : Token Key} {s : Store Key D.toItemKeys}

/-- On an enabled token, a change of security by an Admin does what it asks for. -/
theorem changeSecurity_takes (h : Rep l T s) {c : Call Key} {caller : Key}
    {admins minters nones : Option (List Key)}
    (hc : c.Describes (.changeSecurity caller admins minters nones))
    (hflag : s.enableMintBurn ≠ 0) (hadmin : s.badge caller = some .Admin) :
    c.Succeeds s ∧ Rep l ((T.setBadges (Token.secChangeMap caller admins minters nones)).record
      (.ChangeSecurity caller (Token.secChangeMap caller admins minters nones))) (exec s c) := by
  have hop := Call.op?_of_describes hc (by simp)
  rw [h.enableMintBurn] at hflag
  rw [h.badge] at hadmin
  have hstep : T.step (.changeSecurity caller admins minters nones) =
      .ok ((T.setBadges (Token.secChangeMap caller admins minters nones)).record
        (.ChangeSecurity caller (Token.secChangeMap caller admins minters nones))) := by
    simp only [Token.step, if_neg hflag, hadmin]
    simp
  have hr' := exec_rep h c
  rw [hop] at hr'
  simp only [Token.exec, hstep] at hr'
  exact ⟨(succeeds_iff h c).2 ⟨_, _, hop, hstep⟩, hr'⟩

/-- A change of security overwrites the badges it asks to change. -/
theorem badge_of_changes {T' : Token Key} {s' : Store Key D.toItemKeys} {caller : Key}
    {admins minters nones : Option (List Key)} (h : Rep l T s) (h' : Rep l T' s')
    (hbadges : T'.badges = (T.setBadges (Token.secChangeMap caller admins minters nones)).badges)
    (k : Key) : s'.badge k = (badgeChange caller admins minters nones k).or (s.badge k) := by
  rw [h'.badge, hbadges, Token.setBadges_badges, Token.secChangeMap_get, h.badge]

/-- **`change_security` implements the documented precedence.** In every store that holds a
token with minting and burning enabled, a `change_security` by an Admin with well-formed
lists succeeds and gives each key the badge of the strongest list naming it, leaves out
its caller, touches no balance, allowance or supply, and records the changes it made; and
a call with the same keys in its lists runs in the same way. -/
theorem change_security_precedence (h : Rep l T s) {c : Call Key} {caller : Key}
    {admins minters nones : Option (List Key)} (hc : c.entryPoint = .changeSecurity)
    (hcaller : c.env.callerIdentity = some caller)
    (ha : c.env.optArg? (List Key) ADMIN_LIST = some admins)
    (hm : c.env.optArg? (List Key) MINTER_LIST = some minters)
    (hn : c.env.optArg? (List Key) NONE_LIST = some nones)
    (hflag : s.enableMintBurn ≠ 0) (hadmin : s.badge caller = some .Admin) :
    c.Succeeds s ∧
      (∀ k, k ≠ caller → (exec s c).badge k =
        if k ∈ nones.getD [] then some .None
        else if k ∈ admins.getD [] then some .Admin
        else if k ∈ minters.getD [] then some .Minter
        else s.badge k) ∧
      (exec s c).badge caller = s.badge caller ∧
      (∀ k, (exec s c).balance k = s.balance k) ∧
      (∀ o sp, (exec s c).allowance o sp = s.allowance o sp) ∧
      (exec s c).totalSupply = s.totalSupply ∧
      (EventsMode.tryFrom s.eventsMode = .ok .CES → ∃ changes,
        (exec s c).log = s.log ++ [.ChangeSecurity caller changes] ∧
        ∀ k, changes.get k = badgeChange caller admins minters nones k) ∧
      ∀ (c' : Call Key) (admins' minters' nones' : Option (List Key)),
        c'.entryPoint = .changeSecurity → c'.env.callerIdentity = some caller →
        c'.env.optArg? (List Key) ADMIN_LIST = some admins' →
        c'.env.optArg? (List Key) MINTER_LIST = some minters' →
        c'.env.optArg? (List Key) NONE_LIST = some nones' →
        (∀ k, k ∈ admins.getD [] ↔ k ∈ admins'.getD []) →
        (∀ k, k ∈ minters.getD [] ↔ k ∈ minters'.getD []) →
        (∀ k, k ∈ nones.getD [] ↔ k ∈ nones'.getD []) →
        c.program.run s = c'.program.run s ∧ exec s c = exec s c' := by
  obtain ⟨hs, hr⟩ := changeSecurity_takes h ⟨hc, hcaller, ha, hm, hn⟩ hflag hadmin
  have hbadge := badge_of_changes h hr rfl
  refine ⟨hs, ?_, ?_, ?_, ?_, ?_, ?_, ?_⟩
  · intro k hk
    rw [hbadge, badgeChange, if_neg hk]
    simp only [listed_iff]
    split_ifs <;> rfl
  · rw [hbadge, badgeChange, if_pos rfl]; rfl
  · intro k
    apply BitVec.eq_of_toNat_eq
    rw [hr.balance, h.balance]; rfl
  · intro o sp
    apply BitVec.eq_of_toNat_eq
    rw [hr.allowance, h.allowance]; rfl
  · apply BitVec.eq_of_toNat_eq
    rw [hr.totalSupply, h.totalSupply]; rfl
  · intro hmode
    rw [h.eventsMode] at hmode
    have hces : T.eventsMode = .CES := Except.ok.inj hmode
    refine ⟨_, ?_, Token.secChangeMap_get caller admins minters nones⟩
    rw [hr.log hces, h.log hces]
    exact Token.record_log (T := T.setBadges _) hces _
  · intro c' admins' minters' nones' hc' hcaller' ha' hm' hn' hamem hmmem hnmem
    have hid : getImmediateCallerAddress c.env = getImmediateCallerAddress c'.env :=
      (callerIdentity_eq_some.1 hcaller).trans (callerIdentity_eq_some.1 hcaller').symm
    have hprogram : (c.program : HostM Key D.toItemKeys CLValue) = c'.program := by
      unfold Call.program
      rw [hc, hc']
      unfold invoke
      rw [changeSecurity_congr hid ha ha' hm hm' hn hn' hamem hmmem hnmem]
    refine ⟨by rw [hprogram], ?_⟩
    unfold exec
    rw [hprogram]

/-- Account 1 makes accounts 2 and 3 minters and takes every right from account 3. -/
def securing : Call PlainKey :=
  Call.plain 1 .changeSecurity [(MINTER_LIST, { asKeys := some [.account 2, .account 3] }),
    (NONE_LIST, { asKeys := some [.account 3] })]

/-- It leaves account 3 with no rights. -/
theorem change_security_precedence_plain :
    (exec plainToken.store securing).badge (.account 3) = some .None := by
  obtain ⟨c, l, -, hr⟩ := plainToken.rep
  have hcaller : securing.env.callerIdentity = some (.account 1) := rfl
  have h := (change_security_precedence hr (by rfl) hcaller rfl rfl rfl (by decide +kernel)
    (by decide +kernel)).2.1 (.account 3) (by decide)
  rw [h]
  rfl

/-! ### The client's lists -/

section Client

omit [CasperKey Key] in
/-- The arguments the client sends, as the contract reads them. -/
theorem changeSecurity_args {package contract : HashAddr} {args : ChangeSecurityArgs Key}
    {sender : AccountHash} {c : Call Key}
    (hc : CEP18Client.changeSecurity package contract args sender = .ok c) :
    c.entryPoint = .changeSecurity ∧
      c.env.callStack = [.Session sender, .StoredContract package contract] ∧
      c.env.optArg? (List Key) ADMIN_LIST = some args.adminList ∧
      c.env.optArg? (List Key) MINTER_LIST = some args.minterList ∧
      c.env.optArg? (List Key) NONE_LIST = some args.noneList := by
  obtain ⟨admins, minters, burners, mintAndBurners, nones⟩ := args
  unfold CEP18Client.changeSecurity at hc
  simp only at hc
  split_ifs at hc
  obtain rfl := Except.ok.inj hc
  refine ⟨rfl, rfl, ?_, ?_, ?_⟩
  -- a list is found under its own name, whichever others were sent
  all_goals
    cases admins <;> cases minters <;> cases burners <;> cases mintAndBurners <;> cases nones <;> rfl

end Client

/-- **Which lists take effect.** When an Admin of an enabled token sends lists through the
client, every listed key but its own ends up with the badge of the strongest list naming it
exactly if each key of `burnerList` and `mintAndBurnList` is on `noneList` or `adminList`
too. The contract knows no other groups and ignores these two lists. -/
theorem lists_take_effect_iff (d : Deployment Key D.toItemKeys) (calls : List (Call Key))
    {package contract : HashAddr} {args : ChangeSecurityArgs Key} {sender : AccountHash}
    {c : Call Key} (hc : CEP18Client.changeSecurity package contract args sender = .ok c)
    (hflag : (d.after calls).enableMintBurn ≠ 0)
    (hadmin : (d.after calls).badge (ofAccount sender) = some .Admin) :
    (c.Succeeds (d.after calls) → ∀ k, k ≠ ofAccount sender → ∀ group, args.strongest k = some group →
        ∃ badge, group.badge = some badge ∧ (exec (d.after calls) c).badge k = some badge) ↔
      ∀ k, k ≠ ofAccount sender →
        k ∈ args.burnerList.getD [] ∨ k ∈ args.mintAndBurnList.getD [] →
        k ∈ args.noneList.getD [] ∨ k ∈ args.adminList.getD [] := by
  obtain ⟨l, T, hr, -⟩ := d.holds_after calls
  generalize d.after calls = s at hr hflag hadmin ⊢
  obtain ⟨he, hstack, ha, hm, hn⟩ := changeSecurity_args hc
  have hcaller : c.env.callerIdentity = some (ofAccount sender) := by
    rw [callerIdentity_eq_some]
    unfold getImmediateCallerAddress
    rw [hstack]; rfl
  obtain ⟨hs, hr'⟩ := changeSecurity_takes hr ⟨he, hcaller, ha, hm, hn⟩ hflag hadmin
  have hbadge := badge_of_changes hr hr' rfl
  constructor
  · intro h k hk hlist
    by_contra hweak
    obtain ⟨hnone, hadmins⟩ := not_or.1 hweak
    -- its strongest group is one of the two without a badge
    have hgroup : args.strongest k = some .MintAndBurn ∨ args.strongest k = some .Burner := by
      unfold ChangeSecurityArgs.strongest
      simp only [listed_iff]
      rw [if_neg hnone, if_neg hadmins]
      by_cases hmab : k ∈ args.mintAndBurnList.getD []
      · exact Or.inl (if_pos hmab)
      · rw [if_neg hmab, if_pos (hlist.resolve_right hmab)]
        exact Or.inr rfl
    rcases hgroup with hgroup | hgroup <;> obtain ⟨badge, hb, -⟩ := h hs k hk _ hgroup <;> cases hb
  · intro h _ k hk group hgroup
    rw [hbadge, badgeChange, if_neg hk]
    unfold ChangeSecurityArgs.strongest at hgroup
    simp only [listed_iff] at hgroup ⊢
    by_cases hnone : k ∈ args.noneList.getD []
    · rw [if_pos hnone] at hgroup ⊢
      cases hgroup; exact ⟨.None, rfl, rfl⟩
    by_cases hadmins : k ∈ args.adminList.getD []
    · rw [if_neg hnone, if_pos hadmins] at hgroup ⊢
      cases hgroup; exact ⟨.Admin, rfl, rfl⟩
    -- a key on neither is on neither of the two ignored lists
    have hweak : ¬ (k ∈ args.burnerList.getD [] ∨ k ∈ args.mintAndBurnList.getD []) :=
      fun hlist => not_or.2 ⟨hnone, hadmins⟩ (h k hk hlist)
    obtain ⟨hburner, hmab⟩ := not_or.1 hweak
    rw [if_neg hnone, if_neg hadmins, if_neg hmab, if_neg hburner] at hgroup
    rw [if_neg hnone, if_neg hadmins]
    by_cases hminter : k ∈ args.minterList.getD []
    · rw [if_pos hminter] at hgroup ⊢
      cases hgroup; exact ⟨.Minter, rfl, rfl⟩
    · rw [if_neg hminter] at hgroup
      cases hgroup

/-- An Admin of a plain token makes account 2 a minter, and a burner too. -/
def burnerArgs : ChangeSecurityArgs PlainKey where
  minterList := some [.account 2]
  burnerList := some [.account 2]

/-- A list of minters alone takes effect. -/
theorem lists_take_effect_iff_plain :
    ∃ c, CEP18Client.changeSecurity 0 0 ({ minterList := some [.account 2] } :
        ChangeSecurityArgs PlainKey) 1 = .ok c ∧
      (c.Succeeds (plainToken.after []) → ∀ k : PlainKey, k ≠ ofAccount 1 → ∀ group,
        ChangeSecurityArgs.strongest { minterList := some [.account 2] } k = some group →
        ∃ badge, group.badge = some badge ∧ (exec (plainToken.after []) c).badge k = some badge) := by
  refine ⟨_, rfl, (lists_take_effect_iff plainToken [] rfl ?_ ?_).2 ?_⟩
  · decide +kernel
  · decide +kernel
  · rintro k - (hk | hk) <;> cases hk

/-- Account 2, sent as a minter and a burner, ends up as a minter: the list of burners is
ignored. -/
theorem burnerList_ignored :
    ¬ ∀ (d : Deployment PlainKey plainItems.toItemKeys) (calls : List (Call PlainKey))
      (package contract : HashAddr) (args : ChangeSecurityArgs PlainKey) (sender : AccountHash)
      (c : Call PlainKey), CEP18Client.changeSecurity package contract args sender = .ok c →
      (d.after calls).enableMintBurn ≠ 0 → (d.after calls).badge (ofAccount sender) = some .Admin →
      c.Succeeds (d.after calls) → ∀ k, k ≠ ofAccount sender → ∀ group, args.strongest k = some group →
        ∃ badge, group.badge = some badge ∧ (exec (d.after calls) c).badge k = some badge := by
  intro h
  obtain ⟨badge, hb, -⟩ := h plainToken [] 0 0 burnerArgs 1 _ rfl (by decide +kernel)
    (by decide +kernel) (by decide +kernel) (.account 2) (by decide) .Burner (by decide)
  cases hb

end Cep18
