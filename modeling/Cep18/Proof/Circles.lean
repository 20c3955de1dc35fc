import Cep18.Proof.Answers
import Cep18.Spec.Circles

/-!
# Circles of keys do not notice each other

* `circles_apart`: what other keys do among themselves, in between, makes no difference to the keys
  of a set: not to what their calls are answered, and not to what is stored about them.
* `events_mode_invisible`: whether a token keeps a log makes no difference to anything but the log.
-/

namespace Cep18

open Program Constants

variable {Key : Type} [CasperKey Key] {K : Set Key}

/-! ### Calls and operations -/

omit [CasperKey Key] in
theorem mem_of_optArg? {env : Env Key} {name : String} {list : Option (List Key)}
    (h : env.optArg? (List Key) name = some list)
    (hkeys : ∀ ks, env.arg? (List Key) name = some ks → ∀ k ∈ ks, k ∈ K) :
    ∀ k ∈ list.getD [], k ∈ K := by
  have harg := Env.arg?_of_optArg? h
  cases list with
  | none => simp
  | some ks => exact hkeys ks harg

/-- The operation of a call names the keys that the call names. -/
theorem Call.Among.op {c : Call Key} (h : c.Among K) {op : Op Key} (hop : c.op? = some op) :
    op.Among K := by
  have hd := Call.describes_of_op? hop
  cases op with
  | query => trivial
  | init => trivial
  | approve owner spender amount =>
    obtain ⟨-, h1, h2, -⟩ := hd
    exact ⟨h.caller _ h1, h.key _ _ h2⟩
  | decreaseAllowance owner spender amount =>
    obtain ⟨-, h1, h2, -⟩ := hd
    exact ⟨h.caller _ h1, h.key _ _ h2⟩
  | increaseAllowance owner spender amount =>
    obtain ⟨-, h1, h2, -⟩ := hd
    exact ⟨h.caller _ h1, h.key _ _ h2⟩
  | transfer sender recipient amount =>
    obtain ⟨-, h1, h2, -⟩ := hd
    exact ⟨h.caller _ h1, h.key _ _ h2⟩
  | transferFrom spender owner recipient amount =>
    obtain ⟨-, h1, h2, h3, -⟩ := hd
    exact ⟨h.caller _ h1, h.key _ _ h3, h.key _ _ h2⟩
  | mint caller owner amount =>
    obtain ⟨-, h1, h2, -⟩ := hd
    exact ⟨h.caller _ h1, h.key _ _ h2⟩
  | burn caller owner amount =>
    obtain ⟨-, h1, h2, -⟩ := hd
    exact ⟨h.caller _ h2, h.key _ _ h1⟩
  | changeSecurity caller admins minters nones =>
    obtain ⟨-, h1, h2, h3, h4⟩ := hd
    refine ⟨h.caller _ h1, fun k hk => ?_⟩
    simp only [List.mem_append] at hk
    rcases hk with (hk | hk) | hk
    · exact mem_of_optArg? h2 (h.keys _) k hk
    · exact mem_of_optArg? h3 (h.keys _) k hk
    · exact mem_of_optArg? h4 (h.keys _) k hk

/-- A call that is neither a mint nor a burn leaves the supply alone. -/
theorem Call.not_movesSupply {c : Call Key} (hmint : c.entryPoint ≠ .mint)
    (hburn : c.entryPoint ≠ .burn) {op : Op Key} (hop : c.op? = some op) : ¬ op.MovesSupply := by
  have hd := Call.describes_of_op? hop
  cases op with
  | mint caller owner amount => exact fun _ => hmint hd.1
  | burn caller owner amount => exact fun _ => hburn hd.1
  | _ => exact id

/-- **Tokens that are the same for some keys** answer what these keys ask alike. -/
theorem Token.SameFor.answer {T T' : Token Key} (h : T.SameFor K T') {c : Call Key}
    (hc : c.Among K) : T.answer c = T'.answer c := by
  have hreply : T.reply c = T'.reply c := by
    unfold Token.reply
    cases c.entryPoint
    case name => simp only [h.name]
    case symbol => simp only [h.symbol]
    case decimals => simp only [h.decimals]
    case totalSupply => simp only [h.ledger.totalSupply]
    case balanceOf =>
      cases ha : c.env.arg? Key ADDRESS with
      | none => rfl
      | some address =>
        simp only [Option.bind_eq_bind, Option.bind_some,
          h.ledger.balances address (hc.key _ _ ha)]
    case allowance =>
      cases hs : c.env.arg? Key SPENDER with
      | none => rfl
      | some spender =>
        cases ho : c.env.arg? Key OWNER with
        | none => rfl
        | some owner =>
          simp only [Option.bind_eq_bind, Option.bind_some,
            h.ledger.allowances owner (hc.key _ _ ho) spender (hc.key _ _ hs)]
    all_goals rfl
  unfold Token.answer
  cases hop : c.op? with
  | none => rfl
  | some op =>
    have hs := h.step (hc.op hop)
    simp only [Option.bind_eq_bind, Option.bind_some, hreply]
    cases hT : T.step op with
    | ok U =>
      cases hT' : T'.step op with
      | ok U' => rfl
      | error e' => rw [hT, hT'] at hs; exact hs.elim
    | error e =>
      cases hT' : T'.step op with
      | ok U' => rw [hT, hT'] at hs; exact hs.elim
      | error e' => rw [hT, hT'] at hs; rw [show e = e' from hs]

/-! ### Stores -/

variable {D : DistinctItemKeys Key}

/-- Stores that hold tokens which are the same for some keys **answer their calls alike**. -/
theorem Rep.answer_eq {l l' : Layout} {T T' : Token Key} {s s' : Store Key D.toItemKeys}
    (hr : Rep l T s) (hr' : Rep l' T' s') (h : T.SameFor K T') {c : Call Key} (hc : c.Among K) :
    answer c.program s = answer c.program s' := by
  cases hop : c.op? with
  | some op =>
    -- the tokens answer alike, and the stores as the tokens do
    have hanswer := hr.answered c
    have hanswer' := hr'.answered c
    obtain ⟨expected, he⟩ := hr.expects hop
    rw [← h.answer hc, he] at hanswer'
    rw [he] at hanswer
    exact hanswer.trans hanswer'.symm
  | none =>
    -- what the checks look at is the same in both
    have hsame : c.admission T.enableMintBurn T.badges =
        c.admission T'.enableMintBurn T'.badges := by
      rw [← h.enableMintBurn]
      exact Call.admission_congr fun k hk => h.badges k (hc.caller k hk)
    obtain ⟨e, hchecks, he⟩ := hr.stops_of_none hop
    obtain ⟨e', hchecks', he'⟩ := hr'.stops_of_none hop
    have heq : e = e' := Except.error.inj (hchecks.symm.trans (hsame.trans hchecks'))
    rw [answer_of_error he, answer_of_error he', heq]

/-- Stores that hold tokens which are the same for some keys are alike for them. -/
theorem Rep.alikeFor {l l' : Layout} {T T' : Token Key} {s s' : Store Key D.toItemKeys}
    (hr : Rep l T s) (hr' : Rep l' T' s') (h : T.SameFor K T') : s.AlikeFor K s' := by
  refine ⟨fun c hc => hr.answer_eq hr' h hc, ?_, ?_, ?_⟩
  · intro k hk
    have hb := h.ledger.balances k hk
    rw [← hr.balance, ← hr'.balance] at hb
    exact BitVec.eq_of_toNat_eq hb
  · intro o ho sp hsp
    have ha := h.ledger.allowances o ho sp hsp
    rw [← hr.allowance, ← hr'.allowance] at ha
    exact BitVec.eq_of_toNat_eq ha
  · intro k hk
    rw [hr.badge, hr'.badge, h.badges k hk]

/-- **Circles of keys do not notice each other.** However the calls among the keys of `K` are
interleaved with calls among other keys that neither mint nor burn, they find the token as they
would have without them. -/
theorem circles_apart (d : Deployment Key D.toItemKeys) {ours theirs calls : List (Call Key)}
    (h : Interleaving ours theirs calls) (hours : ∀ c ∈ ours, c.Among K)
    (htheirs : ∀ c ∈ theirs, c.Among Kᶜ ∧ c.entryPoint ≠ .mint ∧ c.entryPoint ≠ .burn) :
    (d.after calls).AlikeFor K (d.after ours) := by
  obtain ⟨config, l, -, hr⟩ := d.rep
  refine (run_rep hr calls).alikeFor (run_rep hr ours) ?_
  rw [List.foldl_map, List.foldl_map]
  refine h.foldl_simulates (R := Token.SameFor K) ?_ ?_ (.refl _)
  · intro c hc T T' hT
    exact hT.exec_both fun op hop => (hours c hc).op hop
  · intro c hc T T' hT
    obtain ⟨hamong, hmint, hburn⟩ := htheirs c hc
    exact hT.exec_left fun op hop => ⟨hamong.op hop, Call.not_movesSupply hmint hburn hop⟩

/-! ### The modality of events -/

/-- Installations that differ in nothing but the modality of events start alike. -/
theorem Env.Gives.sameFor {env env' : Env Key} {name : String} {c c' : Config Key}
    (h : env.Gives name c) (h' : env'.Gives name c') (hcaller : env'.caller = env.caller)
    (hargs : ∀ n, n ≠ EVENTS_MODE → env'.args n = env.args n) :
    c.token.SameFor Set.univ c'.token := by
  have harg : ∀ (V : Type) [FromArg Key V] (n : String), n ≠ EVENTS_MODE →
      env'.arg? V n = env.arg? V n := by
    intro V _ n hn
    unfold Env.arg?
    rw [hargs n hn]
  have hopt : ∀ (V : Type) [FromArg Key V] (n : String), n ≠ EVENTS_MODE →
      env'.optArg? V n = env.optArg? V n := by
    intro V _ n hn
    unfold Env.optArg?
    rw [hargs n hn]
  have hinstaller : c.installer = c'.installer := by
    rw [h.installer, h'.installer, hcaller]
  have hname : c.name = c'.name := h.name.trans h'.name.symm
  have hsymbol : c.symbol = c'.symbol := by
    have := h'.symbol
    rw [harg String SYMBOL (by decide), h.symbol] at this
    exact Option.some.inj this
  have hdecimals : c.decimals = c'.decimals := by
    have := h'.decimals
    rw [harg UInt8 DECIMALS (by decide), h.decimals] at this
    exact Option.some.inj this
  have hsupply : c.totalSupply = c'.totalSupply := by
    have := h'.totalSupply
    rw [harg U256 TOTAL_SUPPLY (by decide), h.totalSupply] at this
    exact Option.some.inj this
  have hadmins : c.adminList = c'.adminList := by
    have := h'.adminList
    rw [hopt (List Key) ADMIN_LIST (by decide), h.adminList] at this
    exact Option.some.inj this
  have hminters : c.minterList = c'.minterList := by
    have := h'.minterList
    rw [hopt (List Key) MINTER_LIST (by decide), h.minterList] at this
    exact Option.some.inj this
  have hflag : c.enableMintBurn = c'.enableMintBurn := by
    obtain ⟨flag, h1, h2⟩ := h.enableMintBurn
    obtain ⟨flag', h1', h2'⟩ := h'.enableMintBurn
    rw [hopt UInt8 ENABLE_MINT_BURN (by decide), h1] at h1'
    rw [h2, h2', Option.some.inj h1']
  unfold Config.token
  refine ⟨⟨fun k _ => ?_, fun _ _ _ _ => rfl, ?_⟩, fun k _ => ?_, hname, hsymbol, hdecimals,
    hflag⟩
  · simp only [Token.record_toLedger, hinstaller, hsupply]
  · simp only [Token.record_toLedger, hsupply]
  · simp only [Token.record_badges, hinstaller, hadmins, hminters]

/-- **Keeping a log makes no difference** to anything but the log: two tokens installed alike but
for their modality of events cannot be told apart by any calls. -/
theorem events_mode_invisible (d d' : Deployment Key D.toItemKeys) (hname : d'.name = d.name)
    (hcaller : d'.env.caller = d.env.caller)
    (hargs : ∀ n, n ≠ EVENTS_MODE → d'.env.args n = d.env.args n) (calls : List (Call Key)) :
    (d.after calls).AlikeFor Set.univ (d'.after calls) := by
  obtain ⟨c, l, hc, hr⟩ := d.rep
  obtain ⟨c', l', hc', hr'⟩ := d'.rep
  rw [hname] at hc'
  refine (run_rep hr calls).alikeFor (run_rep hr' calls) ?_
  have hany : ∀ o : Option (Op Key), ∀ op, o = some op → op.Among Set.univ := by
    intro o op _
    cases op <;> simp [Op.Among]
  have hstep : ∀ (T T' : Token Key) (c : Call Key), T.SameFor Set.univ T' →
      (T.exec c.op?).SameFor Set.univ (T'.exec c.op?) :=
    fun T T' c hT => hT.exec_both (hany c.op?)
  have hstart : c.token.SameFor Set.univ c'.token :=
    (Env.gives_of_config? hc).sameFor (Env.gives_of_config? hc') hcaller hargs
  rw [List.foldl_map]
  exact Run.foldl_simulates hstep calls hstart

/-! ### Plain tokens -/

/-- A plain call names its caller and the keys in its arguments. -/
theorem Call.plain_among {K : Set PlainKey} {account : AccountHash} {entryPoint : EntryPoint}
    {args : List (String × Arg PlainKey)} (hcaller : PlainKey.account account ∈ K)
    (hkey : ∀ p ∈ args, ∀ k, p.2.asKey = some k → k ∈ K)
    (hkeys : ∀ p ∈ args, ∀ list, p.2.asKeys = some list → ∀ k ∈ list, k ∈ K) :
    (Call.plain account entryPoint args).Among K := by
  have hmem : ∀ name arg, argList args name = some arg → ∃ p ∈ args, p.2 = arg := by
    intro name arg h
    obtain ⟨p, hp, rfl⟩ := Option.map_eq_some_iff.1 h
    exact ⟨p, List.mem_of_find?_eq_some hp, rfl⟩
  refine ⟨?_, ?_, ?_⟩
  · intro k hk
    cases hk
    exact hcaller
  · intro name k h
    obtain ⟨arg, ha, hk⟩ := Option.bind_eq_some_iff.1 h
    obtain ⟨p, hp, rfl⟩ := hmem name arg ha
    exact hkey p hp k hk
  · intro name list h
    obtain ⟨arg, ha, hlist⟩ := Option.bind_eq_some_iff.1 h
    obtain ⟨p, hp, rfl⟩ := hmem name arg ha
    exact hkeys p hp list hlist

/-- Account 3 approves something for account 4 while account 1 transfers to account 2. -/
theorem circles_apart_plain :
    (plainToken.after [Call.plain 3 .approve
        [(SPENDER, { asKey := some (.account 4) }), (AMOUNT, { asU256 := some 7 })],
      Call.plain 1 .transfer [(RECIPIENT, { asKey := some (.account 2) }),
        (AMOUNT, { asU256 := some 5 })]]).AlikeFor {.account 1, .account 2}
      (plainToken.after [Call.plain 1 .transfer [(RECIPIENT, { asKey := some (.account 2) }),
        (AMOUNT, { asU256 := some 5 })]]) := by
  refine circles_apart plainToken (.right (.left .nil)) (fun c hc => ?_) (fun c hc => ?_)
  · rw [List.mem_singleton.1 hc]
    refine Call.plain_among (by simp) ?_ ?_ <;> simp
  · rw [List.mem_singleton.1 hc]
    refine ⟨Call.plain_among (by simp) ?_ ?_, by decide, by decide⟩ <;> simp

/-- A plain token that keeps no log. -/
def quietToken : Deployment PlainKey plainItems.toItemKeys :=
  installOn (installArgs "token" 100 0 1) (by decide +kernel)

/-- The plain token and the quiet one cannot be told apart after a transfer. -/
theorem events_mode_invisible_plain :
    (plainToken.after [Call.plain 1 .transfer [(RECIPIENT, { asKey := some (.account 2) }),
        (AMOUNT, { asU256 := some 5 })]]).AlikeFor Set.univ
      (quietToken.after [Call.plain 1 .transfer [(RECIPIENT, { asKey := some (.account 2) }),
        (AMOUNT, { asU256 := some 5 })]]) := by
  refine events_mode_invisible plainToken quietToken rfl rfl (fun n hn => ?_) _
  have hne : ¬ EVENTS_MODE = n := fun he => hn he.symm
  show argList (installArgs "token" 100 0 1) n = argList (installArgs "token" 100 1 1) n
  simp [argList, installArgs, List.find?_cons, hne]

end Cep18
