import Cep18.Proof.Client
import Cep18.Proof.ClientCalls
import Cep18.Proof.Entries
import Cep18.Proof.ItemKeys

/-!
# Sessions through the client

From end to end (`client_sessions`): requests become deploys, deploys become calls, and the
contract keeps what they do under keys that the client derives again when it is asked. Whoever
uses the client has the abstract token in front of them. The two ends address entries each in
their own way, so it takes a token on maps (`Deployment.exists_agrees`) to get to the abstract
one.
-/

namespace Cep18

open Program Constants Decoder

variable {Key : Type} [CasperKey Key] {K : Set Key}

/-! ### Queries -/

section Queries

variable {lib : ClientLibraries Key} {key : Codec BytesreprError Key} {blake2b : Bytes → Bytes}
variable {s : Store Key (storedItems key blake2b)} {b a g : URef}

/-- `balanceOf` gives the balance that is stored. -/
theorem ClientLibraries.Reads.balance (h : lib.Reads key blake2b s) (hs : HoldsAmounts b a g s)
    (account : Key) : CEP18Client.balanceOf lib account = .ok (s.balance account).toNat := by
  obtain ⟨o, -, hentry⟩ := hs.balances.read (Balances.makeDictionaryItemKey key account)
  have hitem : s.item U256 BALANCES (Balances.makeDictionaryItemKey key account) = o := by
    show (s.entry BALANCES _).bind CLTyped.intoT = o
    rw [hentry]
    cases o with
    | none => rfl
    | some v => exact CLTyped.intoT_fromT v
  have hbalance : s.balance account = o.getD 0 := congrArg (Option.getD · 0) hitem
  rw [h.balanceOf, h.queryNumber hentry, hbalance]

/-- `allowances` gives the allowance that is stored. -/
theorem ClientLibraries.Reads.allowance (h : lib.Reads key blake2b s) (hs : HoldsAmounts b a g s)
    (owner spender : Key) :
    CEP18Client.allowances lib owner spender = .ok (s.allowance owner spender).toNat := by
  obtain ⟨o, -, hentry⟩ := hs.allowances.read
    (Allowances.makeDictionaryItemKey key blake2b owner spender)
  have hitem : s.item U256 ALLOWANCES
      (Allowances.makeDictionaryItemKey key blake2b owner spender) = o := by
    show (s.entry ALLOWANCES _).bind CLTyped.intoT = o
    rw [hentry]
    cases o with
    | none => rfl
    | some v => exact CLTyped.intoT_fromT v
  have hallowance : s.allowance owner spender = o.getD 0 := congrArg (Option.getD · 0) hitem
  rw [h.allowances, h.queryNumber hentry, hallowance]

end Queries

/-! ### Sessions -/

/-- The operations of a session's deploys are those that its requests mean. -/
theorem foldl_deploys {package contract : HashAddr} {requests : List (AccountHash × ClientCall Key)}
    {deploys : List (Call Key)}
    (h : List.Forall₂ (fun p c => p.2.deploy package contract p.1 = .ok c) requests deploys)
    (T : Token Key) : (deploys.map Call.op?).foldl Token.exec T = T.session requests := by
  unfold Token.session
  induction h generalizing T with
  | nil => rfl
  | @cons p c requests deploys hp _ ih =>
    rw [List.map_cons, List.foldl_cons, List.foldl_cons, ClientCall.op?_deploy hp]
    exact ih _

/-- **From end to end.** After a session of requests through the client, whoever signed them, the
client's queries give the balances and allowances, and the next deploy is reported to end, as
in the abstract token that has done the operations that the requests mean (with no regard to lists
that the contract does not know). The hash has no collision between the pairs of keys that are
involved. -/
theorem client_sessions (key : Codec BytesreprError Key) (blake2b : Bytes → Bytes)
    (hkey : ∀ k, (key.enc k).length ≤ 34) (hash32 : ∀ bytes, (blake2b bytes).length = 32)
    (hash_inj : ∀ o ∈ K, ∀ sp ∈ K, ∀ o' ∈ K, ∀ sp' ∈ K,
      blake2b (key.enc o ++ key.enc sp) = blake2b (key.enc o' ++ key.enc sp') →
        key.enc o ++ key.enc sp = key.enc o' ++ key.enc sp')
    (d : Deployment Key (storedItems key blake2b)) {report : ApiError → String}
    (hreport : Reports report) :
    ∃ config, d.env.config? d.name = some config ∧
      ∀ (package contract : HashAddr) (requests : List (AccountHash × ClientCall Key))
        (deploys : List (Call Key)),
        List.Forall₂ (fun p c => p.2.deploy package contract p.1 = .ok c) requests deploys →
        (∀ c ∈ deploys, c.Within K) →
        (∀ lib : ClientLibraries Key, lib.Reads key blake2b (d.after deploys) →
          (∀ account, CEP18Client.balanceOf lib account =
            .ok ((config.token.session requests).balances account)) ∧
          ∀ owner ∈ K, ∀ spender ∈ K, CEP18Client.allowances lib owner spender =
            .ok ((config.token.session requests).allowances owner spender)) ∧
        ∀ (sender : AccountHash) (r : ClientCall Key) (c : Call Key),
          r.deploy package contract sender = .ok c → c.Within K →
          CEP18Client.parseDeployResult
              [executionResult report (answer c.program (d.after deploys))] =
            (config.token.session requests).outcome (r.op (ofAccount sender)) := by
  have hsep := storedItems_separates hkey hash32 hash_inj
  obtain ⟨d', -, hagrees⟩ := d.exists_agrees hsep (mapItems_separates K) (asMaps_alike d.before)
  obtain ⟨config, l, hc, hr⟩ := d'.rep
  rw [hagrees.env, hagrees.name] at hc
  refine ⟨config, hc, fun package contract requests deploys hdeploys hwithin => ?_⟩
  -- the token on maps after the session
  have hrep : Rep l (config.token.session requests) (d'.after deploys) := by
    have hrun := run_rep hr deploys
    rw [foldl_deploys hdeploys] at hrun
    exact hrun
  constructor
  · intro lib hreads
    obtain ⟨b, a, g, hamounts⟩ := d.amounts deploys
    constructor
    · intro account
      rw [hreads.balance hamounts, hagrees.balance deploys hwithin, hrep.balance]
    · intro owner howner spender hspender
      rw [hreads.allowance hamounts,
        hagrees.allowance deploys hwithin owner howner spender hspender, hrep.allowance]
  · intro sender r c hdeploy hcall
    rw [hagrees.answers deploys hwithin c hcall]
    exact hrep.outcome hreport (ClientCall.op?_deploy hdeploy)

/-- Account 1 lets a URef spend 30 of its 100, and asks for both. -/
theorem client_sessions_plain :
    CEP18Client.balanceOf (.onStore (storedToken.after
        [CEP18Client.approve 0 0 ⟨.uref 1, 30⟩ 1])) (.account 1) = .ok 100 ∧
      CEP18Client.allowances (.onStore (storedToken.after
        [CEP18Client.approve 0 0 ⟨.uref 1, 30⟩ 1])) (.account 1) (.uref 1) = .ok 30 := by
  obtain ⟨config, hc, h⟩ := client_sessions (K := { k | k ∈ somePlainKeys }) PlainKey.codec
    Blake2b.hash PlainKey.length_toBytes Blake2b.length_hash somePlainKeys_hash_inj storedToken
    plainReport_reports
  have hwithin : ∀ c ∈ [CEP18Client.approve 0 0 ⟨PlainKey.uref 1, 30⟩ 1],
      c.Within { k | k ∈ somePlainKeys } := by
    intro c hcall
    rw [List.mem_singleton.1 hcall]
    refine ⟨fun k hk => ?_, fun k hk => ?_, fun k hk => ?_⟩
    · cases hk; decide
    · cases hk
    · cases hk; decide
  have hreads := (h 0 0 [(1, .approve ⟨.uref 1, 30⟩)] _ (.cons rfl .nil) hwithin).1 _
    (ClientLibraries.onStore_reads _)
  cases hc
  exact ⟨(hreads.1 (.account 1)).trans (by decide +kernel),
    (hreads.2 (.account 1) (by decide) (.uref 1) (by decide)).trans (by decide +kernel)⟩

end Cep18
