import Cep18.Proof.Answers
import Cep18.Proof.Security
import Cep18.Spec.ClientCalls
import Mathlib.Data.List.TakeWhile

/-!
# What users of the client get

From the arguments that a user gives the client to the outcome that the user is told of, through
the deploy, the contract and the text of the node, the token does what the user means
(`client_outcomes`): each deploy is a call of the operation that is meant (`ClientCall.op?_deploy`),
whatever lists come with it that the contract does not read (`ClientCall.program_congr`), and an
error of the contract comes back under its own name (`parseDeployResult_error`).
-/

namespace Cep18

open Program Constants

/-! ### Errors, there and back -/

/-- A digit is neither white space nor a sign. -/
theorem not_space_of_isDigit {c : Char} (h : c.isDigit = true) :
    isStrWhiteSpace c = false ∧ c ≠ '-' ∧ c ≠ '+' := by
  have hrange : 48 ≤ c.toNat ∧ c.toNat ≤ 57 := by
    unfold Char.isDigit at h
    simp only [ge_iff_le, Bool.and_eq_true, decide_eq_true_eq, UInt32.le_iff_toNat_le] at h
    exact h
  refine ⟨?_, ?_, ?_⟩
  · simp only [isStrWhiteSpace, Bool.or_eq_false_iff, decide_eq_false_iff_not, List.mem_cons,
      List.not_mem_nil, or_false]
    omega
  · rintro rfl; simp at hrange
  · rintro rfl; simp at hrange

/-- **A number that was written is read back.** -/
theorem parseInt_repr (n : ℕ) : parseInt n.repr.toList = some (n : ℤ) := by
  have hall : ∀ c ∈ Nat.toDigits 10 n, c.isDigit = true := fun c hc =>
    Nat.isDigit_of_mem_toDigits (by omega) (by omega) hc
  have hdigits : parseDigits (Nat.toDigits 10 n) = some n := by
    unfold parseDigits
    rw [List.takeWhile_eq_self_iff.2 hall]
    simp only [if_neg Nat.toDigits_ne_nil, Nat.ofDigitChars_ten_toDigits]
  rw [Nat.toList_repr]
  cases hl : Nat.toDigits 10 n with
  | nil => exact absurd hl Nat.toDigits_ne_nil
  | cons c cs =>
    rw [hl] at hdigits hall
    obtain ⟨hspace, hminus, hplus⟩ := not_space_of_isDigit (hall c List.mem_cons_self)
    unfold parseInt
    rw [List.dropWhile_cons_of_neg (by simp [hspace])]
    split
    · rename_i h; cases h; exact absurd rfl hminus
    · rename_i h; cases h; exact absurd rfl hplus
    · rename_i h; rw [hdigits]; rfl

theorem ERROR_CODES_code (e : Cep18Error) : ERROR_CODES e.code = some e.name := by
  cases e <;> rfl

/-- **The client finds out which error it was.** -/
theorem parseDeployResult_error {report : ApiError → String} (h : Reports report) (e : Cep18Error) :
    CEP18Client.parseDeployResult [.Failure (report e.toApi)] =
      .error (.contractError (some e.code) (some e.name)) := by
  have htext : (report e.toApi).toList = "User error: ".toList ++ e.code.repr.toList := by
    rw [show report e.toApi = _ from h.user e.code, String.toList_append]
  unfold CEP18Client.parseDeployResult
  simp only [htext, List.isPrefixOf_iff_prefix, List.prefix_append, if_true]
  rw [← String.length_toList, List.drop_left, parseInt_repr, ContractError, Option.bind_some,
    ERROR_CODES_code]

/-! ### Deploys -/

variable {Key : Type} [CasperKey Key]

/-- **What is sent is what is meant.** -/
theorem ClientCall.op?_deploy {package contract : HashAddr} {sender : AccountHash}
    {r : ClientCall Key} {c : Call Key} (h : r.deploy package contract sender = .ok c) :
    c.op? = some (r.op (ofAccount sender)) := by
  cases r with
  | changeSecurity args =>
    obtain ⟨hentry, hstack, hadmin, hminter, hnone⟩ := changeSecurity_args h
    have hcaller : c.env.callerIdentity = some (ofAccount sender) := by
      rw [callerIdentity_eq_some]
      unfold getImmediateCallerAddress
      rw [hstack]; rfl
    exact Call.op?_of_describes ⟨hentry, hcaller, hadmin, hminter, hnone⟩ fun hq => by cases hq
  | _ => cases h; rfl

omit [CasperKey Key] in
theorem Env.read_of_optArg? {env : Env Key} {V : Type} [FromArg Key V] {name : String}
    {v : Option V} (h : env.optArg? V name = some v) : env.read V name = v.map some := by
  unfold optArg? at h
  unfold read
  cases ha : env.args name with
  | none => rw [ha] at h; cases h; rfl
  | some arg =>
    rw [ha] at h
    obtain ⟨w, hw, rfl⟩ := Option.map_eq_some_iff.1 h
    rw [Option.map_some, hw, Option.map_some]

/-- **Requests that mean the same are the same to the contract**: what else `changeSecurity` sends
is not read. -/
theorem ClientCall.program_congr {D : ItemKeys Key} {package contract : HashAddr}
    {sender : AccountHash} {r r' : ClientCall Key} {c c' : Call Key}
    (h : r.deploy package contract sender = .ok c) (h' : r'.deploy package contract sender = .ok c')
    (hop : r'.op (ofAccount sender) = r.op (ofAccount sender)) :
    (c'.program : HostM Key D CLValue) = c.program := by
  cases r with
  | changeSecurity args =>
    cases r' with
    | changeSecurity args' =>
      obtain ⟨hentry, hstack, hadmin, hminter, hnone⟩ := changeSecurity_args h
      obtain ⟨hentry', hstack', hadmin', hminter', hnone'⟩ := changeSecurity_args h'
      simp only [op, Op.changeSecurity.injEq, true_and] at hop
      obtain ⟨hadmins, hminters, hnones⟩ := hop
      unfold Call.program
      rw [hentry, hentry']
      refine invoke_congr_reads ?_ (fun hinit => by cases hinit) ?_
      · unfold getImmediateCallerAddress
        rw [hstack, hstack']
      · intro p hp
        simp only [EntryPoint.reads, List.mem_cons, List.not_mem_nil, or_false] at hp
        rcases hp with rfl | rfl | rfl
        · simp only [ArgType.Same, Env.read_of_optArg? hadmin, Env.read_of_optArg? hadmin', hadmins]
        · simp only [ArgType.Same, Env.read_of_optArg? hminter, Env.read_of_optArg? hminter',
            hminters]
        · simp only [ArgType.Same, Env.read_of_optArg? hnone, Env.read_of_optArg? hnone', hnones]
    | _ => cases hop
  | transferFrom args =>
    obtain ⟨⟨recipient, amount⟩, owner⟩ := args
    cases r' <;> cases hop
    cases h; cases h'; rfl
  | _ args =>
    -- it is the same request
    obtain ⟨key, amount⟩ := args
    cases r' <;> cases hop
    cases h; cases h'; rfl

variable {D : DistinctItemKeys Key} {l : Layout} {T : Token Key} {s : Store Key D.toItemKeys}

/-- The user of one call is told what became of it. -/
theorem Rep.outcome (h : Rep l T s) {report : ApiError → String} (hreport : Reports report)
    {c : Call Key} {op : Op Key} (hop : c.op? = some op) :
    CEP18Client.parseDeployResult [executionResult report (answer c.program s)] = T.outcome op := by
  unfold Token.outcome
  have hends := h.ends hop
  cases hstep : T.step op with
  | error e =>
    rw [hstep] at hends
    rw [show answer c.program s = .error e.toApi from hends]
    exact parseDeployResult_error hreport e
  | ok T' =>
    rw [hstep] at hends
    obtain ⟨v, -, hv⟩ := hends
    rw [hv]
    rfl

/-- **What the user means is what happens, and what the user is told is what happened.** In every
state that an installed token reaches, a deploy by the client does to the token the operation that
is meant, in the name of the account that signs, or leaves it as it is; and the client reports
success, or throws the token's error by its code and its name. What a request says beyond its
operation (the `burnerList` and the `mintAndBurnList` of a change of security) is ignored: requests
of the same operation run the same program. -/
theorem client_outcomes (d : Deployment Key D.toItemKeys) {report : ApiError → String}
    (hreport : Reports report) :
    ∃ config, d.env.config? d.name = some config ∧
      ∀ (calls : List (Call Key)) (package contract : HashAddr) (sender : AccountHash)
        (r : ClientCall Key) (c : Call Key), r.deploy package contract sender = .ok c →
        CEP18Client.parseDeployResult [executionResult report (answer c.program (d.after calls))] =
            (((calls.map Call.op?).foldl Token.exec config.token).outcome
              (r.op (ofAccount sender))) ∧
          (∃ l, Rep l (((calls.map Call.op?).foldl Token.exec config.token).exec
            (r.op (ofAccount sender))) (d.after (calls ++ [c]))) ∧
          ∀ (r' : ClientCall Key) (c' : Call Key), r'.deploy package contract sender = .ok c' →
            r'.op (ofAccount sender) = r.op (ofAccount sender) →
            (c'.program : HostM Key D.toItemKeys CLValue) = c.program := by
  obtain ⟨config, l, hc, hr⟩ := d.rep
  refine ⟨config, hc, fun calls package contract sender r c h => ?_⟩
  have hop := ClientCall.op?_deploy h
  have hs := run_rep hr calls
  refine ⟨hs.outcome hreport hop, ⟨l, ?_⟩,
    fun r' c' h' hsame => ClientCall.program_congr h h' hsame⟩
  rw [d.after_append, ← hop]
  exact exec_rep hs c

/-- What the node says of errors. -/
def plainReport : ApiError → String
  | .user code => "User error: " ++ code.repr
  | _ => "ApiError"

theorem plainReport_reports : Reports plainReport := ⟨fun _ => rfl⟩

/-- Account 1 is told that it does not have what it would send, and that all went well with a list
of Burners that the contract does not look at. -/
theorem client_outcomes_plain :
    CEP18Client.parseDeployResult [executionResult plainReport
      (answer (CEP18Client.transfer 0 0 ⟨.account 2, 1000⟩ 1).program (plainToken.after []))] =
        .error (.contractError (some 60001) (some "InsufficientBalance")) ∧
      ∃ c c', CEP18Client.changeSecurity 0 0 { minterList := some [.account 2] } 1 = .ok c ∧
        CEP18Client.changeSecurity 0 0
          { minterList := some [.account 2], burnerList := some [.account 3] } 1 = .ok c' ∧
        CEP18Client.parseDeployResult [executionResult plainReport
          (answer c'.program (plainToken.after []))] = .ok [.Success] ∧
        (c'.program : HostM PlainKey plainItems.toItemKeys CLValue) = c.program := by
  obtain ⟨config, hconfig, h⟩ := client_outcomes plainToken plainReport_reports
  cases hconfig
  refine ⟨(h [] 0 0 1 (.transfer ⟨.account 2, 1000⟩) _ rfl).1.trans (by decide +kernel),
    _, _, rfl, rfl, ?_, ?_⟩
  · exact (h [] 0 0 1 (.changeSecurity
      { minterList := some [.account 2], burnerList := some [.account 3] }) _ rfl).1.trans
      (by decide +kernel)
  · exact (h [] 0 0 1 (.changeSecurity { minterList := some [.account 2] }) _ rfl).2.2
      (.changeSecurity { minterList := some [.account 2], burnerList := some [.account 3] }) _
      rfl rfl

end Cep18
