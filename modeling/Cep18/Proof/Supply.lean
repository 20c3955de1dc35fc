import Cep18.Lib.Run
import Cep18.Proof.Calls

/-!
# Supply conservation

Two copies of the truth, the balances and the stored total supply, agree in every state
a deployment reaches, and the supply is what was installed, plus what was minted, minus
what was burned.
-/

namespace Cep18

open Program Constants

variable {Key : Type} [CasperKey Key]

section Amounts

variable {D : ItemKeys Key}

/-- The amount a call is given. -/
def Call.amount (c : Call Key) : U256 := (c.env.arg? U256 AMOUNT).getD 0

/-- What a call mints: its amount, if it is a successful `mint`. -/
def minted (s : Store Key D) (c : Call Key) : ℕ :=
  if c.entryPoint = .mint ∧ c.Succeeds s then c.amount.toNat else 0

/-- What a call burns: its amount, if it is a successful `burn`. -/
def burned (s : Store Key D) (c : Call Key) : ℕ :=
  if c.entryPoint = .burn ∧ c.Succeeds s then c.amount.toNat else 0

omit [CasperKey Key] in
theorem Call.amount_eq {c : Call Key} {amount : U256} (h : c.env.arg? U256 AMOUNT = some amount) :
    c.amount = amount := by simp [Call.amount, h]

end Amounts

variable {D : DistinctItemKeys Key} {s : Store Key D.toItemKeys}

/-- **One call** moves the stored supply by what it mints and burns. -/
theorem supply_step (h : Holds s) (c : Call Key) :
    (exec s c).totalSupply.toNat + burned s c = s.totalSupply.toNat + minted s c := by
  obtain ⟨l, T, hr, -⟩ := h
  rcases call_cases hr c with ⟨hs, he, -⟩ | ⟨op, hs, -, hd, ht, hr'⟩
  · simp [burned, minted, hs, he]
  · generalize T.exec c.op? = T' at ht hr'
    rw [hr.totalSupply, hr'.totalSupply]
    cases ht with
    | query =>
      have hne : c.entryPoint ≠ .mint ∧ c.entryPoint ≠ .burn := by
        constructor <;> intro he <;> simp [Call.Describes, he] at hd
      simp [burned, minted, hne.1, hne.2]
    | mint hflag hbadge hbalance hsupply =>
      obtain ⟨he, -, -, hamount⟩ := hd
      simp [burned, minted, he, hs, Call.amount_eq hamount]
    | burn hflag hbalance hsupply =>
      obtain ⟨he, -, -, hamount⟩ := hd
      -- the supply had as much, so nothing is cut off
      simp only [burned, minted, he, hs, Call.amount_eq hamount, Token.record_toLedger,
        Token.withLedger_toLedger, Ledger.retire_totalSupply]
      simp; omega
    | _ => simp [burned, minted, hd.1]

/-- In a state a deployment reaches, the token is initialised: `init` fails. -/
theorem init_fails (h : Holds s) {c : Call Key} (hc : c.entryPoint = .init) : ¬ c.Succeeds s := by
  obtain ⟨l, T, hr, -⟩ := h
  rw [succeeds_iff hr]
  rintro ⟨op, T', hop, hstep⟩
  have hinit : c.op? = some .init := Call.op?_of_describes hc (by simp)
  rw [hinit] at hop
  cases hop
  -- the operation is refused
  have herr : T.step .init = .error .AlreadyInitialized := rfl
  rw [herr] at hstep
  cases hstep

/-- **Supply conservation over whole runs.** However a token was installed and whatever
calls follow, the balances sum to the stored total supply; that supply is the installed
one plus all successful mints minus all successful burns; and no later `init` succeeds. -/
theorem supply_conserved (d : Deployment Key D.toItemKeys) (calls : List (Call Key)) :
    (Function.support fun k => ((d.after calls).balance k).toNat).Finite ∧
      ∑ᶠ k, ((d.after calls).balance k).toNat = (d.after calls).totalSupply.toNat ∧
      (∃ installed : U256, d.env.arg? U256 TOTAL_SUPPLY = some installed ∧
        (d.after calls).totalSupply.toNat + (Run.outputs exec burned d.store calls).sum =
          installed.toNat + (Run.outputs exec minted d.store calls).sum) ∧
      ∀ c : Call Key, c.entryPoint = .init → ¬ c.Succeeds (d.after calls) := by
  have hholds := d.holds_after calls
  have hI : ∀ (s : Store Key D.toItemKeys) (c : Call Key), Holds s → Holds (exec s c) :=
    fun s c hs => hs.exec c
  have hstep : ∀ (s : Store Key D.toItemKeys) (c : Call Key), Holds s →
      (exec s c).totalSupply.toNat + burned s c = s.totalSupply.toNat + minted s c :=
    fun s c hs => supply_step hs c
  have hsums : (d.after calls).totalSupply.toNat + (Run.outputs exec burned d.store calls).sum =
      d.store.totalSupply.toNat + (Run.outputs exec minted d.store calls).sum :=
    Run.foldl_balance (φ := fun s => s.totalSupply.toNat) hI hstep calls d.holds
  refine ⟨?_, ?_, ⟨d.store.totalSupply, d.totalSupply, hsums⟩, fun c hc => init_fails hholds hc⟩
  -- the balances of the store are those of a sound token
  all_goals
    obtain ⟨l, T, hr, hT⟩ := hholds
    have hbal : (fun k => ((d.after calls).balance k).toNat) = T.balances := funext hr.balance
    rw [hbal]
  · exact hT.backed.finite
  · rw [hr.totalSupply]; exact hT.backed.total

end Cep18
