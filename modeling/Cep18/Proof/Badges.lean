import Cep18.Model.Reference
import Cep18.Proof.Deploy

/-!
# The badges of a fresh token

The documented strength order makes the installer and `admin_list` Admins, the rest of
`minter_list` Minters, and nobody else anything. `init` writes the installer's badge, then
the minters', then the admins', each over the last: `initial_badges_iff` says when that
comes to the same, and what goes wrong otherwise is that the installer is demoted.
-/

namespace Cep18

open Constants

variable {Key : Type} [CasperKey Key]

section Lists

variable {D : ItemKeys Key}

/-- The account that ran the installation. -/
def Deployment.installer (d : Deployment Key D) : Key := ofAccount d.env.caller

/-- `admin_list`, as given to the installation. -/
def Deployment.admins (d : Deployment Key D) : List Key :=
  (d.env.arg? (List Key) ADMIN_LIST).getD []

/-- `minter_list`, as given to the installation. -/
def Deployment.minters (d : Deployment Key D) : List Key :=
  (d.env.arg? (List Key) MINTER_LIST).getD []

/-- The badge a key should start with: the strongest one it is given. -/
def Deployment.documentedBadge (d : Deployment Key D) (k : Key) : Option SecurityBadge :=
  if k = d.installer ∨ k ∈ d.admins then some .Admin
  else if k ∈ d.minters then some .Minter
  else none

end Lists

variable {D : DistinctItemKeys Key}

/-- The badge a key does start with: the one written last. -/
theorem Deployment.badge (d : Deployment Key D.toItemKeys) (k : Key) :
    d.store.badge k = if k ∈ d.admins then some .Admin
      else if k ∈ d.minters then some .Minter
      else if k = d.installer then some .Admin else none := by
  obtain ⟨c, l, hc, hr⟩ := d.rep
  rw [hr.badge]
  have hgives := Env.gives_of_config? hc
  unfold Deployment.admins Deployment.minters Deployment.installer
  rw [Env.arg?_of_optArg? hgives.adminList, Env.arg?_of_optArg? hgives.minterList,
    ← hgives.installer]
  rfl

/-- **Initial badges.** The documented badges, an Admin among them, are what a fresh token
starts with exactly if its installer is not in `minter_list`, or is in `admin_list` too. -/
theorem initial_badges_iff (d : Deployment Key D.toItemKeys) :
    ((∀ k, d.store.badge k = d.documentedBadge k) ∧ ∃ k, d.store.badge k = some .Admin) ↔
      (d.installer ∉ d.minters ∨ d.installer ∈ d.admins) := by
  constructor
  · rintro ⟨h, -⟩
    -- an installer among the minters only starts as a Minter
    by_contra hc
    obtain ⟨hm, ha⟩ := not_or.1 hc
    have hi := h d.installer
    rw [d.badge, if_neg ha, if_pos (not_not.1 hm)] at hi
    simp [Deployment.documentedBadge] at hi
  · intro hc
    have h : ∀ k, d.store.badge k = d.documentedBadge k := by
      intro k
      rw [d.badge]
      unfold Deployment.documentedBadge
      by_cases ha : k ∈ d.admins
      · simp [ha]
      · by_cases hi : k = d.installer
        · have hm : k ∉ d.minters := by
            rw [hi] at ha ⊢
            exact hc.resolve_right ha
          simp [hi, hi ▸ ha, hi ▸ hm]
        · simp [ha, hi]
    exact ⟨h, d.installer, by rw [h]; simp [Deployment.documentedBadge]⟩

/-- A token whose installer lists itself as a minter. -/
def demotedToken : Deployment PlainKey plainItems.toItemKeys :=
  installOn ((MINTER_LIST, { asKeys := some [.account 1] }) :: installArgs "token" 100 1 1)
    (by decide +kernel)

/-- Its installer is a Minter, and no key at all is an Admin. -/
theorem demotedToken_badges :
    ¬ ((∀ k, demotedToken.store.badge k = demotedToken.documentedBadge k) ∧
      ∃ k, demotedToken.store.badge k = some .Admin) := by
  rintro ⟨-, k, hk⟩
  have hadmins : demotedToken.admins = [] := by decide +kernel
  have hminters : demotedToken.minters = [.account 1] := by decide +kernel
  have hinstaller : demotedToken.installer = .account 1 := by decide +kernel
  rw [Deployment.badge, hadmins, hminters, hinstaller] at hk
  simp only [List.not_mem_nil, if_false, List.mem_singleton] at hk
  split_ifs at hk with h1
  cases hk

end Cep18
