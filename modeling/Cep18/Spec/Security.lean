import Cep18.Lib.Overlay
import Cep18.Model.Client
import Cep18.Spec.Authority

/-!
# Precedence of access groups

* `badgeChange`: the badge a change of security asks for, key by key. The three lists are
  looked up in the order of their strength, and the caller is left out.
* `Token.secChangeMap_get`: the map the contract builds, list after list, is that function.
* `AccessGroup`: the five documented groups, of which the contract has badges for three.
-/

namespace Cep18

variable {A : Type}

/-- The key is on the list, if the list was given. -/
def listed [DecidableEq A] (list : Option (List A)) (k : A) : Bool := k ∈ list.getD []

theorem listed_iff [DecidableEq A] {list : Option (List A)} {k : A} :
    listed list k = true ↔ k ∈ list.getD [] := decide_eq_true_iff

section Maps

variable [LinearOrder A]

/-- The badge a change of security asks for. -/
def badgeChange (caller : A) (admins minters nones : Option (List A)) (k : A) :
    Option SecurityBadge :=
  if k = caller then none
  else if listed nones k then some .None
  else if listed admins k then some .Admin
  else if listed minters k then some .Minter
  else none

theorem get_insertAll (list : Option (List A)) (badge : SecurityBadge)
    (m : BTreeMap A SecurityBadge) (k : A) :
    (insertAll list badge m).get k = if k ∈ list.getD [] then some badge else m.get k :=
  Overlay.foldl_insert_const badge k (list.getD []) m

theorem BTreeMap.get_remove_of_ne (m : BTreeMap A SecurityBadge) {k a : A} (h : k ≠ a) :
    (m.remove a).get k = m.get k := by
  show (Std.ExtTreeMap.erase m a)[k]? = m[k]?
  rw [Std.ExtTreeMap.getElem?_erase]
  simp [Ne.symm h]

/-- **The map of badge changes** has the strongest badge of each listed key but the caller. -/
theorem Token.secChangeMap_get (caller : A) (admins minters nones : Option (List A)) (k : A) :
    (secChangeMap caller admins minters nones).get k =
      badgeChange caller admins minters nones k := by
  unfold badgeChange
  by_cases hk : k = caller
  · subst hk
    rw [secChangeMap_caller, if_pos rfl]
  · rw [if_neg hk]
    unfold secChangeMap
    rw [BTreeMap.get_remove_of_ne _ hk, get_insertAll, get_insertAll, get_insertAll]
    have hnew : (BTreeMap.new : BTreeMap A SecurityBadge).get k = none :=
      Std.ExtTreeMap.getElem?_empty
    simp only [hnew, listed_iff]

/-- Only which keys are listed matters: not their order, nor how often, nor whether a list
without keys is given at all. -/
theorem Token.secChangeMap_congr (caller : A) {admins admins' minters minters' nones nones' :
    Option (List A)} (ha : ∀ k, k ∈ admins.getD [] ↔ k ∈ admins'.getD [])
    (hm : ∀ k, k ∈ minters.getD [] ↔ k ∈ minters'.getD [])
    (hn : ∀ k, k ∈ nones.getD [] ↔ k ∈ nones'.getD []) :
    secChangeMap caller admins minters nones = secChangeMap caller admins' minters' nones' := by
  apply Std.ExtTreeMap.ext_getElem?
  intro k
  have h := secChangeMap_get caller admins minters nones k
  have h' := secChangeMap_get caller admins' minters' nones' k
  have he : badgeChange caller admins minters nones k =
      badgeChange caller admins' minters' nones' k := by
    unfold badgeChange
    simp only [listed_iff, ha, hm, hn]
  exact h.trans (he.trans h'.symm)

/-! ### The documented groups -/

/-- The access groups of the documentation, strongest first. -/
inductive AccessGroup where
  | None
  | Admin
  | MintAndBurn
  | Burner
  | Minter
  deriving DecidableEq, Repr

/-- The badge of a group, if the contract has one. -/
def AccessGroup.badge : AccessGroup → Option SecurityBadge
  | .None => some .None
  | .Admin => some .Admin
  | .MintAndBurn => none
  | .Burner => none
  | .Minter => some .Minter

/-- The strongest of the lists that name a key. -/
def ChangeSecurityArgs.strongest (args : ChangeSecurityArgs A) (k : A) : Option AccessGroup :=
  if listed args.noneList k then some .None
  else if listed args.adminList k then some .Admin
  else if listed args.mintAndBurnList k then some .MintAndBurn
  else if listed args.burnerList k then some .Burner
  else if listed args.minterList k then some .Minter
  else none

end Maps

end Cep18
