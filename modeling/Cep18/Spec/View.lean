import Cep18.Spec.Token

/-!
# What a store says

The contract's data as read off the store in its own context, by the named keys the
contract itself goes through: balances, allowances, badges, the total supply, the two
modalities and the event log.
-/

namespace Cep18

open Constants

variable {Key : Type} [CasperKey Key] {D : ItemKeys Key}

namespace Store

/-- The URef a named key leads to. -/
def uref (s : Store Key D) (name : String) : Option URef := (s.named name).bind intoURef

/-- The value of the URef under a named key. -/
def value (T : Type) [CLTyped T] (s : Store Key D) (name : String) : Option T :=
  ((s.uref name).bind s.values).bind CLTyped.intoT

/-- An item of the dictionary under a named key. -/
def item (T : Type) [CLTyped T] (s : Store Key D) (name : String) (item : D.Item) : Option T :=
  (((s.uref name).bind s.dicts).bind fun d => d item).bind CLTyped.intoT

def balance (s : Store Key D) (k : Key) : U256 := (s.item U256 BALANCES (D.ofKey k)).getD 0

def allowance (s : Store Key D) (owner spender : Key) : U256 :=
  (s.item U256 ALLOWANCES (D.ofPair owner spender)).getD 0

def badge (s : Store Key D) (k : Key) : Option SecurityBadge :=
  s.item SecurityBadge SECURITY_BADGES (D.ofKey k)

def totalSupply (s : Store Key D) : U256 := (s.value U256 TOTAL_SUPPLY).getD 0

def enableMintBurn (s : Store Key D) : UInt8 := (s.value UInt8 ENABLE_MINT_BURN).getD 0

def eventsMode (s : Store Key D) : UInt8 := (s.value UInt8 EVENTS_MODE).getD 0

def log (s : Store Key D) : List (Event Key) := ((s.uref EVENTS_DICT).bind s.logs).getD []

end Store

end Cep18
