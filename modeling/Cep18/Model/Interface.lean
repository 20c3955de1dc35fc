import Cep18.Model.EntryPoints

/-!
# The declared interface

`entry_points.rs`: what the contract says of its entry points, under the names of
`constants.rs`. All of them are public and of type `Contract`. A host does not check arguments
against what is declared.
-/

namespace Cep18

open Constants

/-- `CLType`, as far as it is declared. -/
inductive CLType where
  | Unit | U8 | U256 | String | Key
  deriving DecidableEq, Repr

/-- `Parameter`. -/
structure Parameter where
  name : String
  cl_type : CLType
  deriving DecidableEq, Repr

/-- `casper_types::EntryPoint`: the declaration of an entry point. -/
structure EntryPointDeclaration where
  name : String
  args : List Parameter
  ret : CLType
  deriving DecidableEq, Repr

namespace Constants

def NAME_ENTRY_POINT_NAME := "name"
def SYMBOL_ENTRY_POINT_NAME := "symbol"
def DECIMALS_ENTRY_POINT_NAME := "decimals"
def BALANCE_OF_ENTRY_POINT_NAME := "balance_of"
def TRANSFER_ENTRY_POINT_NAME := "transfer"
def APPROVE_ENTRY_POINT_NAME := "approve"
def ALLOWANCE_ENTRY_POINT_NAME := "allowance"
def TRANSFER_FROM_ENTRY_POINT_NAME := "transfer_from"
def TOTAL_SUPPLY_ENTRY_POINT_NAME := "total_supply"
def MINT_ENTRY_POINT_NAME := "mint"
def BURN_ENTRY_POINT_NAME := "burn"
def INIT_ENTRY_POINT_NAME := "init"
def CHANGE_SECURITY_ENTRY_POINT_NAME := "change_security"
def INCREASE_ALLOWANCE_ENTRY_POINT_NAME := "increase_allowance"
def DECREASE_ALLOWANCE_ENTRY_POINT_NAME := "decrease_allowance"

end Constants

namespace EntryPoints

/-- `entry_points::name`. -/
def name : EntryPointDeclaration := ⟨NAME_ENTRY_POINT_NAME, [], .String⟩

/-- `entry_points::symbol`. -/
def symbol : EntryPointDeclaration := ⟨SYMBOL_ENTRY_POINT_NAME, [], .String⟩

/-- `entry_points::transfer_from`. -/
def transferFrom : EntryPointDeclaration :=
  ⟨TRANSFER_FROM_ENTRY_POINT_NAME, [⟨OWNER, .Key⟩, ⟨RECIPIENT, .Key⟩, ⟨AMOUNT, .U256⟩], .Unit⟩

/-- `entry_points::allowance`. -/
def allowance : EntryPointDeclaration :=
  ⟨ALLOWANCE_ENTRY_POINT_NAME, [⟨OWNER, .Key⟩, ⟨SPENDER, .Key⟩], .U256⟩

/-- `entry_points::approve`. -/
def approve : EntryPointDeclaration :=
  ⟨APPROVE_ENTRY_POINT_NAME, [⟨SPENDER, .Key⟩, ⟨AMOUNT, .U256⟩], .Unit⟩

/-- `entry_points::increase_allowance`. -/
def increaseAllowance : EntryPointDeclaration :=
  ⟨INCREASE_ALLOWANCE_ENTRY_POINT_NAME, [⟨SPENDER, .Key⟩, ⟨AMOUNT, .U256⟩], .Unit⟩

/-- `entry_points::decrease_allowance`. -/
def decreaseAllowance : EntryPointDeclaration :=
  ⟨DECREASE_ALLOWANCE_ENTRY_POINT_NAME, [⟨SPENDER, .Key⟩, ⟨AMOUNT, .U256⟩], .Unit⟩

/-- `entry_points::transfer`. -/
def transfer : EntryPointDeclaration :=
  ⟨TRANSFER_ENTRY_POINT_NAME, [⟨RECIPIENT, .Key⟩, ⟨AMOUNT, .U256⟩], .Unit⟩

/-- `entry_points::balance_of`. -/
def balanceOf : EntryPointDeclaration := ⟨BALANCE_OF_ENTRY_POINT_NAME, [⟨ADDRESS, .Key⟩], .U256⟩

/-- `entry_points::total_supply`. -/
def totalSupply : EntryPointDeclaration := ⟨TOTAL_SUPPLY_ENTRY_POINT_NAME, [], .U256⟩

/-- `entry_points::decimals`. -/
def decimals : EntryPointDeclaration := ⟨DECIMALS_ENTRY_POINT_NAME, [], .U8⟩

/-- `entry_points::burn`. -/
def burn : EntryPointDeclaration :=
  ⟨BURN_ENTRY_POINT_NAME, [⟨OWNER, .Key⟩, ⟨AMOUNT, .U256⟩], .Unit⟩

/-- `entry_points::mint`. -/
def mint : EntryPointDeclaration :=
  ⟨MINT_ENTRY_POINT_NAME, [⟨OWNER, .Key⟩, ⟨AMOUNT, .U256⟩], .Unit⟩

/-- `entry_points::change_security`: its lists are optional, and only mentioned in a comment. -/
def changeSecurity : EntryPointDeclaration := ⟨CHANGE_SECURITY_ENTRY_POINT_NAME, [], .Unit⟩

/-- `entry_points::init`. -/
def init : EntryPointDeclaration := ⟨INIT_ENTRY_POINT_NAME, [], .Unit⟩

end EntryPoints

/-- The declaration of an entry point. -/
def EntryPoint.declaration : EntryPoint → EntryPointDeclaration
  | .init => EntryPoints.init
  | .name => EntryPoints.name
  | .symbol => EntryPoints.symbol
  | .decimals => EntryPoints.decimals
  | .totalSupply => EntryPoints.totalSupply
  | .balanceOf => EntryPoints.balanceOf
  | .transfer => EntryPoints.transfer
  | .approve => EntryPoints.approve
  | .allowance => EntryPoints.allowance
  | .decreaseAllowance => EntryPoints.decreaseAllowance
  | .increaseAllowance => EntryPoints.increaseAllowance
  | .transferFrom => EntryPoints.transferFrom
  | .changeSecurity => EntryPoints.changeSecurity
  | .burn => EntryPoints.burn
  | .mint => EntryPoints.mint

/-- The declarations of `generate_entry_points`, which are looked up by name. -/
def EntryPoint.ofName (name : String) : Option EntryPoint :=
  generateEntryPoints.find? fun entryPoint => entryPoint.declaration.name = name

end Cep18
