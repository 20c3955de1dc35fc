import Cep18.Lib.Simulate
import Cep18.Model.ClientCalls
import Cep18.Model.Install
import Cep18.Spec.View

/-!
# What the client is for

Whoever uses the client means to do something to a token, from an account, and is told how it
went.

* `ClientCall`: what the client can be asked to change; `ClientCall.deploy` is what it sends,
  and `ClientCall.op` the operation that is meant, as far as the contract knows it.
* `Token.outcome`: what the user is to be told of an operation; `Token.session`: what a list of
  requests is to do.
* `Reports`, `ContractReader.Reads`: what the node says of errors and of values.
* `ContractReader.Shows`, `ContractReader.ShowsInstalled`: what the queries by name say.
-/

namespace Cep18

open Program

/-! ### Calls -/

/-- What the client can be asked to do to an installed token. -/
inductive ClientCall (Key : Type) where
  | transfer (args : TransferArgs Key)
  | transferFrom (args : TransferFromArgs Key)
  | approve (args : ApproveArgs Key)
  | increaseAllowance (args : ApproveArgs Key)
  | decreaseAllowance (args : ApproveArgs Key)
  | mint (args : MintArgs Key)
  | burn (args : BurnArgs Key)
  | changeSecurity (args : ChangeSecurityArgs Key)

/-- What the client sends, or throws. -/
def ClientCall.deploy {Key : Type} (package contract : HashAddr) (sender : AccountHash) :
    ClientCall Key → Except String (Call Key)
  | .transfer args => .ok (CEP18Client.transfer package contract args sender)
  | .transferFrom args => .ok (CEP18Client.transferFrom package contract args sender)
  | .approve args => .ok (CEP18Client.approve package contract args sender)
  | .increaseAllowance args => .ok (CEP18Client.increaseAllowance package contract args sender)
  | .decreaseAllowance args => .ok (CEP18Client.decreaseAllowance package contract args sender)
  | .mint args => .ok (CEP18Client.mint package contract args sender)
  | .burn args => .ok (CEP18Client.burn package contract args sender)
  | .changeSecurity args => CEP18Client.changeSecurity package contract args sender

/-- The operation that is meant, by the account that signs. The lists `burnerList` and
`mintAndBurnList` are no part of it: the client takes and sends them, but the contract has no such
groups and reads neither. A request with these lists alone means an operation that changes no
badge. -/
def ClientCall.op {Key : Type} (sender : Key) : ClientCall Key → Op Key
  | .transfer args => .transfer sender args.recipient args.amount
  | .transferFrom args => .transferFrom sender args.owner args.recipient args.amount
  | .approve args => .approve sender args.spender args.amount
  | .increaseAllowance args => .increaseAllowance sender args.spender args.amount
  | .decreaseAllowance args => .decreaseAllowance sender args.spender args.amount
  | .mint args => .mint sender args.owner args.amount
  | .burn args => .burn sender args.owner args.amount
  | .changeSecurity args => .changeSecurity sender args.adminList args.minterList args.noneList

/-- The calls that need minting and burning to be enabled. -/
def ClientCall.NeedsMintBurn {Key : Type} : ClientCall Key → Prop
  | .mint _ | .burn _ | .changeSecurity _ => True
  | _ => False

/-! ### Outcomes -/

/-- The name of an error of the contract. -/
def Cep18Error.name : Cep18Error → String
  | .InvalidContext => "InvalidContext"
  | .InsufficientBalance => "InsufficientBalance"
  | .InsufficientAllowance => "InsufficientAllowance"
  | .Overflow => "Overflow"
  | .PackageHashMissing => "PackageHashMissing"
  | .PackageHashNotPackage => "PackageHashNotPackage"
  | .InvalidEventsMode => "InvalidEventsMode"
  | .MissingEventsMode => "MissingEventsMode"
  | .Phantom => "Phantom"
  | .FailedToGetArgBytes => "FailedToGetArgBytes"
  | .InsufficientRights => "InsufficientRights"
  | .InvalidAdminList => "InvalidAdminList"
  | .InvalidMinterList => "InvalidMinterList"
  | .InvalidNoneList => "InvalidNoneList"
  | .InvalidEnableMBFlag => "InvalidEnableMBFlag"
  | .AlreadyInitialized => "AlreadyInitialized"
  | .MintBurnDisabled => "MintBurnDisabled"
  | .CannotTargetSelfUser => "CannotTargetSelfUser"
  | .InvalidBurnTarget => "InvalidBurnTarget"
  | .MissingPackageHashForUpgrade => "MissingPackageHashForUpgrade"

/-- The node's text for an error that the contract reverts with is its number. -/
structure Reports (report : ApiError → String) : Prop where
  user : ∀ code, report (.user code) = "User error: " ++ code.repr

/-- The result that the node has for a deploy. -/
def executionResult (report : ApiError → String) : Except ApiError CLValue → ExecutionResult
  | .ok _ => .Success
  | .error e => .Failure (report e)

/-- **What the user is to be told**: that the operation went through, or the token's error by its
code and its name. -/
def Token.outcome {A : Type} [LinearOrder A] (T : Token A) (op : Op A) :
    Except DeployError (List ExecutionResult) :=
  match T.step op with
  | .ok _ => .ok [.Success]
  | .error e => .error (.contractError (some e.code) (some e.name))

/-- **What a session is to do**: the operations that the requests mean, one after the other, each by
the account that signs it. As in `ClientCall.op`, lists that the contract does not know are left
out. -/
def Token.session {Key : Type} [CasperKey Key] (T : Token Key)
    (requests : List (AccountHash × ClientCall Key)) : Token Key :=
  requests.foldl (fun T p => T.exec (some (p.2.op (ofAccount p.1)))) T

/-! ### Values -/

variable {Key : Type} [CasperKey Key] {D : ItemKeys Key}

/-- The node reads the named keys of the contract. -/
structure ContractReader.Reads (reader : ContractReader) (s : Store Key D) : Prop where
  found : ∀ name v, (s.uref name).bind s.values = some v →
    reader.queryContractData [name] = .ok v

/-- **What the queries by name say of a token.** -/
structure ContractReader.Shows (reader : ContractReader) (T : Token Key) : Prop where
  name : CEP18Client.name reader = .ok (.string T.name)
  symbol : CEP18Client.symbol reader = .ok (.string T.symbol)
  decimals : CEP18Client.decimals reader = .ok (.u8 T.decimals)
  totalSupply : CEP18Client.totalSupply reader = .ok (.u256 (BitVec.ofNat 256 T.totalSupply))
  eventsMode : CEP18Client.eventsMode reader =
    .ok (CEP18Client.EVENTS_MODE T.eventsMode.number.toNat)
  isMintAndBurnEnabled : CEP18Client.isMintAndBurnEnabled reader =
    .ok (decide (T.enableMintBurn ≠ 0))

/-- **What the queries by name say of a token that the client has installed**, whatever has
happened to it since. -/
structure ContractReader.ShowsInstalled (reader : ContractReader) (args : InstallArgs) : Prop where
  name : CEP18Client.name reader = .ok (.string args.name)
  symbol : CEP18Client.symbol reader = .ok (.string args.symbol)
  decimals : CEP18Client.decimals reader = .ok (.u8 args.decimals)
  eventsMode : CEP18Client.eventsMode reader =
    .ok (CEP18Client.EVENTS_MODE (args.eventsMode.getD .NoEvents).number.toNat)
  isMintAndBurnEnabled : CEP18Client.isMintAndBurnEnabled reader =
    .ok (args.enableMintAndBurn.getD false)
  totalSupply : args.enableMintAndBurn.getD false = false →
    CEP18Client.totalSupply reader = .ok (.u256 args.totalSupply)

end Cep18
