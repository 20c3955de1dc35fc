import Cep18.Model.Client

/-!
# Deploys by the JavaScript client

The rest of `CEP18Client.ts`: the deploys that it builds (`install`, and a call for each entry
point that changes something), the values that it queries by name, and what it makes of the
result of a deploy (`parseDeployResult`, `error.ts`). Numbers are what the builders accept; the
node that answers queries is a parameter (`ContractReader`).
-/

namespace Cep18

/-! ### Arguments -/

/-- `InstallArgs`. -/
structure InstallArgs where
  name : String
  symbol : String
  decimals : UInt8
  totalSupply : U256
  eventsMode : Option EventsMode := none
  enableMintAndBurn : Option Bool := none

/-- `TransferArgs`. -/
structure TransferArgs (Key : Type) where
  recipient : Key
  amount : U256

/-- `TransferFromArgs`. -/
structure TransferFromArgs (Key : Type) extends TransferArgs Key where
  owner : Key

/-- `ApproveArgs`. -/
structure ApproveArgs (Key : Type) where
  spender : Key
  amount : U256

/-- `MintArgs`. -/
structure MintArgs (Key : Type) where
  owner : Key
  amount : U256

/-- `BurnArgs`. -/
structure BurnArgs (Key : Type) where
  owner : Key
  amount : U256

/-- The numbers of the enum `EVENTS_MODE`. -/
def EventsMode.number : EventsMode → UInt8
  | .NoEvents => 0
  | .CES => 1

variable {Key : Type}

namespace CEP18Client

/-- `EVENTS_MODE[number]`: the name of a member of the enum. -/
def EVENTS_MODE (number : ℕ) : Option String :=
  match number with
  | 0 => some "NoEvents"
  | 1 => some "CES"
  | _ => none

/-! ### Deploys -/

/-- `install`: the session that a deploy of the contract's code, signed by `sender`, runs. -/
def install (args : InstallArgs) (sender : AccountHash) : Env Key :=
  let runtimeArgs : List (String × Arg Key) := [
    ("name", .ofString args.name),
    ("symbol", .ofString args.symbol),
    ("decimals", .ofU8 args.decimals),
    ("total_supply", .ofU256 args.totalSupply)]
  let runtimeArgs := match args.eventsMode with
    | some eventsMode => runtimeArgs ++ [("events_mode", .ofU8 eventsMode.number)]
    | none => runtimeArgs
  let runtimeArgs := match args.enableMintAndBurn with
    | some enableMintAndBurn =>
      runtimeArgs ++ [("enable_mint_burn", .ofU8 (if enableMintAndBurn then 1 else 0))]
    | none => runtimeArgs
  { callStack := [.Session sender]
    caller := sender
    args := Cep18.runtimeArgs runtimeArgs }

variable (contractPackageHash contractHash : HashAddr)

/-- `transfer`. -/
def transfer (args : TransferArgs Key) (sender : AccountHash) : Call Key :=
  let runtimeArgs := runtimeArgs [("recipient", .ofKey args.recipient), ("amount", .ofU256 args.amount)]
  callEntrypoint contractPackageHash contractHash .transfer runtimeArgs sender

/-- `transferFrom`. -/
def transferFrom (args : TransferFromArgs Key) (sender : AccountHash) : Call Key :=
  let runtimeArgs := runtimeArgs [("owner", .ofKey args.owner), ("recipient", .ofKey args.recipient),
    ("amount", .ofU256 args.amount)]
  callEntrypoint contractPackageHash contractHash .transferFrom runtimeArgs sender

/-- `approve`. -/
def approve (args : ApproveArgs Key) (sender : AccountHash) : Call Key :=
  let runtimeArgs := runtimeArgs [("spender", .ofKey args.spender), ("amount", .ofU256 args.amount)]
  callEntrypoint contractPackageHash contractHash .approve runtimeArgs sender

/-- `increaseAllowance`. -/
def increaseAllowance (args : ApproveArgs Key) (sender : AccountHash) : Call Key :=
  let runtimeArgs := runtimeArgs [("spender", .ofKey args.spender), ("amount", .ofU256 args.amount)]
  callEntrypoint contractPackageHash contractHash .increaseAllowance runtimeArgs sender

/-- `decreaseAllowance`. -/
def decreaseAllowance (args : ApproveArgs Key) (sender : AccountHash) : Call Key :=
  let runtimeArgs := runtimeArgs [("spender", .ofKey args.spender), ("amount", .ofU256 args.amount)]
  callEntrypoint contractPackageHash contractHash .decreaseAllowance runtimeArgs sender

/-- `mint`. -/
def mint (args : MintArgs Key) (sender : AccountHash) : Call Key :=
  let runtimeArgs := runtimeArgs [("owner", .ofKey args.owner), ("amount", .ofU256 args.amount)]
  callEntrypoint contractPackageHash contractHash .mint runtimeArgs sender

/-- `burn`. -/
def burn (args : BurnArgs Key) (sender : AccountHash) : Call Key :=
  let runtimeArgs := runtimeArgs [("owner", .ofKey args.owner), ("amount", .ofU256 args.amount)]
  callEntrypoint contractPackageHash contractHash .burn runtimeArgs sender

end CEP18Client

/-! ### Values -/

/-- `queryContractData` of `casper-js-sdk`: the value under a path of named keys of the contract. -/
structure ContractReader where
  queryContractData : List String → Except Thrown CLValue

/-- `(value as BigNumber).toNumber()`. -/
def CLValue.toNumber : CLValue → Except Thrown ℕ
  | .u8 value => .ok value.toNat
  | .u32 value => .ok value
  -- the largest safe integer
  | .u256 value => if value.toNat ≤ 2 ^ 53 - 1 then .ok value.toNat else .error .other
  | _ => .error .other

namespace CEP18Client

/-- `name`. -/
def name (reader : ContractReader) : Except Thrown CLValue := reader.queryContractData ["name"]

/-- `symbol`. -/
def symbol (reader : ContractReader) : Except Thrown CLValue := reader.queryContractData ["symbol"]

/-- `decimals`. -/
def decimals (reader : ContractReader) : Except Thrown CLValue :=
  reader.queryContractData ["decimals"]

/-- `totalSupply`. -/
def totalSupply (reader : ContractReader) : Except Thrown CLValue :=
  reader.queryContractData ["total_supply"]

/-- `eventsMode`. -/
def eventsMode (reader : ContractReader) : Except Thrown (Option String) := do
  let internalValue ← reader.queryContractData ["events_mode"]
  let u8res ← internalValue.toNumber
  return EVENTS_MODE u8res

/-- `isMintAndBurnEnabled`. -/
def isMintAndBurnEnabled (reader : ContractReader) : Except Thrown Bool := do
  let internalValue ← reader.queryContractData ["enable_mint_burn"]
  let u8res ← internalValue.toNumber
  return u8res ≠ 0

end CEP18Client

/-! ### Results of deploys -/

/-- The members of the enum `ERROR_CODES`. -/
def errorCodes : List (String × ℕ) := [
  ("InvalidContext", 60000),
  ("InsufficientBalance", 60001),
  ("InsufficientAllowance", 60002),
  ("Overflow", 60003),
  ("PackageHashMissing", 60004),
  ("PackageHashNotPackage", 60005),
  ("InvalidEventsMode", 60006),
  ("MissingEventsMode", 60007),
  ("Phantom", 60008),
  ("FailedToGetArgBytes", 60009),
  ("InsufficientRights", 60010),
  ("InvalidAdminList", 60011),
  ("InvalidMinterList", 60012),
  ("InvalidNoneList", 60013),
  ("InvalidEnableMBFlag", 60014),
  ("AlreadyInitialized", 60015),
  ("MintBurnDisabled", 60016),
  ("CannotTargetSelfUser", 60017),
  ("InvalidBurnTarget", 60018),
  ("MissingPackageHashForUpgrade", 60019)]

/-- `ERROR_CODES[code]`: the name of a member of the enum. -/
def ERROR_CODES (code : ℤ) : Option String := (errorCodes.find? (·.2 = code)).map (·.1)

/-- What `parseDeployResult` throws. -/
inductive DeployError where
  /-- `ContractError`, with `NaN` as no code. -/
  | contractError (code : Option ℤ) (message : Option String)
  | error (message : String)
  deriving DecidableEq, Repr

/-- `new ContractError(code)`. -/
def ContractError (code : Option ℤ) : DeployError := .contractError code (code.bind ERROR_CODES)

/-- The result of an execution, as far as the client looks at it. -/
inductive ExecutionResult where
  | Success
  | Failure (error_message : String)
  deriving DecidableEq, Repr

/-- White space and line terminators of JavaScript. -/
def isStrWhiteSpace (c : Char) : Bool :=
  decide (c.toNat ∈ [0x09, 0x0A, 0x0B, 0x0C, 0x0D, 0x20, 0xA0, 0x1680, 0x2028, 0x2029, 0x202F, 0x205F,
    0x3000, 0xFEFF]) || decide (0x2000 ≤ c.toNat ∧ c.toNat ≤ 0x200A)

/-- The digits that the text starts with, as a number. -/
def parseDigits (text : List Char) : Option ℕ :=
  let digits := text.takeWhile Char.isDigit
  if digits = [] then none else some (Nat.ofDigitChars 10 digits 0)

/-- `parseInt(text, 10)`; no number is `NaN`. -/
def parseInt (text : List Char) : Option ℤ :=
  match text.dropWhile isStrWhiteSpace with
  | '-' :: rest => (parseDigits rest).map fun n => -n
  | '+' :: rest => (parseDigits rest).map fun n => n
  | rest => (parseDigits rest).map fun n => n

/-- `parseDeployResult`, from the execution results that the node has for the deploy. -/
def CEP18Client.parseDeployResult (execution_results : List ExecutionResult) :
    Except DeployError (List ExecutionResult) :=
  match execution_results with
  | .Failure error_message :: _ =>
    let contractErrorMessagePrefix := "User error: "
    if contractErrorMessagePrefix.toList.isPrefixOf error_message.toList then
      let errorCode := parseInt (error_message.toList.drop contractErrorMessagePrefix.length)
      .error (ContractError errorCode)
    else .error (.error error_message)
  | result => .ok result

end Cep18
