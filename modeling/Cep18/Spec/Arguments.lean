import Cep18.Model.Arguments
import Cep18.Model.EntryPoints

/-!
# Arguments in transit

A caller gives values, bytes are sent, and the code reads them at types of its own choice.

* `ArgValue`: what is given; `ArgValue.toBytes` is how it is sent.
* `Sent`: a call on its way. `Sent.env` is the environment that the rest of the model has for it,
  `Sent.received` the one that its bytes give.
* `EntryPoint.reads`, `sessionReads`: the arguments that code reads, and at which types;
  `Env.SameOn` is about these.
* `ExtFfi.Serves`: the host gives out the bytes it was sent.
-/

namespace Cep18

open Constants Decoder

/-- The types that arguments are read at. -/
inductive ArgType where
  | key | u256 | u8 | string | keys
  deriving DecidableEq, Repr

/-- What a caller gives for an argument. -/
inductive ArgValue (Key : Type) where
  | key (k : Key)
  | u256 (n : U256)
  | u8 (n : UInt8)
  | string (text : String)
  | keys (list : List Key)

variable {Key : Type}

namespace ArgValue

def type : ArgValue Key → ArgType
  | key _ => .key
  | u256 _ => .u256
  | u8 _ => .u8
  | string _ => .string
  | keys _ => .keys

/-- What the rest of the model takes the argument to be. -/
def arg : ArgValue Key → Arg Key
  | key k => .ofKey k
  | u256 n => .ofU256 n
  | u8 n => .ofU8 n
  | string text => .ofString text
  | keys list => { asKeys := some list }

/-- `to_bytes`. -/
def toBytes (types : WireTypes Key) : ArgValue Key → Bytes
  | key k => types.key.enc k
  | u256 n => types.u256.enc n
  | u8 n => [n]
  | string text => Wire.stringToBytes types.u32 text
  | keys list => Wire.vecToBytes types list

/-- The length of a string or a list fits in the 32 bits that it is sent in. -/
def Fits : ArgValue Key → Prop
  | string text => text.toUTF8.data.toList.length < 2 ^ 32
  | keys list => list.length < 2 ^ 32
  | _ => True

end ArgValue

/-! ### What is read -/

/-- What an entry point reads, and at which type. -/
def EntryPoint.reads : EntryPoint → List (String × ArgType)
  | .init =>
    [(PACKAGE_HASH, .key), (TOTAL_SUPPLY, .u256), (ADMIN_LIST, .keys), (MINTER_LIST, .keys)]
  | .name | .symbol | .decimals | .totalSupply => []
  | .balanceOf => [(ADDRESS, .key)]
  | .transfer => [(RECIPIENT, .key), (AMOUNT, .u256)]
  | .approve | .decreaseAllowance | .increaseAllowance => [(SPENDER, .key), (AMOUNT, .u256)]
  | .allowance => [(SPENDER, .key), (OWNER, .key)]
  | .transferFrom => [(RECIPIENT, .key), (OWNER, .key), (AMOUNT, .u256)]
  | .changeSecurity => [(ADMIN_LIST, .keys), (MINTER_LIST, .keys), (NONE_LIST, .keys)]
  | .burn | .mint => [(OWNER, .key), (AMOUNT, .u256)]

/-- What the session code reads. -/
def sessionReads : List (String × ArgType) :=
  [(NAME, .string), (SYMBOL, .string), (DECIMALS, .u8), (TOTAL_SUPPLY, .u256), (EVENTS_MODE, .u8),
    (ADMIN_LIST, .keys), (MINTER_LIST, .keys), (ENABLE_MINT_BURN, .u8)]

/-- What is read of an argument at a type: whether it is there, and what it is if it can be read. -/
def Env.read (T : Type) [FromArg Key T] (env : Env Key) (name : String) : Option (Option T) :=
  (env.args name).map FromArg.fromArg

/-- The two environments have the same argument, read at the type. -/
def ArgType.Same (env env' : Env Key) (name : String) : ArgType → Prop
  | .key => env'.read Key name = env.read Key name
  | .u256 => env'.read U256 name = env.read U256 name
  | .u8 => env'.read UInt8 name = env.read UInt8 name
  | .string => env'.read String name = env.read String name
  | .keys => env'.read (List Key) name = env.read (List Key) name

/-- **The two environments have the same of all that is read.** -/
def Env.SameOn (reads : List (String × ArgType)) (env env' : Env Key) : Prop :=
  ∀ p ∈ reads, p.2.Same env env' p.1

theorem ArgType.same_of_eq {env env' : Env Key} {name : String}
    (h : env'.args name = env.args name) (type : ArgType) : type.Same env env' name := by
  cases type <;> simp only [Same, Env.read, h]

/-! ### What is sent -/

/-- A call on its way. -/
structure Sent (Key : Type) where
  callStack : List CallStackElement
  caller : AccountHash
  values : String → Option (ArgValue Key)

namespace Sent

/-- The call as the rest of the model has it. -/
def env (c : Sent Key) : Env Key where
  callStack := c.callStack
  caller := c.caller
  args name := (c.values name).map ArgValue.arg

/-- The call as its bytes are read. -/
def received (types : WireTypes Key) (c : Sent Key) : Env Key where
  callStack := c.callStack
  caller := c.caller
  args := types.args fun name => (c.values name).map (ArgValue.toBytes types)

/-- What is given is of the types that it is read at, and fits. -/
def Typed (reads : List (String × ArgType)) (c : Sent Key) : Prop :=
  ∀ p ∈ reads, ∀ v, c.values p.1 = some v → v.type = p.2 ∧ v.Fits

end Sent

/-- **The host gives out the bytes of arguments**: their number, the bytes in a buffer that has room
for them, and buffers of the size that is asked for, with anything in them. -/
structure ExtFfi.Serves (ffi : ExtFfi) (args : String → Option Bytes) : Prop where
  missing : ∀ name, args name = none →
    ffi.casperGetNamedArgSize name = .error .missingArgument
  size : ∀ name bytes, args name = some bytes → ffi.casperGetNamedArgSize name = .ok bytes.length
  fill : ∀ name bytes buffer, args name = some bytes → bytes.length ≤ buffer.length →
    ffi.casperGetNamedArg name buffer = .ok (bytes ++ buffer.drop bytes.length)
  alloc : ∀ n, (ffi.allocBytes n).length = n

end Cep18
