import Cep18.Lib.Decoder
import Cep18.Model.Utils

/-!
# Arguments as bytes

What a host hands out of an argument are its bytes. `utils.rs` asks for their number, has the
host fill a buffer of that size and deserializes what is in it. The host's functions are a
parameter (`ExtFfi`), and so are the encodings of `u32`, `Key` and `U256` (`WireTypes`); those of
a byte, a string and a list of keys are built on them as in `bytesrepr`.

`WireTypes.arg` is what the rest of the model takes an argument to be: what its bytes mean at
each of the types that arguments are read at.
-/

namespace Cep18

open Decoder

/-- The functions of `ext_ffi` that give out arguments, and `alloc_bytes`. A function that fills a
buffer returns what is in it then. -/
structure ExtFfi where
  casperGetNamedArgSize : String → Except ApiError ℕ
  casperGetNamedArg : String → Bytes → Except ApiError Bytes
  allocBytes : ℕ → Bytes

/-- The encodings that others are built on. -/
structure WireTypes (Key : Type) where
  u32 : TotalCodec BytesreprError UInt32
  key : TotalCodec BytesreprError Key
  u256 : TotalCodec BytesreprError U256

namespace Wire

variable {Key : Type}

/-! ### `bytesrepr` -/

/-- `bytesrepr::deserialize`. -/
def deserialize {T : Type} (fromBytes : Bytes → Decoded BytesreprError T) :
    Bytes → Decoded BytesreprError T := whole .LeftOverBytes fromBytes

/-- `u8::from_bytes`. -/
def u8FromBytes : Bytes → Decoded BytesreprError UInt8
  | [] => .err .EarlyEndOfStream
  | byte :: rest => .ok byte rest

/-- `String::to_bytes`. -/
def stringToBytes (u32 : TotalCodec BytesreprError UInt32) (text : String) : Bytes :=
  let bytes := text.toUTF8.data.toList
  u32.enc (UInt32.ofNat bytes.length) ++ bytes

/-- `String::from_bytes`. -/
def stringFromBytes (u32 : TotalCodec BytesreprError UInt32) (bytes : Bytes) :
    Decoded BytesreprError String :=
  (u32.dec bytes).thenDecode fun size remainder =>
    (decodeBytes .EarlyEndOfStream size.toNat remainder).thenDecode fun strBytes remainder =>
      match String.fromUTF8? ⟨strBytes.toArray⟩ with
      | some result => .ok result remainder
      | none => .err .Formatting

/-- `Vec::to_bytes`, at `Vec<Key>`. -/
def vecToBytes (types : WireTypes Key) (list : List Key) : Bytes :=
  types.u32.enc (UInt32.ofNat list.length) ++ list.flatMap types.key.enc

/-- `Vec::from_bytes`, at `Vec<Key>`. -/
def vecFromBytes (types : WireTypes Key) (bytes : Bytes) : Decoded BytesreprError (List Key) :=
  (types.u32.dec bytes).thenDecode fun count stream =>
    repeatDecode types.key.dec count.toNat stream

/-! ### `utils.rs` -/

variable [CasperKey Key] {D : ItemKeys Key} {T : Type}

/-- `get_named_arg_size`. -/
def getNamedArgSize (ffi : ExtFfi) (name : String) : HostM Key D (Option ℕ) :=
  match ffi.casperGetNamedArgSize name with
  | .ok argSize => pure (some argSize)
  | .error .missingArgument => pure none
  | .error e => throw e

/-- `get_named_arg_with_user_errors`. -/
def getNamedArgWithUserErrors (ffi : ExtFfi) (fromBytes : Bytes → Decoded BytesreprError T)
    (name : String) (missing invalid : Cep18Error) : HostM Key D (Except Cep18Error T) := do
  match ← getNamedArgSize ffi name with
  | none => return .error missing
  | some argSize =>
    let argBytes ←
      if argSize > 0 then
        unwrapOrRevertWith (Cep18Error.toApi .FailedToGetArgBytes)
          (ffi.casperGetNamedArg name (ffi.allocBytes argSize)).toOption
      -- the host is not asked for nothing
      else pure []
    match deserialize fromBytes argBytes with
    | .ok val _ => return .ok val
    | .err _ => return .error invalid
    | .panic => throw .host

/-- `get_optional_named_arg_with_user_errors`. -/
def getOptionalNamedArgWithUserErrors (ffi : ExtFfi)
    (fromBytes : Bytes → Decoded BytesreprError T) (name : String) (invalid : Cep18Error) :
    HostM Key D (Option T) := do
  match ← getNamedArgWithUserErrors ffi fromBytes name .Phantom invalid with
  | .ok val => return some val
  | .error .Phantom => return none
  | .error _ => revert invalid

end Wire

/-! ### What the bytes mean -/

variable {Key : Type}

/-- What the bytes of an argument are read as. -/
def WireTypes.arg (types : WireTypes Key) (bytes : Bytes) : Arg Key where
  asKey := (Wire.deserialize types.key.dec bytes).value?
  asU256 := (Wire.deserialize types.u256.dec bytes).value?
  asU8 := (Wire.deserialize Wire.u8FromBytes bytes).value?
  asString := (Wire.deserialize (Wire.stringFromBytes types.u32) bytes).value?
  asKeys := (Wire.deserialize (Wire.vecFromBytes types) bytes).value?

/-- `RuntimeArgs`, given as bytes. -/
def WireTypes.args (types : WireTypes Key) (args : String → Option Bytes) : RuntimeArgs Key :=
  fun name => (args name).map types.arg

end Cep18
