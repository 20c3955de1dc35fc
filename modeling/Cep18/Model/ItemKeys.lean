import Cep18.Lib.Encoding
import Cep18.Model.Types

/-!
# Dictionary item keys

The strings under which the contract keeps its entries (`balances.rs`, `allowances.rs`):
balances and badges under base64 of the bytes of a key, allowances under the hexadecimal
digits of a hash of the bytes of owner and spender. The bytes of a key are those of any
`Codec`, and `runtime::blake2b` is any function.
-/

namespace Cep18

open Decoder Encoding

variable {Key : Type}

/-- `balances::make_dictionary_item_key`; `sec_check`, `change_sec_badge` and `init` encode
the key of a badge in the same way. -/
def Balances.makeDictionaryItemKey (key : Codec BytesreprError Key) (owner : Key) : String :=
  let preimage := key.enc owner
  encodeBase64 preimage

/-- `allowances::make_dictionary_item_key`. -/
def Allowances.makeDictionaryItemKey (key : Codec BytesreprError Key) (blake2b : Bytes → Bytes)
    (owner spender : Key) : String :=
  let preimage : Bytes := []
  let preimage := preimage ++ key.enc owner
  let preimage := preimage ++ key.enc spender
  let keyBytes := blake2b preimage
  encodeBase16 keyBytes

/-- The items of the dictionaries as the contract addresses them. -/
def storedItems (key : Codec BytesreprError Key) (blake2b : Bytes → Bytes) : ItemKeys Key where
  Item := String
  decItem := inferInstance
  ofKey := Balances.makeDictionaryItemKey key
  ofPair := Allowances.makeDictionaryItemKey key blake2b

end Cep18
