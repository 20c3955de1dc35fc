import Cep18.Model.Types

/-!
# The bytes of a `ChangeSecurity` event

Its map of badge changes goes through the map encoding of `bytesrepr`: a `u32` count, then
the entries in order, each a key followed by a badge. The encodings of `u32` and of `Key`
are parameters, any with the laws of `Codec`; that of a badge is the contract's own.
-/

namespace Cep18

open Decoder

variable {Key : Type} [LinearOrder Key]

/-- `BTreeMap::to_bytes`, at `BTreeMap<Key, SecurityBadge>`. -/
def mapToBytes (u32 : Codec BytesreprError UInt32) (key : Codec BytesreprError Key)
    (map : BTreeMap Key SecurityBadge) : Bytes :=
  u32.enc (UInt32.ofNat map.len) ++ map.iter.flatMap fun (k, badge) => key.enc k ++ badge.toBytes

/-- `BTreeMap::from_bytes`, at `BTreeMap<Key, SecurityBadge>`. -/
def mapFromBytes (u32 : Codec BytesreprError UInt32) (key : Codec BytesreprError Key)
    (bytes : Bytes) : Decoded BytesreprError (BTreeMap Key SecurityBadge) :=
  (u32.dec bytes).thenDecode fun count stream =>
    (repeatDecode (pairDecode key.dec SecurityBadge.fromBytes) count.toNat stream).thenDecode
      fun entries stream => .ok (entries.foldl (fun map p => map.insert p.1 p.2) .new) stream

end Cep18
