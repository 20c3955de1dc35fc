import Cep18.Lib.Blake2b
import Cep18.Model.ItemKeys
import Cep18.Model.Reference
import Cep18.Proof.Entries

/-!
# The item keys of the contract

Different entries have different item keys, none of them over 64 characters: the texts of
keys and of pairs differ in length, base64 and hexadecimal lose nothing, and the bytes of a
key can be told from what follows them.
-/

namespace Cep18

open Program Decoder Encoding

variable {Key : Type} {K : Set Key}
variable {key : Codec BytesreprError Key} {blake2b : Bytes → Bytes}

/-- Base64 of a key is short: 48 characters for 34 bytes. -/
theorem length_balanceItem (hkey : ∀ k, (key.enc k).length ≤ 34) (k : Key) :
    (Balances.makeDictionaryItemKey key k).length ≤ 48 := by
  have hlen := hkey k
  unfold Balances.makeDictionaryItemKey
  rw [length_encodeBase64]
  omega

theorem length_allowanceItem (hash32 : ∀ bytes, (blake2b bytes).length = 32) (o sp : Key) :
    (Allowances.makeDictionaryItemKey key blake2b o sp).length = 64 := by
  unfold Allowances.makeDictionaryItemKey
  rw [length_encodeBase16, hash32]

/-- **The item keys of the contract keep different entries apart**, if the hash has no collision
among the pairs concerned. -/
theorem storedItems_separates (hkey : ∀ k, (key.enc k).length ≤ 34)
    (hash32 : ∀ bytes, (blake2b bytes).length = 32)
    (hash_inj : ∀ o ∈ K, ∀ sp ∈ K, ∀ o' ∈ K, ∀ sp' ∈ K,
      blake2b (key.enc o ++ key.enc sp) = blake2b (key.enc o' ++ key.enc sp') →
        key.enc o ++ key.enc sp = key.enc o' ++ key.enc sp') :
    (storedItems key blake2b).Separates K := by
  -- the texts of a key and of a pair differ in length
  have hne : ∀ k o sp, Balances.makeDictionaryItemKey key k ≠
      Allowances.makeDictionaryItemKey key blake2b o sp := by
    intro k o sp he
    have h1 := length_balanceItem hkey k
    have h2 : (Allowances.makeDictionaryItemKey key blake2b o sp).length = 64 :=
      length_allowanceItem hash32 o sp
    rw [← he] at h2
    omega
  intro i j hi hj h
  cases i with
  | ofKey k =>
    cases j with
    | ofKey k' =>
      have hk : k = k' := key.enc_inj (encodeBase64_inj h)
      rw [hk]
    | ofPair o' sp' => exact absurd h (hne k o' sp')
  | ofPair o sp =>
    cases j with
    | ofKey k' => exact absurd h.symm (hne k' o sp)
    | ofPair o' sp' =>
      have hhash := encodeBase16_inj h
      have hbytes := hash_inj o hi.1 sp hi.2 o' hj.1 sp' hj.2 hhash
      -- the bytes of the owner end where they end, whatever follows
      obtain ⟨ho, hs⟩ := key.append_inj hbytes
      rw [ho, key.enc_inj hs]

/-- **The contract's dictionaries are maps over keys and pairs of keys.** Between keys among whose
pairs the hash has no collision, an installation and every call have the same answer as on a
store with such maps, and all entries are the same after every run; a call that succeeds
changes entries of the parties to its operation only; accounts and contracts, and owner and
spender exchanged, have entries of their own; and no item key is over 64 characters. -/
theorem stored_as_maps {Key : Type} [CasperKey Key] (K : Set Key)
    (key : Codec BytesreprError Key) (blake2b : Bytes → Bytes)
    (hkey : ∀ k, (key.enc k).length ≤ 34) (hash32 : ∀ bytes, (blake2b bytes).length = 32)
    (hash_inj : ∀ o ∈ K, ∀ sp ∈ K, ∀ o' ∈ K, ∀ sp' ∈ K,
      blake2b (key.enc o ++ key.enc sp) = blake2b (key.enc o' ++ key.enc sp') →
        key.enc o ++ key.enc sp = key.enc o' ++ key.enc sp')
    (kinds : ∀ h, (ofAccount h : Key) ≠ ofHash h) :
    (∀ (env : Env Key) (name : String) (before : Store Key (storedItems key blake2b)),
        answer (installContract env name) before =
          answer (installContract env name) before.asMaps) ∧
      (∀ d : Deployment Key (storedItems key blake2b),
        ∃ d' : Deployment Key (mapItems Key).toItemKeys,
          d'.before = d.before.asMaps ∧ d.Agrees K d') ∧
      (∀ (d : Deployment Key (storedItems key blake2b)) (calls : List (Call Key)) (c : Call Key),
        (∀ c ∈ calls, c.Within K) → c.Within K → c.Succeeds (d.after calls) →
          ∃ op, c.op? = some op ∧ op.Touches K (d.after calls) (exec (d.after calls) c)) ∧
      (∀ h, Balances.makeDictionaryItemKey key (ofAccount h) ≠
        Balances.makeDictionaryItemKey key (ofHash h)) ∧
      (∀ o ∈ K, ∀ sp ∈ K, o ≠ sp → Allowances.makeDictionaryItemKey key blake2b o sp ≠
        Allowances.makeDictionaryItemKey key blake2b sp o) ∧
      (∀ k, (Balances.makeDictionaryItemKey key k).length ≤ 64) ∧
      ∀ o sp, (Allowances.makeDictionaryItemKey key blake2b o sp).length ≤ 64 := by
  have hsep := storedItems_separates hkey hash32 hash_inj
  have hmaps : (mapItems Key).Separates K := mapItems_separates K
  refine ⟨?_, ?_, ?_, ?_, ?_, ?_, ?_⟩
  · intro env name before
    exact (installContract_same hsep hmaps env name).answer_eq (asMaps_alike before)
  · intro d
    exact d.exists_agrees hsep hmaps (asMaps_alike d.before)
  · intro d calls c hcalls hc hs
    obtain ⟨d', -, h⟩ := d.exists_agrees hsep hmaps (asMaps_alike d.before)
    exact h.touches hcalls hc hs
  · intro h he
    have heq : Entry.ofKey (ofAccount h : Key) = .ofKey (ofHash h) := hsep _ _ trivial trivial he
    exact kinds h (Entry.ofKey.inj heq)
  · intro o ho sp hsp hne he
    have heq : Entry.ofPair o sp = .ofPair sp o := hsep _ _ ⟨ho, hsp⟩ ⟨hsp, ho⟩ he
    exact hne (Entry.ofPair.inj heq).1
  · intro k
    have hlen := length_balanceItem hkey k
    omega
  · intro o sp
    exact (length_allowanceItem hash32 o sp).le

/-- An account, a contract and a URef with the same address. -/
def somePlainKeys : List PlainKey := [.account 1, .hash 1, .uref 1]

/-- Their pairs have nine different hashes. -/
theorem somePlainKeys_hash_inj : ∀ o ∈ {k | k ∈ somePlainKeys}, ∀ sp ∈ {k | k ∈ somePlainKeys},
    ∀ o' ∈ {k | k ∈ somePlainKeys}, ∀ sp' ∈ {k | k ∈ somePlainKeys},
      Blake2b.hash (PlainKey.codec.enc o ++ PlainKey.codec.enc sp) =
          Blake2b.hash (PlainKey.codec.enc o' ++ PlainKey.codec.enc sp') →
        PlainKey.codec.enc o ++ PlainKey.codec.enc sp =
          PlainKey.codec.enc o' ++ PlainKey.codec.enc sp' := by
  have hnodup : ((somePlainKeys.product somePlainKeys).map fun p =>
      Blake2b.hash (PlainKey.codec.enc p.1 ++ PlainKey.codec.enc p.2)).Nodup := by
    decide +kernel
  intro o ho sp hsp o' ho' sp' hsp' h
  have hp := List.pair_mem_product.2 ⟨ho, hsp⟩
  have hp' := List.pair_mem_product.2 ⟨ho', hsp'⟩
  have heq := List.inj_on_of_nodup_map hnodup hp hp' h
  obtain ⟨rfl, rfl⟩ := Prod.mk.inj heq
  rfl

theorem stored_as_maps_plain :
    (∀ h : BitVec 256, Balances.makeDictionaryItemKey PlainKey.codec (.account h) ≠
        Balances.makeDictionaryItemKey PlainKey.codec (.hash h)) ∧
      Allowances.makeDictionaryItemKey PlainKey.codec Blake2b.hash (.account 1) (.uref 1) ≠
        Allowances.makeDictionaryItemKey PlainKey.codec Blake2b.hash (.uref 1) (.account 1) := by
  have hmaps := stored_as_maps { k | k ∈ somePlainKeys } PlainKey.codec Blake2b.hash
    PlainKey.length_toBytes Blake2b.length_hash somePlainKeys_hash_inj
    (fun h he => by cases he)
  exact ⟨hmaps.2.2.2.1, hmaps.2.2.2.2.1 _ (by decide) _ (by decide) (by decide)⟩

end Cep18
