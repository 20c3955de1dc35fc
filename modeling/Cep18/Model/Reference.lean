import Cep18.Model.Arguments
import Cep18.Model.Codec
import Cep18.Model.Install
import Mathlib.Data.Nat.Digits.Lemmas
import Mathlib.Data.Prod.Lex

/-!
# A host to run on

The smallest instance of everything the model leaves open: keys that are just an account,
a contract hash or a URef (`PlainKey`), dictionary items that are the keys themselves
(`plainItems`), their byte encoding, and a global state with nothing in it whose addresses count up
(`Store.blank`). Concrete installations and calls are evaluated on it.
-/

namespace Cep18

open Constants Decoder

inductive PlainKey where
  | account (address : AccountHash)
  | hash (address : HashAddr)
  | uref (address : URef)
  deriving DecidableEq, Repr

namespace PlainKey

/-- Keys are ordered by kind, then by address. -/
def rank : PlainKey → Lex (ℕ × ℕ)
  | account a => toLex (0, a.toNat)
  | hash a => toLex (1, a.toNat)
  | uref a => toLex (2, a.toNat)

theorem rank_injective : Function.Injective rank := by
  intro k k' h
  cases k <;> cases k' <;> simp_all [rank, BitVec.toNat_inj]

instance : LinearOrder PlainKey := LinearOrder.lift' rank rank_injective

instance : CasperKey PlainKey where
  ofAccount := account
  ofHash := hash
  ofURef := uref
  intoHash
    | hash a => some a
    | _ => none
  intoURef
    | uref a => some a
    | _ => none
  intoHash_ofHash _ := rfl
  intoURef_ofURef _ := rfl

end PlainKey

/-! ### Bytes -/

/-- `u32`, least significant byte first. -/
def u32Codec : Codec BytesreprError UInt32 where
  enc n := encodeWord 4 n.toNat
  dec bs := (decodeWord .EarlyEndOfStream 4 bs).thenDecode fun n rest => .ok (UInt32.ofNat n) rest
  undoes n rest := by
    have hn : n.toNat < 256 ^ 4 := n.toNat_lt
    simp only [decodeWord_encodeWord _ 4 _ rest hn, Decoded.thenDecode, UInt32.ofNat_toNat]
  leavesSuffix bs n rest h := by
    obtain ⟨m, r, h1, h2⟩ := thenDecode_eq_ok.1 h
    cases h2
    exact decodeWord_suffix _ 4 _ _ _ h1

theorem u32Codec_neverPanics : NeverPanics u32Codec.dec :=
  (decodeWord_neverPanics _ 4).thenDecode fun n => NeverPanics.ok (UInt32.ofNat n)

/-- The 32 bytes of an address. -/
def addressCodec : Codec BytesreprError (BitVec 256) where
  enc a := encodeWord 32 a.toNat
  dec bs := (decodeWord .EarlyEndOfStream 32 bs).thenDecode fun n rest =>
    .ok (BitVec.ofNat 256 n) rest
  undoes a rest := by
    have ha : a.toNat < 256 ^ 32 := a.isLt
    simp only [decodeWord_encodeWord _ 32 _ rest ha, Decoded.thenDecode, BitVec.ofNat_toNat,
      BitVec.setWidth_eq]
  leavesSuffix bs a rest h := by
    obtain ⟨m, r, h1, h2⟩ := thenDecode_eq_ok.1 h
    cases h2
    exact decodeWord_suffix _ 32 _ _ _ h1

namespace PlainKey

/-- A tag and an address; a URef has a byte of access rights after it. -/
def toBytes : PlainKey → Bytes
  | account a => 0 :: addressCodec.enc a
  | hash a => 1 :: addressCodec.enc a
  | uref a => 2 :: (addressCodec.enc a ++ [7])

/-- The byte of access rights. -/
def skipRights (k : PlainKey) : Bytes → Decoded BytesreprError PlainKey
  | [] => .err .EarlyEndOfStream
  | rights :: rest => if rights ≤ 7 then .ok k rest else .err .Formatting

def fromBytes : Bytes → Decoded BytesreprError PlainKey
  | [] => .err .EarlyEndOfStream
  | tag :: bytes =>
    if tag = 0 then (addressCodec.dec bytes).thenDecode fun a rest => .ok (account a) rest
    else if tag = 1 then (addressCodec.dec bytes).thenDecode fun a rest => .ok (hash a) rest
    else if tag = 2 then (addressCodec.dec bytes).thenDecode fun a rest => skipRights (uref a) rest
    else .err .Formatting

theorem skipRights_suffix (k : PlainKey) : LeavesSuffix (skipRights k) := by
  intro bs k' rest h
  cases bs with
  | nil => cases h
  | cons b bs =>
    simp only [skipRights] at h
    split_ifs at h
    cases h
    exact List.suffix_cons b _

def codec : Codec BytesreprError PlainKey where
  enc := toBytes
  dec := fromBytes
  undoes k rest := by
    cases k with
    | account a => simp [toBytes, fromBytes, addressCodec.undoes a rest, Decoded.thenDecode]
    | hash a => simp [toBytes, fromBytes, addressCodec.undoes a rest, Decoded.thenDecode]
    | uref a =>
      simp only [toBytes, fromBytes, List.cons_append, List.append_assoc]
      rw [addressCodec.undoes a]
      simp [Decoded.thenDecode, skipRights]
  leavesSuffix bs k rest h := by
    cases bs with
    | nil => cases h
    | cons b bs =>
      simp only [fromBytes] at h
      split_ifs at h
      · obtain ⟨a, r, h1, h2⟩ := thenDecode_eq_ok.1 h
        cases h2
        exact (addressCodec.leavesSuffix _ _ _ h1).trans (List.suffix_cons b bs)
      · obtain ⟨a, r, h1, h2⟩ := thenDecode_eq_ok.1 h
        cases h2
        exact (addressCodec.leavesSuffix _ _ _ h1).trans (List.suffix_cons b bs)
      · obtain ⟨a, r, h1, h2⟩ := thenDecode_eq_ok.1 h
        exact ((skipRights_suffix _ _ _ _ h2).trans (addressCodec.leavesSuffix _ _ _ h1)).trans
          (List.suffix_cons b bs)

theorem addressCodec_neverPanics : NeverPanics addressCodec.dec :=
  (decodeWord_neverPanics _ 32).thenDecode fun n => NeverPanics.ok (BitVec.ofNat 256 n)

theorem skipRights_neverPanics (k : PlainKey) : NeverPanics (skipRights k) := by
  intro bs h
  cases bs with
  | nil => cases h
  | cons b bs =>
    simp only [skipRights] at h
    split_ifs at h

theorem codec_neverPanics : NeverPanics codec.dec := by
  have haddress := addressCodec_neverPanics
  intro bs h
  cases bs with
  | nil => cases h
  | cons tag bs =>
    simp only [codec, fromBytes] at h
    split_ifs at h
    · exact haddress.thenDecode (fun a => NeverPanics.ok (account a)) bs h
    · exact haddress.thenDecode (fun a => NeverPanics.ok (hash a)) bs h
    · exact haddress.thenDecode (fun a => skipRights_neverPanics (uref a)) bs h

/-- A key takes 33 bytes, and a URef 34. -/
theorem length_toBytes (k : PlainKey) : (codec.enc k).length ≤ 34 := by
  cases k <;> simp [codec, toBytes, addressCodec]

end PlainKey

/-- `U256`: the number of its bytes, without the highest that are zero, then these. -/
def u256Codec : TotalCodec BytesreprError U256 where
  enc n :=
    let size := (Nat.digits 256 n.toNat).length
    UInt8.ofNat size :: encodeWord size n.toNat
  dec
    | [] => .err .EarlyEndOfStream
    | size :: bs =>
      if 32 < size.toNat then .err .Formatting
      else (decodeWord .EarlyEndOfStream size.toNat bs).thenDecode fun n rest =>
        .ok (BitVec.ofNat 256 n) rest
  undoes n rest := by
    have hsize : (Nat.digits 256 n.toNat).length ≤ 32 :=
      (Nat.digits_length_le_iff (by omega) _).2 n.isLt
    have hlt : (Nat.digits 256 n.toNat).length < 2 ^ 8 := by omega
    have hbyte : (UInt8.ofNat (Nat.digits 256 n.toNat).length).toNat =
        (Nat.digits 256 n.toNat).length := UInt8.toNat_ofNat_of_lt hlt
    have hn : n.toNat < 256 ^ (Nat.digits 256 n.toNat).length :=
      Nat.lt_base_pow_length_digits (by omega)
    simp only [List.cons_append, hbyte, if_neg (Nat.not_lt.2 hsize),
      decodeWord_encodeWord _ _ _ rest hn, Decoded.thenDecode, BitVec.ofNat_toNat,
      BitVec.setWidth_eq]
  leavesSuffix bs n rest h := by
    cases bs with
    | nil => cases h
    | cons size bs =>
      simp only at h
      split_ifs at h
      obtain ⟨m, r, h1, h2⟩ := thenDecode_eq_ok.1 h
      cases h2
      exact (decodeWord_suffix _ _ _ _ _ h1).trans (List.suffix_cons size bs)
  neverPanics bs h := by
    cases bs with
    | nil => cases h
    | cons size bs =>
      simp only at h
      split_ifs at h
      exact (decodeWord_neverPanics _ _).thenDecode
        (fun n => NeverPanics.ok (BitVec.ofNat 256 n)) bs h

/-- The encodings of arguments. -/
def plainTypes : WireTypes PlainKey where
  u32 := { u32Codec with neverPanics := u32Codec_neverPanics }
  key := { PlainKey.codec with neverPanics := PlainKey.codec_neverPanics }
  u256 := u256Codec

/-! ### State and calls -/

/-- Items addressed by the keys themselves. -/
def plainItems : DistinctItemKeys PlainKey where
  Item := PlainKey × Option PlainKey
  decItem := inferInstance
  ofKey k := (k, none)
  ofPair o s := (o, some s)
  ofKey_inj _ _ h := congrArg Prod.fst h
  ofPair_inj _ _ _ _ h := ⟨congrArg Prod.fst h, Option.some.inj (congrArg Prod.snd h)⟩

/-- A global state with nothing in it. -/
def Store.blank : Store PlainKey plainItems.toItemKeys where
  named _ := none
  values _ := none
  dicts _ := none
  logs _ := none
  contracts _ := none
  packages _ := none
  address n := BitVec.ofNat 256 n
  next := 0
  writes := 0

/-- Named arguments from a list. -/
def argList (l : List (String × Arg PlainKey)) : RuntimeArgs PlainKey := fun name =>
  (l.find? (·.1 = name)).map (·.2)

/-- Session code run by an account. -/
def Env.session (account : AccountHash) (args : List (String × Arg PlainKey)) : Env PlainKey where
  callStack := [.Session account]
  caller := account
  args := argList args

/-- The arguments that every installation needs, for a supply and two modalities. -/
def installArgs (name : String) (supply : U256) (eventsMode enableMintBurn : UInt8) :
    List (String × Arg PlainKey) :=
  [(NAME, { asString := some name }), (SYMBOL, { asString := some "TKN" }),
    (DECIMALS, { asU8 := some 9 }), (TOTAL_SUPPLY, { asU256 := some supply }),
    (EVENTS_MODE, { asU8 := some eventsMode }), (ENABLE_MINT_BURN, { asU8 := some enableMintBurn })]

/-- A call of an entry point by an account. -/
def Call.plain (account : AccountHash) (entryPoint : EntryPoint)
    (args : List (String × Arg PlainKey)) : Call PlainKey where
  entryPoint := entryPoint
  env := {
    callStack := [.Session account, .StoredContract 0 0]
    caller := account
    args := argList args }

/-- Account 1 installs a token on the blank state, and the installation succeeds. -/
def installOn (args : List (String × Arg PlainKey))
    (h : (deploy (Env.session 1 args) "token" Store.blank).isSome) :
    Deployment PlainKey plainItems.toItemKeys where
  env := Env.session 1 args
  name := "token"
  before := Store.blank
  store := (deploy (Env.session 1 args) "token" Store.blank).get h
  deployed := (Option.some_get h).symm

/-- Account 1's token: a supply of 100, with events and with minting and burning enabled. -/
def plainToken : Deployment PlainKey plainItems.toItemKeys :=
  installOn (installArgs "token" 100 1 1) (by decide +kernel)

end Cep18
