import Cep18.Model.Reference

/-!
# Decoding a `ChangeSecurity` event

A badge's decoder returns the empty slice whatever followed the badge, so the map decoder
loses its place after the first entry. `decode_encode_iff`: decoding undoes encoding for
empty maps, and for maps of one entry with nothing after them, and for no others.
-/

namespace Cep18

open Decoder

variable {Key : Type} [LinearOrder Key]
variable (u32 : Codec BytesreprError UInt32) (key : Codec BytesreprError Key)

/-- A badge decoded from its own bytes swallows whatever follows. -/
theorem SecurityBadge.fromBytes_toBytes (badge : SecurityBadge) (rest : Bytes) :
    fromBytes (badge.toBytes ++ rest) = .ok badge [] := by
  cases badge <;> rfl

/-- What a badge is decoded from, and that nothing is left. -/
theorem SecurityBadge.fromBytes_eq_ok {badge : SecurityBadge} {bytes rest : Bytes} :
    fromBytes bytes = .ok badge rest ↔ rest = [] ∧ ∃ tail, bytes = badge.toBytes ++ tail := by
  constructor
  · intro h
    cases bytes with
    | nil => cases h
    | cons b tail =>
      simp only [fromBytes] at h
      split_ifs at h with h0 h1 h2
      · cases h; exact ⟨rfl, tail, by rw [h0]; rfl⟩
      · cases h; exact ⟨rfl, tail, by rw [h1]; rfl⟩
      · cases h; exact ⟨rfl, tail, by rw [h2]; rfl⟩
  · rintro ⟨rfl, tail, rfl⟩
    exact fromBytes_toBytes badge tail

omit [LinearOrder Key] in
/-- An entry is a key and a badge, and nothing is left after it. -/
theorem entry_eq_ok {p : Key × SecurityBadge} {bytes rest : Bytes} :
    pairDecode key.dec SecurityBadge.fromBytes bytes = .ok p rest ↔
      rest = [] ∧ ∃ tail, key.dec bytes = .ok p.1 (p.2.toBytes ++ tail) := by
  rw [pairDecode_eq_ok]
  constructor
  · rintro ⟨r, h1, h2⟩
    obtain ⟨rfl, tail, rfl⟩ := SecurityBadge.fromBytes_eq_ok.1 h2
    exact ⟨rfl, tail, h1⟩
  · rintro ⟨rfl, tail, h⟩
    exact ⟨_, h, SecurityBadge.fromBytes_toBytes p.2 tail⟩

omit [LinearOrder Key] in
/-- An entry decoded from its own bytes swallows whatever follows. -/
theorem entry_decode (k : Key) (badge : SecurityBadge) (rest : Bytes) :
    pairDecode key.dec SecurityBadge.fromBytes (key.enc k ++ badge.toBytes ++ rest) =
      .ok (k, badge) [] := by
  rw [List.append_assoc]
  exact (entry_eq_ok key).2 ⟨rfl, rest, key.undoes k _⟩

omit [LinearOrder Key] in
/-- No entry can be decoded from nothing: a badge needs a byte. -/
theorem entry_decode_nil (p : Key × SecurityBadge) (rest : Bytes) :
    pairDecode key.dec SecurityBadge.fromBytes [] ≠ .ok p rest := by
  intro h
  obtain ⟨-, tail, hk⟩ := (entry_eq_ok key).1 h
  cases key.leavesSuffix.nil hk

/-- Decoding what was encoded starts with the count, and goes on with the entries. -/
theorem mapFromBytes_mapToBytes (map : BTreeMap Key SecurityBadge) (rest : Bytes) :
    mapFromBytes u32 key (mapToBytes u32 key map ++ rest) =
      (repeatDecode (pairDecode key.dec SecurityBadge.fromBytes) (UInt32.ofNat map.len).toNat
        ((map.iter.flatMap fun (k, badge) => key.enc k ++ badge.toBytes) ++ rest)).thenDecode
        fun entries stream =>
          .ok (entries.foldl (fun map p => map.insert p.1 p.2) .new) stream := by
  unfold mapFromBytes mapToBytes
  rw [List.append_assoc, u32.undoes]
  rfl

/-- A map with several entries is never decoded. -/
theorem not_decoded_of_many {map : BTreeMap Key SecurityBadge} {k : Key} {badge : SecurityBadge}
    {p : Key × SecurityBadge} {entries : List (Key × SecurityBadge)}
    (h : map.iter = (k, badge) :: p :: entries) (rest rest' : Bytes) :
    mapFromBytes u32 key (mapToBytes u32 key map ++ rest) ≠ .ok map rest' := by
  have hlen : map.len = entries.length + 2 := by rw [← map.iter_length, h]; rfl
  rw [mapFromBytes_mapToBytes, h, List.flatMap_cons, List.append_assoc]
  intro hok
  obtain ⟨decoded, stream, hrep, hmap⟩ := thenDecode_eq_ok.1 hok
  -- how many entries the count says there are
  rcases hn : (UInt32.ofNat map.len).toNat with _ | _ | n
  · rw [hn] at hrep
    cases hrep
    cases hmap
    have : (BTreeMap.new : BTreeMap Key SecurityBadge).len = 0 := rfl
    simp only [List.foldl_nil] at hlen
    omega
  · rw [hn] at hrep
    unfold repeatDecode at hrep
    rw [entry_decode] at hrep
    cases hrep
    cases hmap
    have := BTreeMap.len_insert_new k badge
    simp only [List.foldl_cons, List.foldl_nil] at hlen
    omega
  · -- the second entry is decoded from nothing
    rw [hn] at hrep
    unfold repeatDecode at hrep
    rw [entry_decode] at hrep
    obtain ⟨_, _, hfirst, hrep⟩ := thenDecode_eq_ok.1 hrep
    cases hfirst
    obtain ⟨_, _, hrest, -⟩ := thenDecode_eq_ok.1 hrep
    unfold repeatDecode at hrest
    obtain ⟨q, r', hq, -⟩ := thenDecode_eq_ok.1 hrest
    exact entry_decode_nil key q r' hq

/-- **Decoding undoes encoding** for the map of a `ChangeSecurity` event exactly if the map is
empty, or has one entry and nothing follows it. -/
theorem decode_encode_iff (map : BTreeMap Key SecurityBadge) (rest : Bytes) :
    mapFromBytes u32 key (mapToBytes u32 key map ++ rest) = .ok map rest ↔
      map.len = 0 ∨ (map.len = 1 ∧ rest = []) := by
  rcases h : map.iter with _ | ⟨⟨k, badge⟩, _ | ⟨p, entries⟩⟩
  · have hlen : map.len = 0 := by rw [← map.iter_length, h]; rfl
    have hmap : map = .new := BTreeMap.iter_inj (h.trans rfl)
    rw [mapFromBytes_mapToBytes, h, hlen]
    simp only [true_or, iff_true]
    rw [hmap]; rfl
  · have hlen : map.len = 1 := by rw [← map.iter_length, h]; rfl
    have hmap := BTreeMap.eq_insert_new h
    have hdec : mapFromBytes u32 key (mapToBytes u32 key map ++ rest) = .ok map [] := by
      rw [mapFromBytes_mapToBytes, h, hlen, List.flatMap_singleton]
      show (repeatDecode _ 1 _).thenDecode _ = _
      unfold repeatDecode
      rw [entry_decode]
      simp only [Decoded.thenDecode, repeatDecode, List.foldl_cons, List.foldl_nil, ← hmap]
    rw [hdec, hlen]
    constructor
    · intro heq
      cases heq
      exact Or.inr ⟨rfl, rfl⟩
    · rintro (h0 | ⟨-, rfl⟩)
      · cases h0
      · rfl
  · have hlen : map.len = entries.length + 2 := by rw [← map.iter_length, h]; rfl
    constructor
    · intro hok
      exact absurd hok (not_decoded_of_many u32 key h rest rest)
    · rintro (h0 | ⟨h1, -⟩) <;> omega

/-- Two accounts, an Admin and a Minter. -/
def twoBadges : BTreeMap PlainKey SecurityBadge :=
  (BTreeMap.new.insert (.account 1) .Admin).insert (.account 2) .Minter

/-- The map of two badges does not survive its own encoding. -/
theorem twoBadges_lost :
    ¬ ∀ (map : BTreeMap PlainKey SecurityBadge) (rest : Bytes),
      mapFromBytes u32Codec PlainKey.codec (mapToBytes u32Codec PlainKey.codec map ++ rest) =
        .ok map rest := by
  intro h
  have hiter : twoBadges.iter = [(.account 1, .Admin), (.account 2, .Minter)] := by decide +kernel
  exact not_decoded_of_many u32Codec PlainKey.codec hiter [] [] (h twoBadges [])

end Cep18
