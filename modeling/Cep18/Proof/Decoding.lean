import Cep18.Proof.Codec

/-!
# Decoding bytes that were cut short

A badge's decoder reads its byte unchecked, so it panics on the empty slice. The map decoder
gives it the empty slice exactly where the bytes end at a badge: after the first key, or, since
a badge leaves nothing, at the second entry of a map whose keys can be read from nothing.

`badge_decoding_total_iff`: on every other input, both decoders return a value with a suffix
of the input left, or an error.
-/

namespace Cep18

open Decoder

/-! ### One badge -/

theorem SecurityBadge.fromBytes_eq_panic {bytes : Bytes} :
    fromBytes bytes = .panic ↔ bytes = [] := by
  constructor
  · intro h
    cases bytes with
    | nil => rfl
    | cons b tail =>
      simp only [fromBytes] at h
      split_ifs at h
  · rintro rfl
    rfl

theorem SecurityBadge.fromBytes_leavesSuffix : LeavesSuffix fromBytes := by
  intro bytes badge rest h
  obtain ⟨rfl, -⟩ := fromBytes_eq_ok.1 h
  exact List.nil_suffix

/-! ### The entries of a map -/

variable {Key : Type} {u32 : Codec BytesreprError UInt32} {key : Codec BytesreprError Key}

/-- An entry panics exactly if its key is all there is. -/
theorem entry_eq_panic (hk : NeverPanics key.dec) {bytes : Bytes} :
    pairDecode key.dec SecurityBadge.fromBytes bytes = .panic ↔ ∃ k, key.dec bytes = .ok k [] := by
  rw [pairDecode_eq_panic]
  constructor
  · rintro (h | ⟨k, rest, h1, h2⟩)
    · exact absurd h (hk bytes)
    · rw [SecurityBadge.fromBytes_eq_panic.1 h2] at h1
      exact ⟨k, h1⟩
  · rintro ⟨k, h⟩
    exact Or.inr ⟨k, [], h, rfl⟩

/-- Of the entries due in the bytes, one has its key at their very end: the first, or the second,
read from the nothing that the first has left. -/
def EndsAtBadge (key : Codec BytesreprError Key) (count : ℕ) (bytes : Bytes) : Prop :=
  (1 ≤ count ∧ ∃ k, key.dec bytes = .ok k []) ∨
    (2 ≤ count ∧ (∃ k badge tail, key.dec bytes = .ok k (SecurityBadge.toBytes badge ++ tail)) ∧
      ∃ k, key.dec [] = .ok k [])

/-- **The entries panic** exactly if the bytes end where a badge is due. -/
theorem entries_eq_panic (hk : NeverPanics key.dec) (count : ℕ) (bytes : Bytes) :
    repeatDecode (pairDecode key.dec SecurityBadge.fromBytes) count bytes = .panic ↔
      EndsAtBadge key count bytes := by
  unfold EndsAtBadge
  rcases count with _ | _ | n
  · -- no entry is due
    simp [repeatDecode]
  · rw [repeatDecode_eq_panic, entry_eq_panic hk]
    simp [repeatDecode]
  · rw [repeatDecode_eq_panic, entry_eq_panic hk]
    constructor
    · rintro (h | ⟨p, rest, h1, h2⟩)
      · exact Or.inl ⟨by omega, h⟩
      · obtain ⟨rfl, tail, hp⟩ := (entry_eq_ok key).1 h1
        rcases repeatDecode_eq_panic.1 h2 with h3 | ⟨q, r, h3, -⟩
        · exact Or.inr ⟨by omega, ⟨p.1, p.2, tail, hp⟩, (entry_eq_panic hk).1 h3⟩
        · exact absurd h3 (entry_decode_nil key q r)
    · rintro (⟨-, h⟩ | ⟨-, ⟨k, badge, tail, hp⟩, h⟩)
      · exact Or.inl h
      · right
        refine ⟨(k, badge), [], (entry_eq_ok key).2 ⟨rfl, tail, hp⟩, ?_⟩
        exact repeatDecode_eq_panic.2 (Or.inl ((entry_eq_panic hk).2 h))

/-! ### The map -/

/-- The bytes of a map end where a badge is due. -/
def CutAtBadge (u32 : Codec BytesreprError UInt32) (key : Codec BytesreprError Key)
    (bytes : Bytes) : Prop :=
  ∃ count stream, u32.dec bytes = .ok count stream ∧ EndsAtBadge key count.toNat stream

variable [LinearOrder Key]

theorem mapFromBytes_leavesSuffix : LeavesSuffix (mapFromBytes u32 key) := by
  have hentry : LeavesSuffix (pairDecode key.dec SecurityBadge.fromBytes) :=
    key.leavesSuffix.pairDecode SecurityBadge.fromBytes_leavesSuffix
  have hentries : ∀ count : UInt32,
      LeavesSuffix (repeatDecode (pairDecode key.dec SecurityBadge.fromBytes) count.toNat) :=
    fun count => hentry.repeatDecode count.toNat
  exact u32.leavesSuffix.thenDecode fun count =>
    (hentries count).thenDecode fun entries => LeavesSuffix.ok _

theorem mapFromBytes_eq_panic (hu : NeverPanics u32.dec) (hk : NeverPanics key.dec)
    {bytes : Bytes} : mapFromBytes u32 key bytes = .panic ↔ CutAtBadge u32 key bytes := by
  unfold mapFromBytes CutAtBadge
  rw [thenDecode_eq_panic]
  simp only [hu bytes, false_or]
  -- once the entries are read, inserting them does not panic
  simp [thenDecode_eq_panic, entries_eq_panic hk]

/-- **Badge decoding is total exactly where no badge is due at the end of the bytes.** For every
byte string, a badge is decoded to a value with a suffix left, or to an error, exactly if the
string is not empty; and a map of badges exactly if it is not cut at a badge. Elsewhere the
decoders panic. -/
theorem badge_decoding_total_iff (hu : NeverPanics u32.dec) (hk : NeverPanics key.dec)
    (bytes : Bytes) :
    ((SecurityBadge.fromBytes bytes).Within bytes ↔ bytes ≠ []) ∧
      ((mapFromBytes u32 key bytes).Within bytes ↔ ¬ CutAtBadge u32 key bytes) := by
  constructor
  · rw [SecurityBadge.fromBytes_leavesSuffix.within_iff]
    exact not_congr SecurityBadge.fromBytes_eq_panic
  · rw [mapFromBytes_leavesSuffix.within_iff]
    exact not_congr (mapFromBytes_eq_panic hu hk)

/-- Bytes that are no badge, and a map of one entry that stops before its key, are rejected. -/
theorem badge_decoding_total_plain :
    (SecurityBadge.fromBytes [3]).Within [3] ∧
      (mapFromBytes u32Codec PlainKey.codec [1, 0, 0, 0]).Within [1, 0, 0, 0] := by
  have hu := u32Codec_neverPanics
  have hk := PlainKey.codec_neverPanics
  refine ⟨(badge_decoding_total_iff hu hk [3]).1.2 (by decide), ?_⟩
  refine (badge_decoding_total_iff hu hk [1, 0, 0, 0]).2.2 ?_
  rintro ⟨count, stream, hcount, hends⟩
  cases hcount
  -- no key can be read from nothing
  rcases hends with ⟨-, k, h⟩ | ⟨-, -, k, h⟩ <;> cases h

/-- The bytes of a map of one entry, cut after the key of the entry. -/
def cutMap : Bytes := u32Codec.enc 1 ++ PlainKey.codec.enc (.account 1)

/-- On the empty slice, and on a map cut after a key, the decoders panic. -/
theorem cutMap_panics :
    ¬ (SecurityBadge.fromBytes []).Within [] ∧
      ¬ (mapFromBytes u32Codec PlainKey.codec cutMap).Within cutMap := by
  have hkey : PlainKey.codec.dec (PlainKey.codec.enc (.account 1)) = .ok (.account 1) [] := by
    simpa using PlainKey.codec.undoes (.account 1) []
  constructor
  · intro h
    exact h
  · rw [mapFromBytes_leavesSuffix.within_iff, not_not,
      mapFromBytes_eq_panic u32Codec_neverPanics PlainKey.codec_neverPanics]
    exact ⟨1, _, u32Codec.undoes 1 _, Or.inl ⟨by decide, .account 1, hkey⟩⟩

end Cep18
