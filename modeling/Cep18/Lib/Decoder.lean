import Mathlib.Algebra.Ring.Nat
import Mathlib.Data.List.Infix

/-!
# Decoders that hand on what they leave

A decoder reads a value from the front of a byte string and returns the bytes after
it; it may also reject the bytes, or panic (index past their end). `thenDecode` and
`repeatDecode` run decoders one after another on what the previous one left.

* `Undoes enc dec`: decoding what `enc` wrote returns the value and leaves exactly
  the bytes that followed it.
* `LeavesSuffix dec`: what a decoder leaves is a suffix of its input.
* `NeverPanics dec`: a decoder accepts or rejects, whatever it is given.

The last two pass from decoders to what runs them one after another, and together they
say that the outcome stays `Within` the input.

A `Codec` is an encoder and a decoder with the first two laws; what it writes is
self-delimiting (`Codec.append_inj`). A `TotalCodec` has all three. `encodeWord` and
`decodeWord` are those of numbers of a fixed width, least significant byte first;
`decodeBytes` takes bytes as they are, and `whole` wants a value to take all of them.
-/

namespace Decoder

/-- A byte string. -/
abbrev Bytes := List UInt8

/-- What a decoder makes of a byte string. -/
inductive Decoded (ε α : Type) where
  | ok (a : α) (rest : Bytes)
  | err (e : ε)
  | panic
  deriving DecidableEq, Repr

variable {ε α β : Type}

/-- Decode, then go on with the value and the bytes left. -/
def Decoded.thenDecode (d : Decoded ε α) (f : α → Bytes → Decoded ε β) : Decoded ε β :=
  match d with
  | .ok a rest => f a rest
  | .err e => .err e
  | .panic => .panic

/-- Decode `n` values one after another. -/
def repeatDecode (dec : Bytes → Decoded ε α) : ℕ → Bytes → Decoded ε (List α)
  | 0, bs => .ok [] bs
  | n + 1, bs => (dec bs).thenDecode fun a rest =>
      (repeatDecode dec n rest).thenDecode fun as rest' => .ok (a :: as) rest'

/-- Decode two values one after the other. -/
def pairDecode (da : Bytes → Decoded ε α) (db : Bytes → Decoded ε β) (bs : Bytes) :
    Decoded ε (α × β) :=
  (da bs).thenDecode fun a rest => (db rest).thenDecode fun b rest' => .ok (a, b) rest'

/-- Decoding undoes encoding, whatever bytes follow. -/
def Undoes (enc : α → Bytes) (dec : Bytes → Decoded ε α) : Prop :=
  ∀ a rest, dec (enc a ++ rest) = .ok a rest

/-- What the decoder leaves is a suffix of what it was given. -/
def LeavesSuffix (dec : Bytes → Decoded ε α) : Prop :=
  ∀ bs a rest, dec bs = .ok a rest → rest <:+ bs

/-- The decoder accepts or rejects, and never panics. -/
def NeverPanics (dec : Bytes → Decoded ε α) : Prop := ∀ bs, dec bs ≠ .panic

/-- The outcome stays within `bs`: a value with a suffix of `bs` left, or an error. -/
def Decoded.Within (bs : Bytes) : Decoded ε α → Prop
  | .ok _ rest => rest <:+ bs
  | .err _ => True
  | .panic => False

/-- An encoder, and a decoder that undoes it and only ever moves forward. -/
structure Codec (ε α : Type) where
  enc : α → Bytes
  dec : Bytes → Decoded ε α
  undoes : Undoes enc dec
  leavesSuffix : LeavesSuffix dec

/-- A codec whose decoder never panics. -/
structure TotalCodec (ε α : Type) extends Codec ε α where
  neverPanics : NeverPanics dec

/-- The value, where there is one. -/
def Decoded.value? : Decoded ε α → Option α
  | .ok a _ => some a
  | .err _ => none
  | .panic => none

/-- Decode a value that takes all of the bytes; `e` is the error where some are left. -/
def whole (e : ε) (dec : Bytes → Decoded ε α) (bs : Bytes) : Decoded ε α :=
  (dec bs).thenDecode fun a rest => if rest.isEmpty then .ok a [] else .err e

/-- The next `n` bytes; `e` is the error where there are fewer. -/
def decodeBytes (e : ε) (n : ℕ) (bs : Bytes) : Decoded ε Bytes :=
  if n ≤ bs.length then .ok (bs.take n) (bs.drop n) else .err e

/-- **What a codec writes is self-delimiting**: it can be told apart from what follows it. -/
theorem Codec.append_inj (c : Codec ε α) {a b : α} {s t : Bytes} (h : c.enc a ++ s = c.enc b ++ t) :
    a = b ∧ s = t := by
  have ha := c.undoes a s
  rw [h, c.undoes b t] at ha
  cases ha
  exact ⟨rfl, rfl⟩

theorem Codec.enc_inj (c : Codec ε α) {a b : α} (h : c.enc a = c.enc b) : a = b := by
  have happend : c.enc a ++ [] = c.enc b ++ [] := by rw [h]
  exact (c.append_inj happend).1

theorem thenDecode_eq_ok {d : Decoded ε α} {f : α → Bytes → Decoded ε β} {b : β} {rest : Bytes} :
    d.thenDecode f = .ok b rest ↔ ∃ a r, d = .ok a r ∧ f a r = .ok b rest := by
  cases d with
  | ok a r =>
    constructor
    · intro h; exact ⟨a, r, rfl, h⟩
    · rintro ⟨a', r', h1, h2⟩; cases h1; exact h2
  | err e => simp [Decoded.thenDecode]
  | panic => simp [Decoded.thenDecode]

theorem pairDecode_eq_ok {da : Bytes → Decoded ε α} {db : Bytes → Decoded ε β} {bs rest : Bytes}
    {p : α × β} :
    pairDecode da db bs = .ok p rest ↔
      ∃ r, da bs = .ok p.1 r ∧ db r = .ok p.2 rest := by
  unfold pairDecode
  rw [thenDecode_eq_ok]
  constructor
  · rintro ⟨a, r, h1, h2⟩
    obtain ⟨b, r', h3, h4⟩ := thenDecode_eq_ok.1 h2
    cases h4
    exact ⟨r, h1, h3⟩
  · rintro ⟨r, h1, h2⟩
    exact ⟨p.1, r, h1, thenDecode_eq_ok.2 ⟨p.2, rest, h2, rfl⟩⟩

/-- A sequence panics where its first decoder does, or where the rest does on what it left. -/
theorem thenDecode_eq_panic {d : Decoded ε α} {f : α → Bytes → Decoded ε β} :
    d.thenDecode f = .panic ↔ d = .panic ∨ ∃ a r, d = .ok a r ∧ f a r = .panic := by
  cases d with
  | ok a r =>
    constructor
    · intro h; exact Or.inr ⟨a, r, rfl, h⟩
    · rintro (h | ⟨a', r', h1, h2⟩)
      · cases h
      · cases h1; exact h2
  | err e => simp [Decoded.thenDecode]
  | panic => simp [Decoded.thenDecode]

theorem pairDecode_eq_panic {da : Bytes → Decoded ε α} {db : Bytes → Decoded ε β} {bs : Bytes} :
    pairDecode da db bs = .panic ↔
      da bs = .panic ∨ ∃ a r, da bs = .ok a r ∧ db r = .panic := by
  unfold pairDecode
  -- putting the pair together does not panic
  simp [thenDecode_eq_panic]

theorem repeatDecode_eq_panic {dec : Bytes → Decoded ε α} {n : ℕ} {bs : Bytes} :
    repeatDecode dec (n + 1) bs = .panic ↔
      dec bs = .panic ∨ ∃ a r, dec bs = .ok a r ∧ repeatDecode dec n r = .panic := by
  rw [repeatDecode, thenDecode_eq_panic]
  simp [thenDecode_eq_panic]

/-! ### What is left -/

theorem LeavesSuffix.nil {dec : Bytes → Decoded ε α} (h : LeavesSuffix dec) {a : α} {rest : Bytes}
    (hd : dec [] = .ok a rest) : rest = [] := List.suffix_nil.1 (h [] a rest hd)

theorem LeavesSuffix.thenDecode {dec : Bytes → Decoded ε α} {f : α → Bytes → Decoded ε β}
    (h : LeavesSuffix dec) (hf : ∀ a, LeavesSuffix (f a)) :
    LeavesSuffix fun bs => (dec bs).thenDecode f := by
  intro bs b rest hd
  obtain ⟨a, r, h1, h2⟩ := thenDecode_eq_ok.1 hd
  exact (hf a r b rest h2).trans (h bs a r h1)

theorem LeavesSuffix.ok (a : α) : LeavesSuffix (Decoded.ok a : Bytes → Decoded ε α) := by
  intro bs b rest hd
  cases hd
  exact List.suffix_rfl

theorem LeavesSuffix.pairDecode {da : Bytes → Decoded ε α} {db : Bytes → Decoded ε β}
    (ha : LeavesSuffix da) (hb : LeavesSuffix db) : LeavesSuffix (pairDecode da db) :=
  ha.thenDecode fun a => hb.thenDecode fun b => LeavesSuffix.ok (a, b)

theorem LeavesSuffix.repeatDecode {dec : Bytes → Decoded ε α} (h : LeavesSuffix dec) :
    ∀ n, LeavesSuffix (repeatDecode dec n) := by
  intro n
  induction n with
  | zero => exact LeavesSuffix.ok []
  | succ n ih => exact h.thenDecode fun a => ih.thenDecode fun as => LeavesSuffix.ok (a :: as)

/-- Where what is left is a suffix, a decoder goes past the end only by panicking. -/
theorem LeavesSuffix.within_iff {dec : Bytes → Decoded ε α} (h : LeavesSuffix dec) (bs : Bytes) :
    (dec bs).Within bs ↔ dec bs ≠ .panic := by
  cases hd : dec bs with
  | ok a rest => simpa [Decoded.Within] using h bs a rest hd
  | err e => simp [Decoded.Within]
  | panic => simp [Decoded.Within]

theorem NeverPanics.thenDecode {dec : Bytes → Decoded ε α} {f : α → Bytes → Decoded ε β}
    (h : NeverPanics dec) (hf : ∀ a, NeverPanics (f a)) :
    NeverPanics fun bs => (dec bs).thenDecode f := by
  intro bs hp
  rcases thenDecode_eq_panic.1 hp with h1 | ⟨a, r, -, h2⟩
  · exact h bs h1
  · exact hf a r h2

theorem NeverPanics.ok (a : α) : NeverPanics (Decoded.ok a : Bytes → Decoded ε α) := by
  intro bs h
  cases h

theorem NeverPanics.repeatDecode {dec : Bytes → Decoded ε α} (h : NeverPanics dec) :
    ∀ n, NeverPanics (repeatDecode dec n) := by
  intro n
  induction n with
  | zero => exact NeverPanics.ok []
  | succ n ih => exact h.thenDecode fun a => ih.thenDecode fun as => NeverPanics.ok (a :: as)

theorem NeverPanics.whole {dec : Bytes → Decoded ε α} (h : NeverPanics dec) (e : ε) :
    NeverPanics (whole e dec) := by
  refine h.thenDecode fun a rest hp => ?_
  split_ifs at hp

/-! ### What was written -/

theorem Undoes.repeatDecode {enc : α → Bytes} {dec : Bytes → Decoded ε α} (h : Undoes enc dec) :
    ∀ (as : List α) (rest : Bytes),
      repeatDecode dec as.length (as.flatMap enc ++ rest) = .ok as rest := by
  intro as
  induction as with
  | nil => intro rest; rfl
  | cons a as ih =>
    intro rest
    simp only [List.length_cons, List.flatMap_cons, List.append_assoc, Decoder.repeatDecode,
      h a, Decoded.thenDecode, ih]

theorem Undoes.whole {enc : α → Bytes} {dec : Bytes → Decoded ε α} (h : Undoes enc dec) (e : ε)
    (a : α) : whole e dec (enc a) = .ok a [] := by
  have ha := h a []
  rw [List.append_nil] at ha
  simp [Decoder.whole, ha, Decoded.thenDecode]

theorem decodeBytes_append (e : ε) (bs rest : Bytes) :
    decodeBytes e bs.length (bs ++ rest) = .ok bs rest := by
  simp [decodeBytes]

/-! ### Numbers of a fixed width -/

/-- The `w` lowest bytes of a number, the lowest first. -/
def encodeWord : ℕ → ℕ → Bytes
  | 0, _ => []
  | w + 1, n => UInt8.ofNat (n % 256) :: encodeWord w (n / 256)

/-- A number from its `w` bytes; `e` is the error where there are fewer. -/
def decodeWord (e : ε) : ℕ → Bytes → Decoded ε ℕ
  | 0, bs => .ok 0 bs
  | _ + 1, [] => .err e
  | w + 1, b :: bs => (decodeWord e w bs).thenDecode fun n rest => .ok (b.toNat + 256 * n) rest

@[simp] theorem length_encodeWord : ∀ w n : ℕ, (encodeWord w n).length = w := by
  intro w
  induction w with
  | zero => intro n; rfl
  | succ w ih => intro n; simp only [encodeWord, List.length_cons, ih]

theorem decodeWord_encodeWord (e : ε) :
    ∀ (w n : ℕ) (rest : Bytes), n < 256 ^ w →
      decodeWord e w (encodeWord w n ++ rest) = .ok n rest := by
  intro w
  induction w with
  | zero =>
    intro n rest h
    obtain rfl : n = 0 := by simpa using h
    rfl
  | succ w ih =>
    intro n rest h
    -- the lowest byte comes first, and the others are those of `n / 256`
    have hdiv : n / 256 < 256 ^ w := by
      rw [Nat.div_lt_iff_lt_mul (by omega)]
      rw [Nat.pow_succ] at h; exact h
    have hlow : (UInt8.ofNat (n % 256)).toNat = n % 256 := by
      rw [UInt8.toNat_ofNat']
      exact Nat.mod_eq_of_lt (Nat.mod_lt _ (by omega))
    simp only [encodeWord, List.cons_append, decodeWord, ih _ rest hdiv, Decoded.thenDecode, hlow]
    rw [Nat.mod_add_div]

theorem decodeWord_suffix (e : ε) : ∀ w : ℕ, LeavesSuffix (decodeWord e w) := by
  intro w
  induction w with
  | zero =>
    intro bs n rest h
    cases h
    exact List.suffix_rfl
  | succ w ih =>
    intro bs n rest h
    cases bs with
    | nil => cases h
    | cons b bs =>
      obtain ⟨m, r, h1, h2⟩ := thenDecode_eq_ok.1 h
      cases h2
      exact (ih _ _ _ h1).trans (List.suffix_cons b bs)

theorem decodeWord_neverPanics (e : ε) : ∀ w : ℕ, NeverPanics (decodeWord e w) := by
  intro w
  induction w with
  | zero => intro bs h; cases h
  | succ w ih =>
    intro bs h
    cases bs with
    | nil => cases h
    | cons b bs =>
      rcases thenDecode_eq_panic.1 h with h1 | ⟨n, rest, -, h2⟩
      · exact ih bs h1
      · cases h2

end Decoder
