import Mathlib.Data.List.Basic
import Mathlib.Data.List.Nodup

/-!
# Text encodings of byte strings

Lower-case hexadecimal (`encodeBase16`) and standard padded base64 (`encodeBase64`), each
with its length and the fact that different byte strings get different texts.
-/

namespace Encoding

/-- The `n`-th character of an alphabet. -/
def digit (alphabet : List Char) (n : ℕ) : Char := alphabet.getD n '0'

theorem digit_eq {alphabet : List Char} {n : ℕ} (hn : n < alphabet.length) :
    digit alphabet n = alphabet[n] := by
  unfold digit
  rw [List.getD_eq_getElem?_getD, List.getElem?_eq_getElem hn, Option.getD_some]

/-- Different positions of an alphabet hold different characters. -/
theorem digit_inj {alphabet : List Char} (hnodup : alphabet.Nodup) {m n : ℕ}
    (hm : m < alphabet.length) (hn : n < alphabet.length)
    (h : digit alphabet m = digit alphabet n) : m = n := by
  rw [digit_eq hm, digit_eq hn] at h
  exact (List.Nodup.getElem_inj_iff hnodup).1 h

theorem digit_mem {alphabet : List Char} {n : ℕ} (hn : n < alphabet.length) :
    digit alphabet n ∈ alphabet := by
  rw [digit_eq hn]
  exact List.getElem_mem hn

/-! ### Hexadecimal -/

def hexAlphabet : List Char := "0123456789abcdef".toList

/-- The two digits of each byte, the high one first. -/
def hexChars : List UInt8 → List Char
  | [] => []
  | a :: bytes =>
    digit hexAlphabet (a.toNat / 16) :: digit hexAlphabet (a.toNat % 16) :: hexChars bytes

/-- Lower-case hexadecimal. -/
def encodeBase16 (bytes : List UInt8) : String := String.ofList (hexChars bytes)

theorem hexDigit_inj {m n : ℕ} (hm : m < 16) (hn : n < 16)
    (h : digit hexAlphabet m = digit hexAlphabet n) : m = n :=
  @digit_inj hexAlphabet (by decide) m n hm hn h

theorem length_hexChars : ∀ bytes : List UInt8, (hexChars bytes).length = 2 * bytes.length := by
  intro bytes
  induction bytes with
  | nil => rfl
  | cons a bytes ih =>
    simp only [hexChars, List.length_cons, ih]
    omega

theorem hexChars_inj : ∀ {x y : List UInt8}, hexChars x = hexChars y → x = y := by
  intro x
  induction x with
  | nil =>
    intro y h
    cases y with
    | nil => rfl
    | cons b y => cases h
  | cons a x ih =>
    intro y h
    cases y with
    | nil => cases h
    | cons b y =>
      simp only [hexChars, List.cons.injEq] at h
      obtain ⟨h1, h2, h3⟩ := h
      have ha := a.toNat_lt
      have hb := b.toNat_lt
      -- a byte is made of its two digits
      have hhigh := hexDigit_inj (by omega) (by omega) h1
      have hlow := hexDigit_inj (by omega) (by omega) h2
      have hab : a = b := UInt8.toNat_inj.1 (by omega)
      rw [hab, ih h3]

theorem length_encodeBase16 (bytes : List UInt8) :
    (encodeBase16 bytes).length = 2 * bytes.length := by
  unfold encodeBase16
  rw [String.length_ofList, length_hexChars]

/-- **Different byte strings have different hexadecimal texts.** -/
theorem encodeBase16_inj {x y : List UInt8} (h : encodeBase16 x = encodeBase16 y) : x = y :=
  hexChars_inj (String.ofList_inj.1 h)

/-! ### Base64 -/

def base64Alphabet : List Char :=
  "ABCDEFGHIJKLMNOPQRSTUVWXYZabcdefghijklmnopqrstuvwxyz0123456789+/".toList

/-- A character for six bits. -/
def sextet (n : ℕ) : Char := digit base64Alphabet n

/-- Four characters for three bytes; what is missing of the last three is padded. -/
def base64Chars : List UInt8 → List Char
  | [] => []
  | [a] => [sextet (a.toNat / 4), sextet (a.toNat % 4 * 16), '=', '=']
  | [a, b] =>
    [sextet (a.toNat / 4), sextet (a.toNat % 4 * 16 + b.toNat / 16), sextet (b.toNat % 16 * 4), '=']
  | a :: b :: c :: bytes =>
    sextet (a.toNat / 4) :: sextet (a.toNat % 4 * 16 + b.toNat / 16) ::
      sextet (b.toNat % 16 * 4 + c.toNat / 64) :: sextet (c.toNat % 64) :: base64Chars bytes

/-- Standard padded base64. -/
def encodeBase64 (bytes : List UInt8) : String := String.ofList (base64Chars bytes)

theorem sextet_inj {m n : ℕ} (hm : m < 64) (hn : n < 64) (h : sextet m = sextet n) : m = n :=
  @digit_inj base64Alphabet (by decide +kernel) m n hm hn h

/-- No character for six bits is the padding. -/
theorem sextet_ne_pad {n : ℕ} (hn : n < 64) : sextet n ≠ '=' := by
  intro h
  have hmem : '=' ∈ base64Alphabet := h ▸ @digit_mem base64Alphabet n hn
  exact absurd hmem (by decide +kernel)

theorem length_base64Chars (bytes : List UInt8) :
    (base64Chars bytes).length = 4 * ((bytes.length + 2) / 3) := by
  induction bytes using base64Chars.induct with
  | case1 => rfl
  | case2 a => simp [base64Chars]
  | case3 a b => simp [base64Chars]
  | case4 a b c bytes ih =>
    simp only [base64Chars, List.length_cons, ih]
    omega

theorem base64Chars_inj {x y : List UInt8} (h : base64Chars x = base64Chars y) : x = y := by
  induction x using base64Chars.induct generalizing y with
  | case1 =>
    -- only the empty byte string has an empty text
    rcases y with _ | ⟨a', _ | ⟨b', _ | ⟨c', y⟩⟩⟩
    · rfl
    all_goals cases h
  | case2 a =>
    have ha := a.toNat_lt
    rcases y with _ | ⟨a', _ | ⟨b', _ | ⟨c', y⟩⟩⟩
    · cases h
    · have ha' := a'.toNat_lt
      simp only [base64Chars, List.cons.injEq] at h
      have h1 := sextet_inj (by omega) (by omega) h.1
      have h2 := sextet_inj (by omega) (by omega) h.2.1
      have haa : a = a' := UInt8.toNat_inj.1 (by omega)
      rw [haa]
    · have hb' := b'.toNat_lt
      simp only [base64Chars, List.cons.injEq] at h
      exact absurd h.2.2.1.symm (sextet_ne_pad (by omega))
    · have hb' := b'.toNat_lt
      have hc' := c'.toNat_lt
      simp only [base64Chars, List.cons.injEq] at h
      exact absurd h.2.2.1.symm (sextet_ne_pad (by omega))
  | case3 a b =>
    have ha := a.toNat_lt
    have hb := b.toNat_lt
    rcases y with _ | ⟨a', _ | ⟨b', _ | ⟨c', y⟩⟩⟩
    · cases h
    · simp only [base64Chars, List.cons.injEq] at h
      exact absurd h.2.2.1 (sextet_ne_pad (by omega))
    · have ha' := a'.toNat_lt
      have hb' := b'.toNat_lt
      simp only [base64Chars, List.cons.injEq] at h
      have h1 := sextet_inj (by omega) (by omega) h.1
      have h2 := sextet_inj (by omega) (by omega) h.2.1
      have h3 := sextet_inj (by omega) (by omega) h.2.2.1
      have haa : a = a' := UInt8.toNat_inj.1 (by omega)
      have hbb : b = b' := UInt8.toNat_inj.1 (by omega)
      rw [haa, hbb]
    · have hc' := c'.toNat_lt
      simp only [base64Chars, List.cons.injEq] at h
      exact absurd h.2.2.2.1.symm (sextet_ne_pad (by omega))
  | case4 a b c bytes ih =>
    have ha := a.toNat_lt
    have hb := b.toNat_lt
    have hc := c.toNat_lt
    rcases y with _ | ⟨a', _ | ⟨b', _ | ⟨c', y⟩⟩⟩
    · cases h
    · simp only [base64Chars, List.cons.injEq] at h
      exact absurd h.2.2.1 (sextet_ne_pad (by omega))
    · simp only [base64Chars, List.cons.injEq] at h
      exact absurd h.2.2.2.1 (sextet_ne_pad (by omega))
    · have ha' := a'.toNat_lt
      have hb' := b'.toNat_lt
      have hc' := c'.toNat_lt
      simp only [base64Chars, List.cons.injEq] at h
      obtain ⟨h1, h2, h3, h4, hrest⟩ := h
      have h1 := sextet_inj (by omega) (by omega) h1
      have h2 := sextet_inj (by omega) (by omega) h2
      have h3 := sextet_inj (by omega) (by omega) h3
      have h4 := sextet_inj (by omega) (by omega) h4
      have haa : a = a' := UInt8.toNat_inj.1 (by omega)
      have hbb : b = b' := UInt8.toNat_inj.1 (by omega)
      have hcc : c = c' := UInt8.toNat_inj.1 (by omega)
      rw [haa, hbb, hcc, ih hrest]

theorem length_encodeBase64 (bytes : List UInt8) :
    (encodeBase64 bytes).length = 4 * ((bytes.length + 2) / 3) := by
  unfold encodeBase64
  rw [String.length_ofList, length_base64Chars]

/-- **Different byte strings have different base64 texts.** -/
theorem encodeBase64_inj {x y : List UInt8} (h : encodeBase64 x = encodeBase64 y) : x = y :=
  base64Chars_inj (String.ofList_inj.1 h)

example : encodeBase64 [102, 111, 111, 98] = "Zm9vYg==" := by decide +kernel

end Encoding
