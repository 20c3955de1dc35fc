import Mathlib.Data.List.Basic

/-!
# BLAKE2b

The unkeyed hash with 32 bytes of output (`hash`), on words of 64 bits that are numbers
below `modulus`.
-/

namespace Blake2b

/-- Words are numbers below this one. -/
def modulus : ℕ := 0x10000000000000000

def word (n : ℕ) : ℕ := n % modulus

/-- A word rotated to the right. -/
def rotate (x n : ℕ) : ℕ := word (x >>> n ||| x <<< (64 - n))

def iv : List ℕ :=
  [0x6a09e667f3bcc908, 0xbb67ae8584caa73b, 0x3c6ef372fe94f82b, 0xa54ff53a5f1d36f1,
    0x510e527fade682d1, 0x9b05688c2b3e6c1f, 0x1f83d9abfb41bd6b, 0x5be0cd19137e2179]

/-- The order in which a round takes the words of its block; rounds eleven and twelve are as
the first two. -/
def sigma : List (List ℕ) :=
  [[0, 1, 2, 3, 4, 5, 6, 7, 8, 9, 10, 11, 12, 13, 14, 15],
    [14, 10, 4, 8, 9, 15, 13, 6, 1, 12, 0, 2, 11, 7, 5, 3],
    [11, 8, 12, 0, 5, 2, 15, 13, 10, 14, 3, 6, 7, 1, 9, 4],
    [7, 9, 3, 1, 13, 12, 11, 14, 2, 6, 5, 10, 4, 0, 15, 8],
    [9, 0, 5, 7, 2, 4, 10, 15, 14, 1, 11, 12, 6, 8, 3, 13],
    [2, 12, 6, 10, 0, 11, 8, 3, 4, 13, 7, 5, 15, 14, 1, 9],
    [12, 5, 1, 15, 14, 13, 4, 10, 0, 7, 6, 3, 9, 2, 8, 11],
    [13, 11, 7, 14, 12, 1, 3, 9, 5, 0, 15, 4, 8, 6, 2, 10],
    [6, 15, 14, 9, 11, 3, 0, 8, 12, 2, 13, 7, 1, 4, 10, 5],
    [10, 2, 8, 4, 7, 6, 1, 5, 15, 11, 9, 14, 3, 12, 13, 0],
    [0, 1, 2, 3, 4, 5, 6, 7, 8, 9, 10, 11, 12, 13, 14, 15],
    [14, 10, 4, 8, 9, 15, 13, 6, 1, 12, 0, 2, 11, 7, 5, 3]]

/-- The words at four places of the working vector. -/
def places : List (ℕ × ℕ × ℕ × ℕ) :=
  [(0, 4, 8, 12), (1, 5, 9, 13), (2, 6, 10, 14), (3, 7, 11, 15),
    (0, 5, 10, 15), (1, 6, 11, 12), (2, 7, 8, 13), (3, 4, 9, 14)]

/-- Mixes two words of the block into four of the working vector. -/
def mix (v : List ℕ) (p : ℕ × ℕ × ℕ × ℕ) (x y : ℕ) : List ℕ :=
  let (a, b, c, d) := p
  let va := word (v.getD a 0 + v.getD b 0 + x)
  let vd := rotate (v.getD d 0 ^^^ va) 32
  let vc := word (v.getD c 0 + vd)
  let vb := rotate (v.getD b 0 ^^^ vc) 24
  let va := word (va + vb + y)
  let vd := rotate (vd ^^^ va) 16
  let vc := word (vc + vd)
  let vb := rotate (vb ^^^ vc) 63
  (((v.set a va).set b vb).set c vc).set d vd

/-- One round: columns, then diagonals. -/
def mixAll (m : List ℕ) : List (ℕ × ℕ × ℕ × ℕ) → List ℕ → List ℕ → List ℕ
  | p :: ps, i :: j :: order, v => mixAll m ps order (mix v p (m.getD i 0) (m.getD j 0))
  | _, _, v => v

/-- The compression function: `t` bytes so far, and whether this block is the last. -/
def compress (h m : List ℕ) (t : ℕ) (last : Bool) : List ℕ :=
  let v := h ++ iv
  let v := v.set 12 (v.getD 12 0 ^^^ word t)
  let v := v.set 13 (v.getD 13 0 ^^^ t / modulus)
  let v := if last then v.set 14 (v.getD 14 0 ^^^ (modulus - 1)) else v
  let v := sigma.foldl (fun v order => mixAll m places order v) v
  List.zipWith (· ^^^ ·) h (List.zipWith (· ^^^ ·) (v.take 8) (v.drop 8))

/-- Eight bytes as a word, the lowest first. -/
def ofBytes : List UInt8 → ℕ
  | [] => 0
  | b :: bs => b.toNat + 256 * ofBytes bs

/-- The sixteen words of a block. -/
def wordsOf (block : List UInt8) : List ℕ :=
  (List.range 16).map fun i => ofBytes ((block.drop (8 * i)).take 8)

/-- The bytes of a word, the lowest first. -/
def toBytes (w : ℕ) : List UInt8 :=
  (List.range 8).map fun i => UInt8.ofNat (w >>> (8 * i) % 256)

/-- Goes through the blocks; there are at most `n + 1` of them. -/
def blocks : ℕ → List ℕ → ℕ → List UInt8 → List ℕ
  | 0, h, t, bytes => compress h (wordsOf bytes) (t + bytes.length) true
  | n + 1, h, t, bytes =>
    if bytes.length ≤ 128 then compress h (wordsOf bytes) (t + bytes.length) true
    else blocks n (compress h (wordsOf (bytes.take 128)) (t + 128) false) (t + 128) (bytes.drop 128)

/-- BLAKE2b, unkeyed, with 32 bytes of output. -/
def hash (bytes : List UInt8) : List UInt8 :=
  -- the first word also holds the length of the output
  let h := iv.set 0 (iv.getD 0 0 ^^^ 0x01010020)
  ((blocks (bytes.length / 128) h 0 bytes).take 4).flatMap toBytes

/-! ### Lengths -/

@[simp] theorem length_mix (v : List ℕ) (p : ℕ × ℕ × ℕ × ℕ) (x y : ℕ) :
    (mix v p x y).length = v.length := by
  simp [mix]

@[simp] theorem length_mixAll (m : List ℕ) (ps : List (ℕ × ℕ × ℕ × ℕ)) (order v : List ℕ) :
    (mixAll m ps order v).length = v.length := by
  induction ps, order, v using mixAll.induct m with
  | case1 p ps i j order v ih => rw [mixAll, ih, length_mix]
  | case2 ps order v h => rw [mixAll]; exact h

theorem length_rounds (m : List ℕ) :
    ∀ (orders : List (List ℕ)) (v : List ℕ),
      (orders.foldl (fun v order => mixAll m places order v) v).length = v.length := by
  intro orders
  induction orders with
  | nil => intro v; rfl
  | cons order orders ih =>
    intro v
    rw [List.foldl_cons, ih, length_mixAll]

theorem length_compress {h : List ℕ} (hh : h.length = 8) (m : List ℕ) (t : ℕ) (last : Bool) :
    (compress h m t last).length = 8 := by
  have hiv : iv.length = 8 := rfl
  unfold compress
  simp only [List.length_zipWith, List.length_take, List.length_drop, length_rounds]
  cases last <;> simp [hh, hiv]

theorem length_blocks : ∀ (n : ℕ) {h : List ℕ} (t : ℕ) (bytes : List UInt8), h.length = 8 →
    (blocks n h t bytes).length = 8 := by
  intro n
  induction n with
  | zero => intro h t bytes hh; exact length_compress hh _ _ _
  | succ n ih =>
    intro h t bytes hh
    unfold blocks
    split
    · exact length_compress hh _ _ _
    · exact ih _ _ (length_compress hh _ _ _)

/-- **The hash has 32 bytes.** -/
theorem length_hash (bytes : List UInt8) : (hash bytes).length = 32 := by
  have hword : ∀ w, (toBytes w).length = 8 := fun w => by simp [toBytes]
  have hblocks := length_blocks (bytes.length / 128) (h := iv.set 0 (iv.getD 0 0 ^^^ 0x01010020)) 0
    bytes rfl
  unfold hash
  simp only [List.length_flatMap, hword, List.map_const', List.sum_replicate_nat, List.length_take,
    hblocks]
  rfl

end Blake2b
