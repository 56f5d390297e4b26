import Gutd.Shared.Words

set_option autoImplicit false

namespace Bytes

def wordByte (w : UInt32) (k : Nat) : UInt8 := UInt8.ofNat (w.toNat / 2 ^ (8 * k))

def bytesOfWords (v : Vector UInt32 4) : Buf := v.toList.flatMap toBeBytes

def wordsOfBytes (block : Buf) : Vector UInt32 4 := #v[be32At block 0, be32At block 4, be32At block 8, be32At block 12]

theorem toBeBytes_eq_wordByte (w : UInt32) : toBeBytes w = [wordByte w 3, wordByte w 2, wordByte w 1, wordByte w 0] := by
  simp [toBeBytes, toLeBytes, wordByte]

theorem bytesOfWords_eq (a b c d : UInt32) : bytesOfWords #v[a, b, c, d] = toBeBytes a ++ toBeBytes b ++ toBeBytes c ++ toBeBytes d := by
  simp [bytesOfWords]

@[simp] theorem length_bytesOfWords (v : Vector UInt32 4) : (bytesOfWords v).length = 16 := by
  simp [bytesOfWords, List.length_flatMap, List.map_const']

theorem vector4_eta {α : Type} (v : Vector α 4) :
    v = #v[v.get 0, v.get 1, v.get 2, v.get 3] := by
  apply Vector.ext
  intro i bounded
  match i, bounded with
  | 0, _ => rfl
  | 1, _ => rfl
  | 2, _ => rfl
  | 3, _ => rfl

theorem vector4_ofFn {α : Type} (f : Fin 4 → α) : Vector.ofFn f = #v[f 0, f 1, f 2, f 3] := by
  apply Vector.ext
  intro i bounded
  rw [Vector.getElem_ofFn]
  match i, bounded with
  | 0, _ => rfl
  | 1, _ => rfl
  | 2, _ => rfl
  | 3, _ => rfl

theorem vector4_get {α : Type} (a b c d : α) :
    (#v[a, b, c, d] : Vector α 4).get 0 = a ∧ (#v[a, b, c, d] : Vector α 4).get 1 = b ∧
      (#v[a, b, c, d] : Vector α 4).get 2 = c ∧ (#v[a, b, c, d] : Vector α 4).get 3 = d :=
  ⟨rfl, rfl, rfl, rfl⟩

theorem testBit_wordByte (w : UInt32) (k j : Nat) :
    (wordByte w k).toNat.testBit j = (decide (j < 8) && w.toNat.testBit (8 * k + j)) := by
  rw [wordByte, UInt8.toNat_ofNat', Nat.testBit_mod_two_pow, Nat.testBit_div_two_pow, Nat.add_comm j]

theorem testBit_byte_ge (b : UInt8) {j : Nat} (high : 8 ≤ j) : b.toNat.testBit j = false :=
  Nat.testBit_lt_two_pow (Nat.lt_of_lt_of_le b.toNat_lt (Nat.pow_le_pow_right (by omega) high))

theorem testBit_word_ge (w : UInt32) {j : Nat} (high : 32 ≤ j) : w.toNat.testBit j = false :=
  Nat.testBit_lt_two_pow (Nat.lt_of_lt_of_le w.toNat_lt (Nat.pow_le_pow_right (by omega) high))

theorem byte_ext {a b : UInt8} (bits : ∀ j, j < 8 → a.toNat.testBit j = b.toNat.testBit j) : a = b := by
  apply UInt8.toNat_inj.mp
  apply Nat.eq_of_testBit_eq
  intro j
  by_cases low : j < 8
  · exact bits j low
  · rw [testBit_byte_ge a (by omega), testBit_byte_ge b (by omega)]

theorem wordByte_xor (a b : UInt32) (k : Nat) : wordByte (a ^^^ b) k = wordByte a k ^^^ wordByte b k := by
  apply byte_ext
  intro j low
  rw [UInt8.toNat_xor, Nat.testBit_xor, testBit_wordByte, testBit_wordByte, testBit_wordByte, UInt32.toNat_xor, Nat.testBit_xor]
  simp [low]

theorem toNat_shiftRight_one (w : UInt32) : (w >>> 1).toNat = w.toNat >>> 1 := by
  rw [UInt32.toNat_shiftRight]
  rfl

theorem testBit_shiftLeft_31 (u : UInt32) (j : Nat) (low : j < 32) :
    (u <<< 31).toNat.testBit j = (decide (j = 31) && u.toNat.testBit 0) := by
  have amount : (31 : UInt32).toNat % 32 = 31 := rfl
  rw [UInt32.toNat_shiftLeft, amount, Nat.testBit_mod_two_pow, Nat.testBit_shiftLeft]
  by_cases top : j = 31
  · subst top
    simp
  · simp [top, show ¬ 31 ≤ j by omega]

theorem testBit_byte_shiftRight_one (b : UInt8) (j : Nat) : (b >>> 1).toNat.testBit j = b.toNat.testBit (1 + j) := by
  have amount : (1 : UInt8).toNat % 8 = 1 := rfl
  rw [UInt8.toNat_shiftRight, amount, Nat.testBit_shiftRight]

theorem testBit_byte_shiftLeft_7 (b : UInt8) (j : Nat) (low : j < 8) :
    (b <<< 7).toNat.testBit j = (decide (j = 7) && b.toNat.testBit 0) := by
  have amount : (7 : UInt8).toNat % 8 = 7 := rfl
  rw [UInt8.toNat_shiftLeft, amount, Nat.testBit_mod_two_pow, Nat.testBit_shiftLeft]
  by_cases top : j = 7
  · subst top
    simp
  · simp [top, show ¬ 7 ≤ j by omega]

theorem wordByte_shift_inner (w u : UInt32) {k : Nat} (inner : k < 3) :
    wordByte ((w >>> 1) ||| (u <<< 31)) k = (wordByte w k >>> 1) ||| (wordByte w (k + 1) <<< 7) := by
  apply byte_ext
  intro j low
  rw [testBit_wordByte, UInt32.toNat_or, Nat.testBit_or, toNat_shiftRight_one, Nat.testBit_shiftRight,
    testBit_shiftLeft_31 u _ (by omega), UInt8.toNat_or, Nat.testBit_or, testBit_byte_shiftRight_one,
    testBit_byte_shiftLeft_7 _ j low, testBit_wordByte, testBit_wordByte]
  by_cases top : j = 7
  · subst top
    simp [show ¬ 8 * k + 7 = 31 by omega, show 1 + (8 * k + 7) = 8 * (k + 1) by omega]
  · simp [low, top, show 1 + j < 8 by omega, show ¬ 8 * k + j = 31 by omega, show 1 + (8 * k + j) = 8 * k + (1 + j) by omega]

theorem wordByte_shift_top (w u : UInt32) :
    wordByte ((w >>> 1) ||| (u <<< 31)) 3 = (wordByte w 3 >>> 1) ||| (wordByte u 0 <<< 7) := by
  apply byte_ext
  intro j low
  rw [testBit_wordByte, UInt32.toNat_or, Nat.testBit_or, toNat_shiftRight_one, Nat.testBit_shiftRight,
    testBit_shiftLeft_31 u _ (by omega), UInt8.toNat_or, Nat.testBit_or, testBit_byte_shiftRight_one,
    testBit_byte_shiftLeft_7 _ j low, testBit_wordByte, testBit_wordByte]
  by_cases top : j = 7
  · subst top
    simp [testBit_word_ge w (show 32 ≤ 32 by omega)]
  · simp [low, top, show 1 + j < 8 by omega, show ¬ 24 + j = 31 by omega, show 1 + (24 + j) = 24 + (1 + j) by omega]

theorem wordByte_shift_first (w : UInt32) : wordByte (w >>> 1) 3 = wordByte w 3 >>> 1 := by
  have shifted := wordByte_shift_top w 0
  have none : (0 : UInt32) <<< 31 = 0 := rfl
  have nothing : wordByte 0 0 <<< 7 = 0 := rfl
  rwa [none, nothing, UInt32.or_zero, UInt8.or_zero] at shifted

theorem wordByte_shift_first_inner (w : UInt32) {k : Nat} (inner : k < 3) :
    wordByte (w >>> 1) k = (wordByte w k >>> 1) ||| (wordByte w (k + 1) <<< 7) := by
  have shifted := wordByte_shift_inner w 0 inner
  have none : (0 : UInt32) <<< 31 = 0 := rfl
  rwa [none, UInt32.or_zero] at shifted

theorem toNat_le32 (b0 b1 b2 b3 : UInt8) :
    (le32 b0 b1 b2 b3).toNat = b0.toNat + 2 ^ 8 * b1.toNat + 2 ^ 16 * b2.toNat + 2 ^ 24 * b3.toNat := by
  have := b0.toNat_lt; have := b1.toNat_lt; have := b2.toNat_lt; have := b3.toNat_lt
  rw [le32, UInt32.toNat_ofNat']
  omega

theorem toBeBytes_le32 (b0 b1 b2 b3 : UInt8) : toBeBytes (le32 b0 b1 b2 b3) = [b3, b2, b1, b0] := by
  have := b0.toNat_lt; have := b1.toNat_lt; have := b2.toNat_lt; have := b3.toNat_lt
  simp only [toBeBytes_eq_wordByte, wordByte, toNat_le32, List.cons.injEq, and_true, ← UInt8.toNat_inj, UInt8.toNat_ofNat']
  omega

theorem wordByte_be32At (buf : Buf) (off : Nat) {k : Nat} (inside : k < 4) : wordByte (be32At buf off) k = byteAt buf (off + (3 - k)) := by
  have bytes := toBeBytes_le32 (byteAt buf (off + 3)) (byteAt buf (off + 2)) (byteAt buf (off + 1)) (byteAt buf off)
  rw [toBeBytes_eq_wordByte] at bytes
  simp only [List.cons.injEq, and_true] at bytes
  match k, inside with
  | 0, _ => exact bytes.2.2.2
  | 1, _ => exact bytes.2.2.1
  | 2, _ => exact bytes.2.1
  | 3, _ => exact bytes.1

theorem bytesOfWords_wordsOfBytes {block : Buf} (width : block.length = 16) : bytesOfWords (wordsOfBytes block) = block := by
  match block, width with
  | [b0, b1, b2, b3, b4, b5, b6, b7, b8, b9, b10, b11, b12, b13, b14, b15], _ =>
    rw [wordsOfBytes, bytesOfWords_eq]
    simp only [be32At, toBeBytes_le32]
    rfl

theorem testBit_be32At (buf : Buf) (off : Nat) {b : Nat} (inside : b < 32) :
    (be32At buf off).toNat.testBit (31 - b) = (byteAt buf (off + b / 8)).toNat.testBit (7 - b % 8) := by
  have byte := testBit_wordByte (be32At buf off) (3 - b / 8) (7 - b % 8)
  rw [wordByte_be32At buf off (by omega), show 3 - (3 - b / 8) = b / 8 by omega,
    show 8 * (3 - b / 8) + (7 - b % 8) = 31 - b by omega, decide_eq_true (show 7 - b % 8 < 8 by omega), Bool.true_and] at byte
  exact byte.symm

theorem and_one_eq_one_iff_testBit (w : UInt32) {j : Nat} (inside : j < 32) :
    (w >>> UInt32.ofNat j) &&& 1 = 1 ↔ w.toNat.testBit j = true := by
  have amount : (UInt32.ofNat j).toNat % 32 = j := by
    rw [UInt32.toNat_ofNat']
    omega
  rw [← UInt32.toNat_inj, UInt32.toNat_and, UInt32.toNat_shiftRight, amount, Nat.testBit_eq_decide_div_mod_eq,
    Nat.shiftRight_eq_div_pow]
  change _ &&& 1 = 1 ↔ _
  rw [Nat.and_one_is_mod, decide_eq_true_iff]

theorem byte_and_one_eq_one_iff_testBit (b : UInt8) {j : Nat} (inside : j < 8) :
    (b >>> UInt8.ofNat j) &&& 1 = 1 ↔ b.toNat.testBit j = true := by
  have amount : (UInt8.ofNat j).toNat % 8 = j := by
    rw [UInt8.toNat_ofNat']
    omega
  rw [← UInt8.toNat_inj, UInt8.toNat_and, UInt8.toNat_shiftRight, amount, Nat.testBit_eq_decide_div_mod_eq,
    Nat.shiftRight_eq_div_pow]
  change _ &&& 1 = 1 ↔ _
  rw [Nat.and_one_is_mod, decide_eq_true_iff]

theorem toBeBytes_xor (a b : UInt32) :
    toBeBytes (a ^^^ b) = List.zipWith (· ^^^ ·) (toBeBytes a) (toBeBytes b) := by
  simp [toBeBytes_eq_wordByte, wordByte_xor]

end Bytes
